import WarmupGate.Proofs.Span.Grammar
import WarmupGate.Proofs.Text.Integer
import WarmupGate.Warmup.Plan.Resolve

/-!
# What a pod asks for

The annotations of a pod and what they stand for, said without the resolver. A value that is given
stands for exactly one thing or for nothing; only a value that is missing or empty leaves room for a
default, or for the port that the containers declare. A pod has a plan exactly if everything that it
asks for stands for something, and the plan is just that. Otherwise the first item in the order
requests, window, port that stands for nothing is reported. Why a text is no integer or no span is
not looked into here.
-/
namespace WarmupGate.Warmup.Plan

variable {pod : Pod} {plan : Plan} {key value : String} {fault : Fault}

def Given (pod : Pod) (key value : String) : Prop :=
  pod.annotation? key = some value ∧ value ≠ ""

def Ungiven (pod : Pod) (key : String) : Prop :=
  pod.annotation? key = none ∨ pod.annotation? key = some ""

theorem Given.unique {other : String} (h : Given pod key value) (k : Given pod key other) :
    value = other := Option.some.inj (h.1.symm.trans k.1)

theorem Given.not_ungiven (h : Given pod key value) : ¬ Ungiven pod key := by
  rintro (missing | empty)
  · cases h.1.symm.trans missing
  · cases h.1.symm.trans empty
    exact h.2 rfl

theorem override?_eq_some_iff : override? pod key = some value ↔ Given pod key value := by
  simp [override?, Given, Option.filter_eq_some_iff]

theorem override?_eq_none_iff : override? pod key = none ↔ Ungiven pod key := by
  unfold override? Ungiven
  cases pod.annotation? key <;> simp

theorem override?_cases (pod : Pod) (key : String) :
    (override? pod key = none ∧ Ungiven pod key) ∨
      ∃ value, override? pod key = some value ∧ Given pod key value := by
  cases h : override? pod key with
  | none => exact .inl ⟨rfl, override?_eq_none_iff.1 h⟩
  | some value => exact .inr ⟨value, rfl, override?_eq_some_iff.1 h⟩

section Overridden
variable {α : Type} {read : String → Except Fault α} {default a : α}

theorem overridden_eq_ok_iff :
    overridden (override? pod key) read default = .ok a ↔
      Ungiven pod key ∧ a = default ∨ ∃ value, Given pod key value ∧ read value = .ok a := by
  rcases override?_cases pod key with ⟨absent, free⟩ | ⟨value, present, given⟩
  · have ungiven : ∀ value, ¬ Given pod key value := fun _ given => given.not_ungiven free
    simp [overridden, absent, free, ungiven, eq_comm]
  · have only : ∀ other, Given pod key other ↔ other = value :=
      fun other => ⟨fun also => also.unique given, fun same => same ▸ given⟩
    simp [overridden, present, given.not_ungiven, only]

theorem overridden_eq_error (h : overridden (override? pod key) read default = .error fault) :
    ∃ value, Given pod key value ∧ read value = .error fault := by
  rcases override?_cases pod key with ⟨absent, -⟩ | ⟨value, present, given⟩
  · rw [absent] at h
    cases h
  · rw [present] at h
    exact ⟨value, given, h⟩

end Overridden

/-- An integer that fits into 64 bits with a sign. -/
def Fits (n : Int) : Prop := -(Word.size 63 : Int) ≤ n ∧ n ≤ (Word.size 63 - 1 : Nat)

theorem not_fits_of_readInt64 {s : List Char} {refusal : Text.IntegerFault} {n : Int}
    (h : Text.readInt64 s = .error refusal) (denotes : Text.Denotes s n) : ¬ Fits n := by
  intro fits
  cases h.symm.trans (Text.readInt64_eq_ok_iff.2 ⟨denotes, fits⟩)

/-- The number of requests that a pod asks for. -/
inductive AsksRequests (pod : Pod) : Nat → Prop
  | default : Ungiven pod Pod.Key.requests → AsksRequests pod 3
  | given {value : String} {n : Nat} : Given pod Pod.Key.requests value →
      Text.Denotes (Text.trim value.toList) n → 1 ≤ n → n ≤ Word.size 32 - 1 → AsksRequests pod n

inductive RequestsFault (pod : Pod) : Fault → Prop
  | unreadable {value reason : String} : Given pod Pod.Key.requests value →
      (∀ n, Text.Denotes (Text.trim value.toList) n → ¬ Fits n) →
      RequestsFault pod (.invalidRequests value reason)
  | tooFew {value : String} {n : Int} : Given pod Pod.Key.requests value →
      Text.Denotes (Text.trim value.toList) n → Fits n → n < 1 →
      RequestsFault pod (.tooFewRequests n)
  | tooMany {value : String} {n : Int} : Given pod Pod.Key.requests value →
      Text.Denotes (Text.trim value.toList) n → Fits n → (Word.size 32 - 1 : Nat) < n →
      RequestsFault pod (.invalidRequests value "must not exceed 4294967295")

theorem readRequests_eq_ok_iff {n : Nat} :
    readRequests value = .ok n ↔
      Text.Denotes (Text.trim value.toList) n ∧ 1 ≤ n ∧ n ≤ Word.size 32 - 1 := by
  have most : maxRequests = Word.size 32 - 1 := rfl
  have words : Word.size 32 - 1 ≤ Word.size 63 - 1 := by decide
  constructor
  · intro h
    unfold readRequests at h
    split at h
    · cases h
    · rename_i m read
      have denotes := (Text.readInt64_eq_ok_iff.1 read).1
      by_cases few : m < 1
      · rw [if_pos few] at h
        cases h
      · by_cases many : (maxRequests : Int) < m
        · rw [if_neg few, if_pos many] at h
          cases h
        · rw [if_neg few, if_neg many] at h
          cases h
          exact ⟨by rwa [Int.toNat_of_nonneg (by omega)], by omega, by omega⟩
  · rintro ⟨denotes, low, high⟩
    have read : Text.readInt64 (Text.trim value.toList) = .ok n :=
      Text.readInt64_eq_ok_iff.2 ⟨denotes, by omega, by omega⟩
    have few : ¬ (n : Int) < 1 := by omega
    have many : ¬ (maxRequests : Int) < n := by omega
    simp only [readRequests, read, if_neg few, if_neg many, Int.toNat_natCast]

theorem requestsFault_of_readRequests (given : Given pod Pod.Key.requests value)
    (h : readRequests value = .error fault) : RequestsFault pod fault := by
  unfold readRequests at h
  split at h
  · rename_i refusal refused
    cases h
    exact .unreadable given fun n => not_fits_of_readInt64 refused
  · rename_i m read
    obtain ⟨denotes, fits⟩ := Text.readInt64_eq_ok_iff.1 read
    split at h
    · rename_i few
      cases h
      exact .tooFew given denotes fits few
    · split at h
      · rename_i many
        cases h
        exact .tooMany given denotes fits many
      · cases h

theorem requests_eq_ok_iff {n : Nat} :
    overridden (override? pod Pod.Key.requests) readRequests ({} : Plan).requests = .ok n ↔
      AsksRequests pod n := by
  rw [overridden_eq_ok_iff]
  constructor
  · rintro (⟨free, rfl⟩ | ⟨value, given, read⟩)
    · exact .default free
    · obtain ⟨denotes, low, high⟩ := readRequests_eq_ok_iff.1 read
      exact .given given denotes low high
  · intro asks
    cases asks with
    | default free => exact .inl ⟨free, rfl⟩
    | given given denotes low high =>
      exact .inr ⟨_, given, readRequests_eq_ok_iff.2 ⟨denotes, low, high⟩⟩

theorem AsksRequests.bounds {n : Nat} (h : AsksRequests pod n) : 1 ≤ n ∧ n ≤ Word.size 32 - 1 := by
  cases h with
  | default => exact ⟨by decide, by decide⟩
  | given _ _ low high => exact ⟨low, high⟩

inductive AsksWindow (pod : Pod) : Span → Prop
  | default : Ungiven pod Pod.Key.duration → AsksWindow pod (.ofSeconds 30)
  | given {value : String} {d : Span} : Given pod Pod.Key.duration value →
      Span.read (Text.trim value.toList) = .ok (.positive d) → Span.ofSeconds 1 ≤ d →
      AsksWindow pod d

inductive WindowFault (pod : Pod) : Fault → Prop
  | unreadable {value reason : String} : Given pod Pod.Key.duration value →
      (∀ d, Span.read (Text.trim value.toList) ≠ .ok d) →
      WindowFault pod (.invalidDuration value reason)
  | negative {value : String} {d : Span} : Given pod Pod.Key.duration value →
      Span.read (Text.trim value.toList) = .ok (.negative d) →
      WindowFault pod (.durationTooShort ("-" ++ d.text))
  | short {value : String} {d : Span} : Given pod Pod.Key.duration value →
      Span.read (Text.trim value.toList) = .ok (.positive d) → d < Span.ofSeconds 1 →
      WindowFault pod (.durationTooShort d.text)

theorem readWindow_eq_ok_iff {d : Span} :
    readWindow value = .ok d ↔
      Span.read (Text.trim value.toList) = .ok (.positive d) ∧ Span.ofSeconds 1 ≤ d := by
  unfold readWindow
  split
  · simp_all
  · simp_all
  · rename_i m read
    by_cases long : minWindow ≤ m
    · rw [if_pos long, read]
      simp only [Except.ok.injEq, Span.Signed.positive.injEq]
      exact ⟨fun same => ⟨same, same ▸ long⟩, And.left⟩
    · rw [if_neg long, read]
      simp only [reduceCtorEq, Except.ok.injEq, Span.Signed.positive.injEq, false_iff]
      rintro ⟨rfl, least⟩
      exact long least

theorem windowFault_of_readWindow (given : Given pod Pod.Key.duration value)
    (h : readWindow value = .error fault) : WindowFault pod fault := by
  unfold readWindow at h
  split at h
  · rename_i refusal refused
    cases h
    exact .unreadable given fun d read => by cases refused.symm.trans read
  · cases h
    exact .negative given ‹_›
  · rename_i d read
    split at h
    · cases h
    · rename_i short
      cases h
      exact .short given read (Nat.lt_of_not_le short)

theorem window_eq_ok_iff {d : Span} :
    overridden (override? pod Pod.Key.duration) readWindow ({} : Plan).window = .ok d ↔
      AsksWindow pod d := by
  rw [overridden_eq_ok_iff]
  constructor
  · rintro (⟨free, rfl⟩ | ⟨value, given, read⟩)
    · exact .default free
    · obtain ⟨read, least⟩ := readWindow_eq_ok_iff.1 read
      exact .given given read least
  · intro asks
    cases asks with
    | default free => exact .inl ⟨free, rfl⟩
    | given given read least => exact .inr ⟨_, given, readWindow_eq_ok_iff.2 ⟨read, least⟩⟩

theorem AsksWindow.bounds {d : Span} (h : AsksWindow pod d) :
    Span.ofSeconds 1 ≤ d ∧ d.nanos ≤ Word.size 64 - 1 := by
  cases h with
  | default => exact ⟨by decide, by decide⟩
  | given _ read least => exact ⟨least, Span.nanos_le_of_read read⟩

def DeclaresOnly (pod : Pod) (port : Int) : Prop :=
  ∃ container, pod.spec.containers = [container] ∧ container.ports = [port]

inductive AsksPort (pod : Pod) : Nat → Prop
  | given {value : String} {p : Nat} : Given pod Pod.Key.port value →
      Text.Denotes (Text.trim value.toList) p → 1 ≤ p → p ≤ 65535 → AsksPort pod p
  | declared {p : Nat} : Ungiven pod Pod.Key.port → DeclaresOnly pod p → 1 ≤ p → p ≤ 65535 →
      AsksPort pod p

inductive PortFault (pod : Pod) : Fault → Prop
  | unreadable {value reason : String} : Given pod Pod.Key.port value →
      (∀ n, Text.Denotes (Text.trim value.toList) n → ¬ Fits n) →
      PortFault pod (.invalidPort value reason)
  | givenOutOfRange {value : String} {n : Int} : Given pod Pod.Key.port value →
      Text.Denotes (Text.trim value.toList) n → Fits n → ¬ (1 ≤ n ∧ n ≤ 65535) →
      PortFault pod (.portOutOfRange n)
  | declaredOutOfRange {n : Int} : Ungiven pod Pod.Key.port → DeclaresOnly pod n →
      ¬ (1 ≤ n ∧ n ≤ 65535) → PortFault pod (.portOutOfRange n)
  | noContainer : Ungiven pod Pod.Key.port → pod.spec.containers = [] → PortFault pod .noPorts
  | noPort {container : Container} : Ungiven pod Pod.Key.port →
      pod.spec.containers = [container] → container.ports = [] → PortFault pod .noPorts
  | severalPorts {container : Container} : Ungiven pod Pod.Key.port →
      pod.spec.containers = [container] → 1 < container.ports.length →
      PortFault pod (.severalPorts container.name)
  | severalContainers : Ungiven pod Pod.Key.port → 1 < pod.spec.containers.length →
      PortFault pod .severalContainers

theorem checkPort_eq_ok_iff {n : Int} {p : Nat} :
    checkPort n = .ok p ↔ n = p ∧ 1 ≤ p ∧ p ≤ 65535 := by
  have most : maxPort = 65535 := rfl
  unfold checkPort
  split
  · simp only [Except.ok.injEq]
    constructor
    · rintro rfl
      exact ⟨by omega, by omega, by omega⟩
    · rintro ⟨rfl, -, -⟩
      rfl
  · simp only [reduceCtorEq, false_iff]
    omega

theorem checkPort_eq_error {n : Int} (h : checkPort n = .error fault) :
    fault = .portOutOfRange n ∧ ¬ (1 ≤ n ∧ n ≤ 65535) := by
  unfold checkPort at h
  split at h
  · cases h
  · cases h
    exact ⟨rfl, ‹_›⟩

theorem readPort_eq_ok_iff {p : Nat} :
    readPort value = .ok p ↔ Text.Denotes (Text.trim value.toList) p ∧ 1 ≤ p ∧ p ≤ 65535 := by
  have words : 65535 ≤ Word.size 63 - 1 := by decide
  unfold readPort
  split
  · rename_i refusal refused
    simp only [reduceCtorEq, false_iff]
    rintro ⟨denotes, low, high⟩
    exact not_fits_of_readInt64 refused denotes ⟨by omega, by omega⟩
  · rename_i n read
    have denotes := (Text.readInt64_eq_ok_iff.1 read).1
    rw [checkPort_eq_ok_iff]
    constructor
    · rintro ⟨rfl, bounds⟩
      exact ⟨denotes, bounds⟩
    · rintro ⟨other, bounds⟩
      exact ⟨denotes.unique other, bounds⟩

theorem portFault_of_readPort (given : Given pod Pod.Key.port value)
    (h : readPort value = .error fault) : PortFault pod fault := by
  unfold readPort at h
  split at h
  · rename_i refusal refused
    cases h
    exact .unreadable given fun n => not_fits_of_readInt64 refused
  · rename_i n read
    obtain ⟨denotes, fits⟩ := Text.readInt64_eq_ok_iff.1 read
    obtain ⟨rfl, outside⟩ := checkPort_eq_error h
    exact .givenOutOfRange given denotes fits outside

theorem detectPort_eq_ok_iff {p : Nat} :
    detectPort pod.spec.containers = .ok p ↔ DeclaresOnly pod p ∧ 1 ≤ p ∧ p ≤ 65535 := by
  unfold detectPort DeclaresOnly
  split
  · simp_all
  · rename_i container only
    split
    · simp_all
    · simp_all [checkPort_eq_ok_iff]
    · simp_all
  · simp_all

theorem portFault_of_detectPort (free : Ungiven pod Pod.Key.port)
    (h : detectPort pod.spec.containers = .error fault) : PortFault pod fault := by
  unfold detectPort at h
  split at h
  · cases h
    exact .noContainer free ‹_›
  · rename_i container only
    split at h
    · cases h
      exact .noPort free only ‹_›
    · rename_i port ports
      obtain ⟨rfl, outside⟩ := checkPort_eq_error h
      exact .declaredOutOfRange free ⟨container, only, ports⟩ outside
    · rename_i some more
      cases h
      refine .severalPorts free only ?_
      cases ports : container.ports with
      | nil => exact absurd ports some
      | cons first rest =>
        cases rest with
        | nil => exact absurd ports (more first)
        | cons => simp
  · rename_i some more
    cases h
    refine .severalContainers free ?_
    cases containers : pod.spec.containers with
    | nil => exact absurd containers some
    | cons first rest =>
      cases rest with
      | nil => exact absurd containers (more first)
      | cons => simp

/-- The resolver's port is what the pod asks for: the annotation's, whatever the containers declare.
-/
theorem resolvePort_eq_ok_iff {p : Nat} : resolvePort pod = .ok p ↔ AsksPort pod p := by
  rcases override?_cases pod Pod.Key.port with ⟨absent, free⟩ | ⟨value, present, given⟩
  · rw [resolvePort, absent, detectPort_eq_ok_iff]
    constructor
    · rintro ⟨declares, low, high⟩
      exact .declared free declares low high
    · intro asks
      cases asks with
      | given given => exact absurd free given.not_ungiven
      | declared _ declares low high => exact ⟨declares, low, high⟩
  · rw [resolvePort, present, readPort_eq_ok_iff]
    constructor
    · rintro ⟨denotes, low, high⟩
      exact .given given denotes low high
    · intro asks
      cases asks with
      | given other denotes low high =>
        obtain rfl := given.unique other
        exact ⟨denotes, low, high⟩
      | declared free => exact absurd free given.not_ungiven

theorem portFault_of_resolvePort (h : resolvePort pod = .error fault) : PortFault pod fault := by
  rcases override?_cases pod Pod.Key.port with ⟨absent, free⟩ | ⟨value, present, given⟩
  · rw [resolvePort, absent] at h
    exact portFault_of_detectPort free h
  · rw [resolvePort, present] at h
    exact portFault_of_readPort given h

theorem AsksPort.bounds {p : Nat} (h : AsksPort pod p) : 1 ≤ p ∧ p ≤ 65535 := by
  cases h with
  | given _ _ low high => exact ⟨low, high⟩
  | declared _ _ low high => exact ⟨low, high⟩

inductive AsksEndpoint (pod : Pod) : String → Prop
  | default : Ungiven pod Pod.Key.endpoint → AsksEndpoint pod "/"
  | rooted {value : String} : Given pod Pod.Key.endpoint value → value.toList.head? = some '/' →
      AsksEndpoint pod value
  | bare {value : String} : Given pod Pod.Key.endpoint value → value.toList.head? ≠ some '/' →
      AsksEndpoint pod ("/" ++ value)

theorem normalizePath_of_rooted (h : value.toList.head? = some '/') :
    normalizePath value = value := by
  obtain ⟨rest, eq⟩ := List.head?_eq_some_iff.1 h
  simp [normalizePath, eq]

theorem normalizePath_of_bare (h : value.toList.head? ≠ some '/') :
    normalizePath value = "/" ++ value := by
  unfold normalizePath
  split
  · rename_i eq
    exact absurd (by rw [eq]; rfl) h
  · rfl

theorem endpoint_eq_iff {endpoint : String} :
    endpoint = ((override? pod Pod.Key.endpoint).map normalizePath).getD ({} : Plan).endpoint ↔
      AsksEndpoint pod endpoint := by
  rcases override?_cases pod Pod.Key.endpoint with ⟨absent, free⟩ | ⟨value, present, given⟩
  · rw [absent, Option.map_none, Option.getD_none]
    constructor
    · rintro rfl
      exact .default free
    · intro asks
      cases asks with
      | default => rfl
      | rooted given => exact absurd free given.not_ungiven
      | bare given => exact absurd free given.not_ungiven
  · rw [present, Option.map_some, Option.getD_some]
    constructor
    · rintro rfl
      by_cases slash : value.toList.head? = some '/'
      · rw [normalizePath_of_rooted slash]
        exact .rooted given slash
      · rw [normalizePath_of_bare slash]
        exact .bare given slash
    · intro asks
      cases asks with
      | default free => exact absurd free given.not_ungiven
      | rooted other slash =>
        obtain rfl := given.unique other
        rw [normalizePath_of_rooted slash]
      | bare other slash =>
        obtain rfl := given.unique other
        rw [normalizePath_of_bare slash]

theorem AsksEndpoint.rooted_endpoint {endpoint : String} (h : AsksEndpoint pod endpoint) :
    endpoint.toList.head? = some '/' := by
  cases h with
  | default => rfl
  | rooted _ slash => exact slash
  | bare => simp

/-- The address that a pod has, if it has one. -/
def HasAddress (pod : Pod) (address : String) : Prop :=
  pod.status.address = some address ∧ address ≠ ""

/-- A plan is what a pod asks for. -/
structure Asks (pod : Pod) (plan : Plan) : Prop where
  requests : AsksRequests pod plan.requests
  window : AsksWindow pod plan.window
  port : AsksPort pod plan.port
  endpoint : AsksEndpoint pod plan.endpoint
  address : ∀ address, plan.address = some address ↔ HasAddress pod address
  podName : plan.podName = pod.metadata.name.getD ""
  ns : plan.ns = pod.metadata.ns.getD ""

/-- The bounds of all plans that pods have. -/
structure InBounds (plan : Plan) : Prop where
  requests : 1 ≤ plan.requests ∧ plan.requests ≤ Word.size 32 - 1
  window : Span.ofSeconds 1 ≤ plan.window ∧ plan.window.nanos ≤ Word.size 64 - 1
  port : 1 ≤ plan.port ∧ plan.port ≤ 65535
  endpoint : plan.endpoint.toList.head? = some '/'
  address : plan.address ≠ some ""

theorem Asks.inBounds (h : Asks pod plan) : InBounds plan where
  requests := h.requests.bounds
  window := h.window.bounds
  port := h.port.bounds
  endpoint := h.endpoint.rooted_endpoint
  address := fun empty => ((h.address "").1 empty).2 rfl

/-- The first item that stands for nothing, and how it is reported. -/
inductive FirstFault (pod : Pod) : Fault → Prop
  | requests {fault : Fault} : (∀ n, ¬ AsksRequests pod n) → RequestsFault pod fault →
      FirstFault pod fault
  | window {fault : Fault} {n : Nat} : AsksRequests pod n → (∀ d, ¬ AsksWindow pod d) →
      WindowFault pod fault → FirstFault pod fault
  | port {fault : Fault} {n : Nat} {d : Span} : AsksRequests pod n → AsksWindow pod d →
      (∀ p, ¬ AsksPort pod p) → PortFault pod fault → FirstFault pod fault

/-- The plan of a pod whose items have these values. -/
def assembled (pod : Pod) (requests : Nat) (window : Span) (port : Nat) : Plan :=
  { endpoint := ((override? pod Pod.Key.endpoint).map normalizePath).getD ({} : Plan).endpoint
    requests, window, port
    address := pod.status.address.filter (· ≠ "")
    podName := pod.metadata.name.getD ""
    ns := pod.ns }

/-- Resolving a pod reports the first item that stands for nothing, or puts the values together. -/
theorem resolve_cases (pod : Pod) :
    (∃ fault, FirstFault pod fault ∧ resolve pod = .error fault) ∨
      ∃ n d p, AsksRequests pod n ∧ AsksWindow pod d ∧ AsksPort pod p ∧
        resolve pod = .ok (assembled pod n d p) := by
  unfold resolve
  cases requests : overridden (override? pod Pod.Key.requests) readRequests
      ({} : Plan).requests with
  | error fault =>
    obtain ⟨value, given, read⟩ := overridden_eq_error requests
    have none : ∀ n, ¬ AsksRequests pod n := by
      intro n asks
      cases requests.symm.trans (requests_eq_ok_iff.2 asks)
    exact .inl ⟨fault, .requests none (requestsFault_of_readRequests given read), rfl⟩
  | ok n =>
    have asksRequests := requests_eq_ok_iff.1 requests
    cases window : overridden (override? pod Pod.Key.duration) readWindow ({} : Plan).window with
    | error fault =>
      obtain ⟨value, given, read⟩ := overridden_eq_error window
      have none : ∀ d, ¬ AsksWindow pod d := by
        intro d asks
        cases window.symm.trans (window_eq_ok_iff.2 asks)
      exact .inl ⟨fault, .window asksRequests none (windowFault_of_readWindow given read), rfl⟩
    | ok d =>
      have asksWindow := window_eq_ok_iff.1 window
      cases port : resolvePort pod with
      | error fault =>
        have none : ∀ p, ¬ AsksPort pod p := by
          intro p asks
          cases port.symm.trans (resolvePort_eq_ok_iff.2 asks)
        exact .inl
          ⟨fault, .port asksRequests asksWindow none (portFault_of_resolvePort port), rfl⟩
      | ok p =>
        exact .inr ⟨n, d, p, asksRequests, asksWindow, resolvePort_eq_ok_iff.1 port, rfl⟩

theorem FirstFault.not_asks (h : FirstFault pod fault) (plan : Plan) : ¬ Asks pod plan := by
  intro asks
  cases h with
  | requests none => exact none _ asks.requests
  | window _ none => exact none _ asks.window
  | port _ _ none => exact none _ asks.port

theorem address_eq_iff {address? : Option String} :
    address? = pod.status.address.filter (· ≠ "") ↔
      ∀ address, address? = some address ↔ HasAddress pod address := by
  constructor
  · rintro rfl address
    simp [HasAddress, Option.filter_eq_some_iff]
  · intro same
    refine Option.ext fun address => ?_
    rw [same address]
    simp [HasAddress, Option.filter_eq_some_iff]

theorem asks_assembled {n p : Nat} {d : Span} (requests : AsksRequests pod n)
    (window : AsksWindow pod d) (port : AsksPort pod p) : Asks pod (assembled pod n d p) where
  requests := requests
  window := window
  port := port
  endpoint := endpoint_eq_iff.1 rfl
  address := address_eq_iff.1 rfl
  podName := rfl
  ns := rfl

theorem Asks.eq_assembled {n p : Nat} {d : Span} (h : Asks pod plan)
    (requests : AsksRequests pod n) (window : AsksWindow pod d) (port : AsksPort pod p) :
    plan = assembled pod n d p := by
  cases (requests_eq_ok_iff.2 h.requests).symm.trans (requests_eq_ok_iff.2 requests)
  cases (window_eq_ok_iff.2 h.window).symm.trans (window_eq_ok_iff.2 window)
  cases (resolvePort_eq_ok_iff.2 h.port).symm.trans (resolvePort_eq_ok_iff.2 port)
  have endpoint := endpoint_eq_iff.2 h.endpoint
  have address := address_eq_iff.2 h.address
  have podName := h.podName
  have ns := h.ns
  cases plan
  simp only at endpoint address podName ns
  subst endpoint address podName ns
  rfl

theorem resolve_eq_ok_iff : resolve pod = .ok plan ↔ Asks pod plan := by
  rcases resolve_cases pod with ⟨fault, first, eq⟩ | ⟨n, d, p, requests, window, port, eq⟩
  · rw [eq]
    exact ⟨(nomatch ·), fun asks => absurd asks (first.not_asks plan)⟩
  · rw [eq, Except.ok.injEq]
    constructor
    · rintro rfl
      exact asks_assembled requests window port
    · exact fun asks => (asks.eq_assembled requests window port).symm

theorem firstFault_of_resolve (h : resolve pod = .error fault) : FirstFault pod fault := by
  rcases resolve_cases pod with ⟨fault', first, eq⟩ | ⟨n, d, p, -, -, -, eq⟩
  · cases eq.symm.trans h
    exact first
  · cases eq.symm.trans h

theorem exists_plan_iff :
    (∃ plan, resolve pod = .ok plan) ↔
      (∃ n, AsksRequests pod n) ∧ (∃ d, AsksWindow pod d) ∧ ∃ p, AsksPort pod p := by
  constructor
  · rintro ⟨plan, h⟩
    have asks := resolve_eq_ok_iff.1 h
    exact ⟨⟨_, asks.requests⟩, ⟨_, asks.window⟩, _, asks.port⟩
  · rintro ⟨⟨n, requests⟩, ⟨d, window⟩, p, port⟩
    exact ⟨assembled pod n d p, resolve_eq_ok_iff.2 (asks_assembled requests window port)⟩

/-- A pod has a plan exactly if its numbers of requests, its window and its port stand for
something, and the plan is what it asks for. Then all values are within their bounds. If there is no
plan, the first item that stands for nothing is reported. -/
theorem resolve_iff_asks (pod : Pod) :
    (∀ plan, resolve? (some pod) = .ok plan ↔ Asks pod plan) ∧
      ((∃ plan, resolve? (some pod) = .ok plan) ↔
        (∃ n, AsksRequests pod n) ∧ (∃ d, AsksWindow pod d) ∧ ∃ p, AsksPort pod p) ∧
      (∀ plan, resolve? (some pod) = .ok plan → InBounds plan) ∧
      ∀ fault, resolve? (some pod) = .error fault → FirstFault pod fault :=
  ⟨fun _ => resolve_eq_ok_iff, exists_plan_iff, fun _ h => (resolve_eq_ok_iff.1 h).inBounds,
    fun _ => firstFault_of_resolve⟩

end WarmupGate.Warmup.Plan
