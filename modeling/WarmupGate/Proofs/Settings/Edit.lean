import WarmupGate.Settings.Edit

/-!
# Edits and rules of settings

A field has the value of the last edit that sets it, and no edit but starting over sets more than
one. Settings can be built exactly if they keep six rules; otherwise the fault is that of the first
rule, in their order, that is broken. What the settings do to the process is not said here.
-/
namespace WarmupGate.Settings

variable {s : Settings}

inductive Field where
  | ns
  | node
  | concurrency
  | requeueSeconds
  | errorRequeueSeconds
  | warmup
  | metrics
  | health
  | logDir
  | logLevel
  | logJson
  deriving DecidableEq, Repr

def Field.Value : Field → Type
  | .ns | .node | .logDir | .logLevel => Option String
  | .concurrency => UInt16
  | .requeueSeconds | .errorRequeueSeconds => UInt64
  | .warmup | .logJson => Bool
  | .metrics => Option Endpoint
  | .health => Endpoint

def value (s : Settings) : (f : Field) → f.Value
  | .ns => s.ns
  | .node => s.node
  | .concurrency => s.concurrency
  | .requeueSeconds => s.requeueSeconds
  | .errorRequeueSeconds => s.errorRequeueSeconds
  | .warmup => s.warmup
  | .metrics => s.metrics
  | .health => s.health
  | .logDir => s.logDir
  | .logLevel => s.logLevel
  | .logJson => s.logJson

namespace Edit

/-- The value that an edit gives to a field, if it sets it. -/
def given? : Edit → (f : Field) → Option f.Value
  | .ns name, .ns => some (some name)
  | .maybeNs name, .ns => some name
  | .node name, .node => some (some name)
  | .maybeNode name, .node => some name
  | .concurrency count, .concurrency => some count
  | .requeueSeconds count, .requeueSeconds => some count
  | .errorRequeueSeconds count, .errorRequeueSeconds => some count
  | .warmup enabled, .warmup => some enabled
  | .disableWarmup, .warmup => some false
  | .metrics host port, .metrics => some (some ⟨port, host⟩)
  | .maybeMetrics endpoint, .metrics => some endpoint
  | .health host port, .health => some ⟨port, host⟩
  | .maybeLogDir path, .logDir => some path
  | .maybeLogLevel name, .logLevel => some name
  | .logJson enabled, .logJson => some enabled
  | .startOver, f => some (({} : Settings).value f)
  | _, _ => none

def field? : Edit → Option Field
  | .ns _ | .maybeNs _ => some .ns
  | .node _ | .maybeNode _ => some .node
  | .concurrency _ => some .concurrency
  | .requeueSeconds _ => some .requeueSeconds
  | .errorRequeueSeconds _ => some .errorRequeueSeconds
  | .warmup _ | .disableWarmup => some .warmup
  | .metrics _ _ | .maybeMetrics _ => some .metrics
  | .health _ _ => some .health
  | .maybeLogDir _ => some .logDir
  | .maybeLogLevel _ => some .logLevel
  | .logJson _ => some .logJson
  | .rebuild | .startOver => none

theorem field?_of_given {e : Edit} {f : Field} (single : e ≠ .startOver)
    (given : e.given? f ≠ none) : e.field? = some f := by
  cases e <;> cases f <;> first
    | rfl
    | exact absurd rfl given
    | exact absurd rfl single

end Edit

theorem value_edit (s : Settings) (e : Edit) (f : Field) :
    (s.edit e).value f = (e.given? f).getD (s.value f) := by
  cases e <;> cases f <;> rfl

/-- What edits of settings leave in a field: the value that the last edit of it gives, or the value
that was there if none of them sets it. -/
def LastGiven (s : Settings) (f : Field) (edits : List Edit) (v : f.Value) : Prop :=
  (∃ before e after, edits = before ++ e :: after ∧ e.given? f = some v ∧
    ∀ later ∈ after, later.given? f = none) ∨
  ((∀ e ∈ edits, e.given? f = none) ∧ v = s.value f)

theorem lastGiven_foldl (s : Settings) (f : Field) (edits : List Edit) :
    LastGiven s f edits ((edits.foldl edit s).value f) := by
  induction edits generalizing s with
  | nil => exact .inr ⟨nofun, rfl⟩
  | cons e edits ih =>
    rw [List.foldl_cons]
    -- either an edit behind this one sets the field, or this one decides
    obtain ⟨before, last, after, split, given, unset⟩ | ⟨unset, kept⟩ := ih (s.edit e)
    · exact .inl ⟨e :: before, last, after, congrArg (e :: ·) split, given, unset⟩
    · rw [kept, value_edit]
      cases here : e.given? f with
      | none => exact .inr ⟨List.forall_mem_cons.2 ⟨here, unset⟩, rfl⟩
      | some v => exact .inl ⟨[], e, edits, rfl, here, unset⟩

inductive Rule where
  | concurrency
  | requeueDelay
  | probePort
  | metricsPort
  | serversApart
  | logLevel
  deriving DecidableEq, Repr

namespace Rule

/-- The rules in the order in which they are looked at. -/
def order : List Rule :=
  [.concurrency, .requeueDelay, .probePort, .metricsPort, .serversApart, .logLevel]

theorem mem_order (r : Rule) : r ∈ order := by
  cases r <;> decide

def levelNames : List String := ["trace", "debug", "info", "warn", "warning", "error"]

def Kept (s : Settings) : Rule → Prop
  | .concurrency => 1 ≤ s.concurrency.toNat
  | .requeueDelay => 1 ≤ s.requeueSeconds.toNat
  | .probePort => 1 ≤ s.health.port.toNat
  | .metricsPort => ∀ e, s.metrics = some e → 1 ≤ e.port.toNat
  | .serversApart => ∀ e, s.metrics = some e → ¬ (e.host = s.health.host ∧ e.port = s.health.port)
  | .logLevel => ∀ name, s.logLevel = some name → name.toLower ∈ levelNames

def fault (s : Settings) : Rule → Fault
  | .concurrency => .invalidValue "concurrency" "0" "must be at least 1"
  | .requeueDelay => .invalidValue "requeue_delay_secs" "0" "must be at least 1 second"
  | .probePort => .invalidValue "health.port" "0" "must be between 1 and 65535"
  | .metricsPort => .invalidValue "metrics.port" "0" "must be between 1 and 65535"
  | .serversApart =>
    .incompatible ("metrics and health probe servers cannot both bind " ++ s.health.text)
  | .logLevel =>
    .invalidValue "log_level" (s.logLevel.getD "") "expected one of trace, debug, info, warn, error"

end Rule

/-- A check follows a list of rules: it succeeds if all are kept, and tells the first broken one. -/
inductive Follows (s : Settings) : List Rule → Except Fault Unit → Prop
  | done : Follows s [] (.ok ())
  | kept {r : Rule} {rs : List Rule} {result : Except Fault Unit} : r.Kept s → Follows s rs result →
      Follows s (r :: rs) result
  | broken {r : Rule} {rs : List Rule} : ¬ r.Kept s → Follows s (r :: rs) (.error (r.fault s))

namespace Follows

variable {rs qs : List Rule} {first second : Except Fault Unit} {told : Fault}

theorem andThen (h : Follows s rs first) (k : Follows s qs second) :
    Follows s (rs ++ qs) (first >>= fun _ => second) := by
  induction h with
  | done => exact k
  | kept keeps _ ih => exact .kept keeps ih
  | broken breaks => exact .broken breaks

theorem ok_iff (h : Follows s rs first) : first = .ok () ↔ ∀ r ∈ rs, r.Kept s := by
  induction h with
  | done => simp
  | kept keeps _ ih => simp [ih, keeps]
  | broken breaks => simp [breaks]

theorem error_iff (h : Follows s rs first) : first = .error told ↔
    ∃ before r after, rs = before ++ r :: after ∧ (∀ q ∈ before, q.Kept s) ∧ ¬ r.Kept s ∧
      told = r.fault s := by
  induction h with
  | done => simp
  | @kept r rs result keeps _ ih =>
    rw [ih]
    constructor
    · rintro ⟨before, q, after, rfl, earlier, breaks⟩
      exact ⟨r :: before, q, after, rfl, List.forall_mem_cons.2 ⟨keeps, earlier⟩, breaks⟩
    · rintro ⟨before, q, after, split, earlier, breaks⟩
      cases before with
      | nil =>
        obtain ⟨rfl, -⟩ := List.cons.inj split
        exact absurd keeps breaks.1
      | cons p before =>
        obtain ⟨rfl, rest⟩ := List.cons.inj split
        exact ⟨before, q, after, rest, (List.forall_mem_cons.1 earlier).2, breaks⟩
  | @broken r rs breaks =>
    constructor
    · intro same
      exact ⟨[], r, rs, rfl, nofun, breaks, (Except.error.inj same).symm⟩
    · rintro ⟨before, q, after, split, earlier, -, rfl⟩
      cases before with
      | nil => rw [(List.cons.inj split).1]
      | cons p before =>
        obtain ⟨rfl, -⟩ := List.cons.inj split
        exact absurd (List.forall_mem_cons.1 earlier).1 breaks

end Follows

theorem one_le_port {port : UInt16} (given : port ≠ 0) : 1 ≤ port.toNat := by
  apply Nat.pos_of_ne_zero
  exact fun zero => given (UInt16.toNat_inj.1 zero)

theorem follows_checkWork (s : Settings) :
    Follows s [.concurrency, .requeueDelay] s.checkWork := by
  unfold checkWork
  by_cases work : s.concurrency = 0
  · rw [if_pos work]
    apply Follows.broken
    simp [Rule.Kept, work]
  · rw [if_neg work]
    have keeps : Rule.concurrency.Kept s := by
      apply Nat.pos_of_ne_zero
      exact fun zero => work (UInt16.toNat_inj.1 zero)
    apply Follows.kept keeps
    by_cases delay : s.requeueSeconds = 0
    · rw [if_pos delay]
      apply Follows.broken
      simp [Rule.Kept, delay]
    · rw [if_neg delay]
      have keeps : Rule.requeueDelay.Kept s := by
        apply Nat.pos_of_ne_zero
        exact fun zero => delay (UInt64.toNat_inj.1 zero)
      exact .kept keeps .done

theorem shares_iff {e other : Endpoint} :
    e.host = other.host ∧ e.port = other.port ↔ e = other := by
  cases e
  cases other
  simp [and_comm]

theorem follows_checkEndpoints (s : Settings) :
    Follows s [.probePort, .metricsPort, .serversApart] s.checkEndpoints := by
  unfold checkEndpoints
  by_cases probe : s.health.port = 0
  · rw [if_pos probe]
    apply Follows.broken
    simp [Rule.Kept, probe]
  · rw [if_neg probe]
    have keeps : Rule.probePort.Kept s := one_le_port probe
    apply Follows.kept keeps
    cases served : s.metrics with
    | none => exact .kept (by simp [Rule.Kept, served]) (.kept (by simp [Rule.Kept, served]) .done)
    | some e =>
      by_cases port : e.port = 0
      · simp only [if_pos port]
        apply Follows.broken
        simp [Rule.Kept, served, port]
      · simp only [if_neg port]
        have keeps : Rule.metricsPort.Kept s := by
          intro other same
          obtain rfl := Option.some.inj (served.symm.trans same)
          exact one_le_port port
        apply Follows.kept keeps
        by_cases shared : e = s.health
        · rw [if_pos shared, shared]
          apply Follows.broken
          simp [Rule.Kept, served, shared]
        · rw [if_neg shared]
          refine .kept (fun other same => ?_) .done
          obtain rfl := Option.some.inj (served.symm.trans same)
          rwa [shares_iff]

/-- A name is read as a level exactly if it is one of six in lower case. -/
theorem read?_isSome_iff (name : String) :
    (Log.Level.read? name).isSome = true ↔ name.toLower ∈ Rule.levelNames := by
  have lower : String.ofList (Log.Level.lowerAscii name.toList) = name.toLower := by
    apply String.toList_injective
    change _ = (name.map Char.toLower).toList
    simp [Log.Level.lowerAscii]
  unfold Log.Level.read?
  rw [lower]
  split <;> simp_all [Rule.levelNames]

theorem follows_checkLogging (s : Settings) : Follows s [.logLevel] s.checkLogging := by
  unfold checkLogging
  cases level : s.logLevel with
  | none => exact .kept (by simp [Rule.Kept, level]) .done
  | some name =>
    have known := read?_isSome_iff name
    cases read : Log.Level.read? name with
    | none =>
      have told : Rule.logLevel.fault s = .invalidValue "log_level" name
          "expected one of trace, debug, info, warn, error" := by
        simp [Rule.fault, level]
      simp only [read, ← told]
      apply Follows.broken
      simpa [Rule.Kept, level, read] using known
    | some _ =>
      simp only [read]
      refine .kept ?_ .done
      simpa [Rule.Kept, level, read] using known

theorem follows_check (s : Settings) : Follows s Rule.order s.check :=
  (follows_checkWork s).andThen ((follows_checkEndpoints s).andThen (follows_checkLogging s))

theorem build_eq_ok_iff {edits : List Edit} :
    build edits = .ok s ↔ s = ofEdits edits ∧ (ofEdits edits).check = .ok () := by
  cases checked : (ofEdits edits).check with
  | error told => simp [build, checked, bind, Except.bind]
  | ok => simp [build, checked, bind, Except.bind, pure, Except.pure, eq_comm]

theorem build_eq_error_iff {edits : List Edit} {told : Fault} :
    build edits = .error told ↔ (ofEdits edits).check = .error told := by
  cases checked : (ofEdits edits).check with
  | error => simp [build, checked, bind, Except.bind]
  | ok => simp [build, checked, bind, Except.bind, pure, Except.pure]

/-- After any edits every field has the value of the last edit that sets it, or its default; an edit
sets no more than one field, unless it starts over. The settings can be built, and are then these,
exactly if they keep all rules; otherwise the first broken rule is told. -/
theorem settings_follow_edits (edits : List Edit) :
    (∀ f, LastGiven {} f edits ((ofEdits edits).value f)) ∧
      (∀ e : Edit, e ≠ .startOver → ∀ f, e.given? f ≠ none → e.field? = some f) ∧
      (∀ s, build edits = .ok s ↔ s = ofEdits edits ∧ ∀ r : Rule, r.Kept s) ∧
      ∀ told, build edits = .error told ↔
        ∃ before r after, Rule.order = before ++ r :: after ∧
          (∀ q ∈ before, q.Kept (ofEdits edits)) ∧ ¬ r.Kept (ofEdits edits) ∧
          told = r.fault (ofEdits edits) := by
  have follows := follows_check (ofEdits edits)
  refine ⟨fun f => lastGiven_foldl {} f edits, fun e single f given =>
    Edit.field?_of_given single given, fun s => ?_, fun told => ?_⟩
  · rw [build_eq_ok_iff, follows.ok_iff]
    constructor
    · rintro ⟨rfl, kept⟩
      exact ⟨rfl, fun r => kept r r.mem_order⟩
    · rintro ⟨rfl, kept⟩
      exact ⟨rfl, fun r _ => kept r⟩
  · rw [build_eq_error_iff]
    exact follows.error_iff

end WarmupGate.Settings
