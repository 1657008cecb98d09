import Mathlib.Logic.Relation
import WarmupGate.Pod.Manifest
import WarmupGate.Proofs.Pod.Condition

/-!
# What opens the way to a warmup

Five things have to hold for a pod to be ready for its warmup, and they count in a fixed order: the
state of any other pod is that of the first one that fails. They are said here of the pod as it was
sent, with any of its parts missing. Two pods that agree in them are in the same state, whatever
else is different. The annotations are not among the five; what a pod asks for is looked at later.
-/
namespace WarmupGate

namespace Condition

variable {before after : List Condition} {c : Condition} {type : String}

theorem holds_iff_cut {cs : List Condition} : holds type cs = true ↔
    ∃ before c after, cs = before ++ c :: after ∧ (∀ e ∈ before, e.type ≠ type) ∧
      c.type = type ∧ c.status = trueStatus := by
  constructor
  · intro held
    rw [holds] at held
    cases found : find? type cs with
    | none => simp [found] at held
    | some c =>
      obtain ⟨same, before, after, cut, others⟩ := find?_eq_some_iff_cut.1 found
      exact ⟨before, c, after, cut, others, same, by simpa [found, isTrue] using held⟩
  · rintro ⟨before, c, after, rfl, others, same, status⟩
    have found := find?_eq_some_iff_cut.2 ⟨same, before, after, rfl, others⟩
    simp [holds, found, isTrue, status]

theorem find?_insert (unseen : c.type ≠ type ∨ ∃ e ∈ before, e.type = type) :
    find? type (before ++ c :: after) = find? type (before ++ after) := by
  rw [find?, find?, List.find?_append, List.find?_append]
  obtain different | ⟨e, inside, same⟩ := unseen
  · rw [List.find?_cons_of_neg (by simpa using different)]
  · cases found : before.find? (fun d => d.type == type) with
    | none => exact absurd same (find?_eq_none_iff.1 found e inside)
    | some _ => rfl

end Condition

namespace Manifest

def DeclaresGate (m : Manifest) : Prop :=
  ∃ spec gates, m.spec = some spec ∧ spec.gates = some gates ∧ Pod.Key.gate ∈ gates

/-- The first condition of a type is there and says "True". -/
def FirstTrue (type : String) (m : Manifest) : Prop :=
  ∃ status before c after, m.status = some status ∧
    status.conditions = some (before ++ c :: after) ∧ (∀ e ∈ before, e.type ≠ type) ∧
    c.type = type ∧ c.status = Condition.trueStatus

/-- A phase that is missing counts as the empty one. -/
def phase (m : Manifest) : String := (m.status.bind Status.phase).getD ""

/-- There are container statuses, and all of them are ready. -/
def AllReady (m : Manifest) : Prop :=
  ∃ status containers, m.status = some status ∧ status.containers = some containers ∧
    containers ≠ [] ∧ ∀ s ∈ containers, s.ready = true

/-- What has to hold, in the order in which it counts, and the state of a pod for which it is the
first to fail. -/
def requirements (m : Manifest) : List (Prop × GateState) :=
  [(m.DeclaresGate, .notGated),
    (¬ m.FirstTrue Pod.Key.warmupReady, .alreadyReady),
    (m.phase = Pod.Key.running, .notRunning m.phase),
    (m.AllReady, .containersNotReady),
    (m.FirstTrue Pod.Key.containersReady, .containersReadyPending)]

variable {m p q : Manifest}

theorem hasGate_pod (m : Manifest) : m.pod.hasGate = true ↔ m.DeclaresGate := by
  obtain ⟨_, _ | ⟨_, _, _ | gates⟩, _⟩ := m <;>
    simp [pod, Pod.hasGate, DeclaresGate, Spec.whole]

theorem conditionHolds_pod (type : String) (m : Manifest) :
    m.pod.conditionHolds type = true ↔ m.FirstTrue type := by
  obtain ⟨_, _, _ | ⟨_, _, _, _ | conditions⟩⟩ := m <;>
    simp [pod, Pod.conditionHolds, FirstTrue, Status.whole, Condition.holds_iff_cut]

theorem phase_pod (m : Manifest) : m.pod.phase = m.phase := by
  obtain ⟨_, _, _ | _⟩ := m <;> rfl

theorem containersReady_pod (m : Manifest) : m.pod.containersReady = true ↔ m.AllReady := by
  obtain ⟨_, _, _ | ⟨_, _, _ | containers, _⟩⟩ := m <;>
    simp [pod, Pod.containersReady, AllReady, Status.whole]

/-- The state that belongs to the first requirement that fails; without one, the pod is ready. -/
inductive Decides : List (Prop × GateState) → GateState → Prop
  | ready : Decides [] .ready
  | fails {r : Prop × GateState} {rest : List (Prop × GateState)} : ¬ r.1 → Decides (r :: rest) r.2
  | holds {r : Prop × GateState} {rest : List (Prop × GateState)} {state : GateState} : r.1 →
      Decides rest state → Decides (r :: rest) state

variable {before after rest : List (Prop × GateState)} {r : Prop × GateState} {s t : GateState}

theorem Decides.unique (first : Decides rest s) (second : Decides rest t) : s = t := by
  induction first with
  | ready =>
    cases second
    rfl
  | fails broken =>
    cases second with
    | fails => rfl
    | holds kept => exact absurd kept broken
  | holds kept _ ih =>
    cases second with
    | fails broken => exact absurd kept broken
    | holds _ decided => exact ih decided

theorem Decides.eq_of_first_failure (decided : Decides (before ++ r :: after) s)
    (kept : ∀ b ∈ before, b.1) (broken : ¬ r.1) : s = r.2 := by
  induction before with
  | nil => exact decided.unique (.fails broken)
  | cons b before ih =>
    cases decided with
    | fails broken => exact absurd (kept b List.mem_cons_self) broken
    | holds _ decided => exact ih decided fun c inside => kept c (List.mem_cons_of_mem _ inside)

theorem Decides.eq_ready_iff (decided : Decides rest s) (others : ∀ r ∈ rest, r.2 ≠ .ready) :
    s = .ready ↔ ∀ r ∈ rest, r.1 := by
  induction decided with
  | ready => simp
  | @fails r rest broken =>
    exact ⟨fun ready => absurd ready (others r List.mem_cons_self),
      fun kept => absurd (kept r List.mem_cons_self) broken⟩
  | @holds r rest state kept _ ih =>
    rw [ih fun c inside => others c (List.mem_cons_of_mem _ inside), List.forall_mem_cons]
    exact ⟨fun all => ⟨kept, all⟩, And.right⟩

theorem Decides.check {broken : Prop} [Decidable broken] (iff : broken ↔ ¬ r.1)
    (decided : Decides rest s) : Decides (r :: rest) (if broken then r.2 else s) := by
  split
  · rename_i failed
    exact .fails (iff.1 failed)
  · rename_i passed
    exact .holds (Classical.not_not.1 fun failed => passed (iff.2 failed)) decided

theorem decides_gateState (m : Manifest) : Decides m.requirements m.pod.gateState := by
  have gate : (!m.pod.hasGate) = true ↔ ¬ m.DeclaresGate := by simp [← hasGate_pod]
  have through : m.pod.conditionHolds Pod.Key.warmupReady = true ↔
      ¬ ¬ m.FirstTrue Pod.Key.warmupReady := by
    rw [Classical.not_not, conditionHolds_pod]
  have up : (!m.pod.containersReady) = true ↔ ¬ m.AllReady := by simp [← containersReady_pod]
  have shown : (!m.pod.conditionHolds Pod.Key.containersReady) = true ↔
      ¬ m.FirstTrue Pod.Key.containersReady := by
    simp [← conditionHolds_pod]
  rw [Pod.gateState, phase_pod]
  exact .check gate (.check through (.check Iff.rfl (.check up (.check shown .ready))))

/-- Two pods agree in what counts at the gate. -/
structure Agree (p q : Manifest) : Prop where
  gate : p.DeclaresGate ↔ q.DeclaresGate
  through : p.FirstTrue Pod.Key.warmupReady ↔ q.FirstTrue Pod.Key.warmupReady
  phase : p.phase = q.phase
  containers : p.AllReady ↔ q.AllReady
  shown : p.FirstTrue Pod.Key.containersReady ↔ q.FirstTrue Pod.Key.containersReady

theorem Agree.requirements_eq (h : Agree p q) : p.requirements = q.requirements := by
  simp only [requirements, h.gate, h.through, h.phase, h.containers, h.shown]

theorem Agree.gateState_eq (h : Agree p q) : p.pod.gateState = q.pod.gateState := by
  have decided := decides_gateState p
  rw [h.requirements_eq] at decided
  exact decided.unique (decides_gateState q)

/-- A change of a pod that does not count at the gate. -/
inductive Unnoticed : Manifest → Manifest → Prop
  /-- Names and annotations. -/
  | metadata {m : Manifest} (metadata : Metadata) : Unnoticed m { m with metadata }
  | workload {m : Manifest} {spec : Spec} (node : Option String) (containers : List Container) :
      m.spec = some spec → Unnoticed m { m with spec := some { spec with node, containers } }
  | address {m : Manifest} {status : Status} (address : Option String) :
      m.status = some status → Unnoticed m { m with status := some { status with address } }
  | gates {m : Manifest} {spec : Spec} {gates other : List String} : m.spec = some spec →
      spec.gates = some gates → gates.Perm other →
      Unnoticed m { m with spec := some { spec with gates := some other } }
  | statuses {m : Manifest} {status : Status} {containers other : List ContainerStatus} :
      m.status = some status → status.containers = some containers → containers.Perm other →
      Unnoticed m { m with status := some { status with containers := some other } }
  /-- A condition of another type anywhere, or one of any type behind the first of that type. -/
  | condition {m : Manifest} {status : Status} {before after : List Condition} (c : Condition) :
      m.status = some status → status.conditions = some (before ++ after) →
      (c.type ≠ Pod.Key.warmupReady ∧ c.type ≠ Pod.Key.containersReady ∨
        ∃ e ∈ before, e.type = c.type) →
      Unnoticed m { m with status := some { status with conditions := some (before ++ c :: after) } }

/-- What is inserted unseen does not change the first entry of a type that counts. -/
theorem firstTrue_insert {status : Status} {before after : List Condition} {c : Condition}
    {type : String} (there : m.status = some status)
    (conditions : status.conditions = some (before ++ after))
    (unseen : c.type ≠ type ∨ ∃ e ∈ before, e.type = type) :
    m.FirstTrue type ↔ FirstTrue type
      { m with status := some { status with conditions := some (before ++ c :: after) } } := by
  rw [← conditionHolds_pod, ← conditionHolds_pod]
  simp [pod, there, Status.whole, conditions, Pod.conditionHolds, Condition.holds,
    Condition.find?_insert unseen]

theorem Unnoticed.agree (h : Unnoticed p q) : Agree p q := by
  cases h with
  | metadata metadata => exact ⟨.rfl, .rfl, rfl, .rfl, .rfl⟩
  | workload node containers there =>
    refine ⟨?_, .rfl, rfl, .rfl, .rfl⟩
    simp [DeclaresGate, there]
  | address address there =>
    refine ⟨.rfl, ?_, ?_, ?_, ?_⟩ <;> simp [FirstTrue, Manifest.phase, AllReady, there]
  | gates there given same =>
    refine ⟨?_, .rfl, rfl, .rfl, .rfl⟩
    simp [DeclaresGate, there, given, same.mem_iff]
  | statuses there given same =>
    refine ⟨.rfl, ?_, ?_, ?_, ?_⟩
    case refine_3 =>
      simp [AllReady, there, given, ← List.length_eq_zero_iff, same.length_eq, same.mem_iff]
    all_goals simp [FirstTrue, Manifest.phase, there]
  | @condition _ before _ c there given unseen =>
    have hidden : ∀ type, type = Pod.Key.warmupReady ∨ type = Pod.Key.containersReady →
        c.type ≠ type ∨ ∃ e ∈ before, e.type = type := by
      intro type counts
      by_cases same : c.type = type
      · subst same
        exact .inr (unseen.resolve_left fun other => counts.elim other.1 other.2)
      · exact .inl same
    refine ⟨.rfl, firstTrue_insert there given (hidden _ (.inl rfl)), ?_, ?_,
      firstTrue_insert there given (hidden _ (.inr rfl))⟩
    · simp [Manifest.phase, there]
    · simp [AllReady, there]

/-- Pods that agree in the five requirements are in the same state, and so are pods that differ by
any number of changes that do not count. A pod is ready exactly if it meets all of them, and the
state of any other pod is that of the first one that it does not meet. -/
theorem state_follows_requirements (p q : Manifest) :
    (Agree p q → p.pod.gateState = q.pod.gateState) ∧
      (Relation.EqvGen Unnoticed p q → p.pod.gateState = q.pod.gateState) ∧
      (p.pod.gateState = .ready ↔ p.DeclaresGate ∧ ¬ p.FirstTrue Pod.Key.warmupReady ∧
        p.phase = Pod.Key.running ∧ p.AllReady ∧ p.FirstTrue Pod.Key.containersReady) ∧
      ∀ before r after, p.requirements = before ++ r :: after → (∀ b ∈ before, b.1) → ¬ r.1 →
        p.pod.gateState = r.2 := by
  refine ⟨Agree.gateState_eq, ?_, ?_, ?_⟩
  · intro changed
    induction changed with
    | rel p q change => exact change.agree.gateState_eq
    | refl p => rfl
    | symm p q _ ih => exact ih.symm
    | trans p q r _ _ first second => exact first.trans second
  · have others : ∀ r ∈ p.requirements, r.2 ≠ .ready := by simp [requirements]
    rw [(decides_gateState p).eq_ready_iff others]
    simp [requirements]
  · intro before r after cut kept broken
    have decided := decides_gateState p
    rw [cut] at decided
    exact decided.eq_of_first_failure kept broken

namespace Disturbed

def spec : Spec := { gates := some ["other", Pod.Key.gate] }

def shown : Condition := { type := Pod.Key.containersReady, status := "True" }

def status : Status :=
  { phase := some Pod.Key.running
    containers := some [{ ready := true }]
    conditions := some [shown] }

/-- A pod that is ready; most of its parts are missing. -/
def plain : Manifest := { spec, status }

def shuffled : Manifest :=
  { plain with spec := some { spec with gates := some [Pod.Key.gate, "other"] } }

/-- A later entry that contradicts the one that counts. -/
def later : Condition := { shown with status := "False" }

def disturbed : Manifest :=
  { shuffled with status := some { status with conditions := some [shown, later] } }

theorem state_follows_requirements_when_disturbed :
    Relation.EqvGen Unnoticed plain disturbed ∧ plain.pod.gateState = disturbed.pod.gateState ∧
      disturbed.pod.gateState = .ready := by
  have moved : Unnoticed plain shuffled := .gates rfl rfl (.swap ..)
  have contradicted : Unnoticed shuffled disturbed :=
    @Unnoticed.condition shuffled status [shown] [] later rfl rfl (.inr ⟨shown, by simp, rfl⟩)
  have changed := (Relation.EqvGen.rel _ _ moved).trans _ _ _ (.rel _ _ contradicted)
  have same := (state_follows_requirements plain disturbed).2.1 changed
  exact ⟨changed, same, same.symm.trans (by decide)⟩

end Disturbed
end Manifest
end WarmupGate
