import WarmupGate.Json

/-!
# What a merge patch says, and what it leaves alone

A place in a value is given by the names of the members on the way to it. A patch sets a place if its
last word on every name of the way leads there, and it spares a place if the way leaves the patch at
a name that it does not mention. Nothing is claimed of a place that lies above one that is set: the
value there is a new one.
-/
namespace WarmupGate.Json

variable {ms changes : List (String × Json)} {name other : String} {v change patch : Json}
  {place : List String}

def at? : List String → Json → Option Json
  | [], v => some v
  | name :: rest, v => (v.get? name).bind (at? rest)

theorem at?_pair (name other : String) (v : Json) :
    at? [name, other] v = (v.get? name).bind (get? other) := by
  simp [at?]

theorem lookup_cons_of_ne (different : other ≠ name) (v : Json) (ms : List (String × Json)) :
    ((name, v) :: ms).lookup other = ms.lookup other := by
  rw [List.lookup_cons, beq_eq_false_iff_ne.2 different]

theorem lookup_insertMember (name other : String) (v : Json) (ms : List (String × Json)) :
    (insertMember name v ms).lookup other = if other = name then some v else ms.lookup other := by
  induction ms with
  | nil => by_cases h : other = name <;> simp [insertMember, h, lookup_cons_of_ne]
  | cons m rest ih =>
    obtain ⟨n, old⟩ := m
    by_cases same : n = name
    · subst same
      by_cases h : other = n <;> simp [insertMember, h, lookup_cons_of_ne]
    · by_cases h : other = n
      · subst h
        simp [insertMember, same]
      · simp [insertMember, same, h, lookup_cons_of_ne, ih]

theorem lookup_eraseMember (different : other ≠ name) :
    (eraseMember name ms).lookup other = ms.lookup other := by
  induction ms with
  | nil => rfl
  | cons m rest ih =>
    obtain ⟨n, old⟩ := m
    unfold eraseMember at ih ⊢
    by_cases erased : n = name
    · subst erased
      simp [different, lookup_cons_of_ne, ih]
    · by_cases h : other = n
      · subst h
        simp [erased]
      · simp [erased, h, lookup_cons_of_ne, ih]

theorem mergeMembers_cons (given : change ≠ .null) :
    mergeMembers ms ((name, change) :: changes) =
      mergeMembers (insertMember name (mergePatch ((ms.lookup name).getD .null) change) ms)
        changes := by
  cases change with
  | null => exact absurd rfl given
  | _ => rfl

theorem mergeMembers_append (ms before after : List (String × Json)) :
    mergeMembers ms (before ++ after) = mergeMembers (mergeMembers ms before) after := by
  induction before generalizing ms with
  | nil => rw [List.nil_append, mergeMembers]
  | cons m rest ih =>
    obtain ⟨name, change⟩ := m
    by_cases given : change = .null
    · subst given
      rw [List.cons_append, mergeMembers, mergeMembers, ih]
    · rw [List.cons_append, mergeMembers_cons given, mergeMembers_cons given, ih]

theorem lookup_mergeMembers_cons (different : other ≠ name) (ms : List (String × Json)) :
    ∃ after, mergeMembers ms ((name, change) :: changes) = mergeMembers after changes ∧
      after.lookup other = ms.lookup other := by
  by_cases given : change = .null
  · subst given
    exact ⟨_, by rw [mergeMembers], lookup_eraseMember different⟩
  · exact ⟨_, mergeMembers_cons given, by rw [lookup_insertMember, if_neg different]⟩

/-- The way to a place leaves the patch at a name that the patch does not mention. -/
inductive Spares : Json → List String → Prop
  | object {changes : List (String × Json)} {name : String} {rest : List String} :
      (∀ change, (name, change) ∈ changes → Spares change rest) →
      Spares (.object changes) (name :: rest)

theorem Spares.at?_null (h : Spares patch place) : at? place .null = none := by
  cases h
  rfl

theorem Spares.ne_null (h : Spares patch place) : patch ≠ .null := by
  cases h
  exact nofun

theorem lookup_mergeMembers_of_spared {rest : List String}
    (spared : ∀ change, (name, change) ∈ changes →
      Spares change rest ∧ ∀ target, at? rest (mergePatch target change) = at? rest target)
    (ms : List (String × Json)) :
    ((mergeMembers ms changes).lookup name).bind (at? rest) = (ms.lookup name).bind (at? rest) := by
  -- Each change works on the members that the ones before it have left.
  induction changes generalizing ms with
  | nil => rw [mergeMembers]
  | cons m changes ih =>
    obtain ⟨n, change⟩ := m
    have later := ih fun c inside => spared c (List.mem_cons_of_mem _ inside)
    by_cases same : name = n
    · subst same
      obtain ⟨spares, kept⟩ := spared change List.mem_cons_self
      rw [mergeMembers_cons spares.ne_null, later, lookup_insertMember, if_pos rfl,
        Option.bind_some, kept]
      cases ms.lookup name with
      | none => exact spares.at?_null
      | some _ => rfl
    · obtain ⟨after, eq, lookup⟩ := lookup_mergeMembers_cons same ms
      rw [eq, later, lookup]

theorem at?_mergePatch_of_spares (h : Spares patch place) (target : Json) :
    at? place (mergePatch target patch) = at? place target := by
  induction h generalizing target with
  | object spares ih =>
    rw [mergePatch]
    exact lookup_mergeMembers_of_spared (fun c inside => ⟨spares c inside, ih c inside⟩) _

/-- A value that is put in the place of another as a whole. -/
def Whole (v : Json) : Prop := v ≠ .null ∧ ∀ ms, v ≠ .object ms

/-- The last word of the patch on each name of the way leads to a value at the place. -/
inductive Sets : Json → List String → Json → Prop
  | whole {v : Json} : v.Whole → Sets v [] v
  | object {before after : List (String × Json)} {name : String} {change v : Json}
      {rest : List String} : (∀ m ∈ after, m.1 ≠ name) → Sets change rest v →
      Sets (.object (before ++ (name, change) :: after)) (name :: rest) v

theorem mergePatch_of_whole (h : v.Whole) (target : Json) : mergePatch target v = v := by
  cases v with
  | object ms => exact absurd rfl (h.2 ms)
  | _ => rw [mergePatch]

theorem Sets.ne_null (h : Sets patch place v) : patch ≠ .null := by
  cases h with
  | whole whole => exact whole.1
  | object => exact nofun

theorem lookup_mergeMembers_of_unnamed (unnamed : ∀ m ∈ changes, m.1 ≠ name)
    (ms : List (String × Json)) : (mergeMembers ms changes).lookup name = ms.lookup name := by
  induction changes generalizing ms with
  | nil => rw [mergeMembers]
  | cons m changes ih =>
    obtain ⟨n, change⟩ := m
    obtain ⟨after, eq, lookup⟩ :=
      lookup_mergeMembers_cons (Ne.symm (unnamed (n, change) List.mem_cons_self)) ms
    rw [eq, ih fun m inside => unnamed m (List.mem_cons_of_mem _ inside), lookup]

/-- What a patch sets is there afterwards, whatever was there before. -/
theorem at?_mergePatch_of_sets (h : Sets patch place v) (target : Json) :
    at? place (mergePatch target patch) = some v := by
  induction h generalizing target with
  | whole whole => rw [mergePatch_of_whole whole, at?]
  | object unnamed sets ih =>
    rw [mergePatch, mergeMembers_append, mergeMembers_cons sets.ne_null, at?, get?, members,
      lookup_mergeMembers_of_unnamed unnamed, lookup_insertMember, if_pos rfl]
    exact ih _

end WarmupGate.Json
