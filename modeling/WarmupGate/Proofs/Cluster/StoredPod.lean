import WarmupGate.Cluster.StoredPod

/-!
# Writing to a stored pod

What the cluster reads out of a patch is what the controller put into it: the version that was read
and the list of conditions, entry by entry. So a write takes effect exactly if the pod is still the
one that was read, and then it replaces the conditions by the written ones. Everything else of the
pod is kept.
-/
namespace WarmupGate.Cluster

theorem lookup_optionalMember {α : Type} (name other : String) (toJson : α → Json) (o : Option α)
    (rest : List (String × Json)) :
    (optionalMember other toJson o ++ rest).lookup name =
      if name == other then (o.map toJson).or (rest.lookup name) else rest.lookup name := by
  cases o with
  | none => simp [optionalMember]
  | some a => cases h : name == other <;> simp [optionalMember, List.lookup_cons, h]

theorem lookup_lastMember {α : Type} (name other : String) (toJson : α → Json) (o : Option α) :
    (optionalMember other toJson o).lookup name = if name == other then o.map toJson else none := by
  simpa using lookup_optionalMember name other toJson o []

theorem optionalMember?_of_get? {α : Type} {name : String} {toJson : α → Json}
    {ofJson : Json → Option α} (inverse : ∀ a, ofJson (toJson a) = some a) {o : Option α} {v : Json}
    (h : v.get? name = o.map toJson) : optionalMember? name ofJson v = some o := by
  rw [optionalMember?, h]
  cases o with
  | none => rfl
  | some a => simp [inverse]

theorem get?_conditionJson (c : Condition) :
    (conditionJson c).get? "type" = some (.string c.type) ∧
      (conditionJson c).get? "status" = some (.string c.status) ∧
      (conditionJson c).get? "reason" = c.reason.map .string ∧
      (conditionJson c).get? "message" = c.message.map .string ∧
      (conditionJson c).get? "lastProbeTime" = c.lastProbe.map timestampJson ∧
      (conditionJson c).get? "lastTransitionTime" = c.lastTransition.map timestampJson ∧
      (conditionJson c).get? "observedGeneration" = c.observedGeneration.map Json.int := by
  simp [conditionJson, Json.get?, Json.members, List.lookup_cons, lookup_optionalMember,
    lookup_lastMember]

theorem conditionOf?_conditionJson (c : Condition) : conditionOf? (conditionJson c) = some c := by
  have string (s : String) : (Json.string s).string? = some s := rfl
  have timestamp (t : Timestamp) : timestampOf? (timestampJson t) = some t := rfl
  have int (n : Int) : (Json.int n).int? = some n := rfl
  obtain ⟨type, status, reason, message, probe, transition, generation⟩ := get?_conditionJson c
  rw [conditionOf?, type, status, optionalMember?_of_get? string reason,
    optionalMember?_of_get? string message, optionalMember?_of_get? timestamp probe,
    optionalMember?_of_get? timestamp transition, optionalMember?_of_get? int generation]
  rfl

theorem mapM_conditionOf? (cs : List Condition) :
    (cs.map conditionJson).mapM conditionOf? = some cs := by
  induction cs with
  | nil => rfl
  | cons c cs ih => simp [conditionOf?_conditionJson, ih]

namespace StatusPatch

theorem versionOf?_body (pod : Pod) (conditions : List Condition) :
    versionOf? (body pod conditions) = pod.metadata.resourceVersion := by
  cases h : pod.metadata.resourceVersion <;>
    simp [versionOf?, body, h, optionalMember, precondition, Json.get?, Json.members, List.lookup_cons,
      Json.string?]

theorem conditionsOf?_body (pod : Pod) (conditions : List Condition) :
    conditionsOf? (body pod conditions) = some conditions := by
  have found : ((body pod conditions).get? "status") =
      some (.object [("conditions", .array (conditions.map conditionJson))]) := by
    rw [body, Json.get?, Json.members, lookup_optionalMember]
    rfl
  rw [conditionsOf?, found]
  exact mapM_conditionOf? conditions

end StatusPatch

namespace StoredPod

theorem versionText_inj {s t : StoredPod} : s.versionText = t.versionText ↔ s.version = t.version := by
  constructor
  · intro h
    have digits := congrArg String.toList h
    simp only [versionText, Text.decimal, String.toList_ofList] at digits
    rw [← Text.digitsValue_numeral s.version, ← Text.digitsValue_numeral t.version, digits]
  · intro h
    rw [versionText, versionText, h]

/-- The cluster takes the patch of a reader exactly if the pod is still what was read. -/
theorem patch_request (s t : StoredPod) (gap : Nat) (conditions : List Condition) :
    s.patch gap (StatusPatch.request t.read conditions).body =
      if t.version = s.version then (.bare 200 "", s.replace gap conditions)
      else (.described 409 conflictMessage "Conflict", s) := by
  have named : StatusPatch.versionOf? (StatusPatch.body t.read conditions) = some t.versionText :=
    StatusPatch.versionOf?_body _ _
  simp only [patch, StatusPatch.request, Request.body, named, StatusPatch.conditionsOf?_body,
    Option.any_some, bne_iff_ne, ne_eq, versionText_inj]
  by_cases h : t.version = s.version <;> simp [h]

theorem write_of_unnamed {s t : StoredPod} {gap : Nat} {conditions : List Condition}
    (h : StatusPatch.sendable t.read = false) :
    s.write gap t.read conditions = (.error .unnamed, s) := by
  simp [write, h]

theorem write_of_current {s t : StoredPod} {gap : Nat} {conditions : List Condition}
    (named : StatusPatch.sendable t.read = true) (h : t.version = s.version) :
    s.write gap t.read conditions = (.ok (), s.replace gap conditions) := by
  rw [write, if_pos named, patch_request, if_pos h]
  simp [StatusPatch.interpret, named, Response.refusal?, Response.code]

theorem write_of_stale {s t : StoredPod} {gap : Nat} {conditions : List Condition}
    (named : StatusPatch.sendable t.read = true) (h : t.version ≠ s.version) :
    s.write gap t.read conditions = (.error (.conflict t.read.ns t.read.name), s) := by
  rw [write, if_pos named, patch_request, if_neg h]
  simp [StatusPatch.interpret, named, Response.refusal?, Response.code, WriteFault.ofRefusal]

theorem write_cases (s t : StoredPod) (gap : Nat) (conditions : List Condition) :
    (t.version = s.version ∧ s.write gap t.read conditions = (.ok (), s.replace gap conditions)) ∨
      ∃ fault, s.write gap t.read conditions = (.error fault, s) := by
  cases named : StatusPatch.sendable t.read with
  | false => exact .inr ⟨_, write_of_unnamed named⟩
  | true =>
    by_cases h : t.version = s.version
    · exact .inl ⟨h, write_of_current named h⟩
    · exact .inr ⟨_, write_of_stale named h⟩

end StoredPod
end WarmupGate.Cluster
