import WarmupGate.Proofs.Cluster.StoredPod
import WarmupGate.Proofs.Json.MergePatch

/-!
# What the status patch touches

The patch sets the list of conditions and, if the pod was read with a version, that version; it
spares all else. This is said of any object that the cluster may keep, with members that this
controller knows nothing about. That the cluster applies merge patches by the rules is assumed, and
so is that it checks the version.
-/
namespace WarmupGate.Cluster.StatusPatch

variable {pod : Pod} {conditions : List Condition} {name version : String} {change : Json}

def patched (pod : Pod) (conditions : List Condition) (stored : Json) : Json :=
  stored.mergePatch (request pod conditions).body

def conditionsJson (conditions : List Condition) : Json := .array (conditions.map conditionJson)

def statusChange (conditions : List Condition) : Json :=
  .object [("conditions", conditionsJson conditions)]

theorem sets_conditions (pod : Pod) (conditions : List Condition) :
    Json.Sets (body pod conditions) ["status", "conditions"] (conditionsJson conditions) := by
  have whole : (conditionsJson conditions).Whole := ⟨nofun, fun _ => nofun⟩
  have inner : Json.Sets (statusChange conditions) ["conditions"] (conditionsJson conditions) :=
    @Json.Sets.object [] [] _ _ _ _ nofun (.whole whole)
  exact .object nofun inner

theorem sets_version (read : pod.metadata.resourceVersion = some version) :
    Json.Sets (body pod conditions) ["metadata", "resourceVersion"] (.string version) := by
  have whole : (Json.string version).Whole := ⟨nofun, fun _ => nofun⟩
  have inner : Json.Sets (precondition version) ["resourceVersion"] (.string version) :=
    @Json.Sets.object [] [] _ _ _ _ nofun (.whole whole)
  rw [body, read]
  exact @Json.Sets.object [] _ _ _ _ _ (by simp) inner

theorem mem_members_body
    (named : (name, change) ∈ optionalMember "metadata" precondition pod.metadata.resourceVersion ++
      [("status", statusChange conditions)]) :
    (name = "metadata" ∧ ∃ version, pod.metadata.resourceVersion = some version ∧
        change = precondition version) ∨
      (name = "status" ∧ change = statusChange conditions) := by
  cases read : pod.metadata.resourceVersion <;> simp_all [optionalMember]

theorem spares_unnamed (status : name ≠ "status") (metadata : name ≠ "metadata") :
    Json.Spares (body pod conditions) [name] := by
  refine .object fun change named => ?_
  obtain ⟨same, -⟩ | ⟨same, -⟩ := mem_members_body named
  · exact absurd same metadata
  · exact absurd same status

theorem spares_status (other : name ≠ "conditions") :
    Json.Spares (body pod conditions) ["status", name] := by
  refine .object fun change named => ?_
  obtain ⟨same, -⟩ | ⟨-, rfl⟩ := mem_members_body named
  · exact absurd same (by decide)
  · exact .object fun c inside => absurd (Prod.mk.inj (List.mem_singleton.1 inside)).1 other

theorem spares_metadata
    (other : name ≠ "resourceVersion" ∨ pod.metadata.resourceVersion = none) :
    Json.Spares (body pod conditions) ["metadata", name] := by
  refine .object fun change named => ?_
  obtain ⟨-, version, read, rfl⟩ | ⟨same, -⟩ := mem_members_body named
  · refine .object fun c inside => ?_
    obtain rfl := (Prod.mk.inj (List.mem_singleton.1 inside)).1
    simp [read] at other
  · exact absurd same (by decide)

theorem version_body (pod : Pod) (conditions : List Condition) :
    (body pod conditions).at? ["metadata", "resourceVersion"] =
      pod.metadata.resourceVersion.map .string := by
  cases read : pod.metadata.resourceVersion <;>
    simp [body, read, optionalMember, precondition, Json.at?, Json.get?, Json.members,
      List.lookup_cons]

theorem version_patched (pod : Pod) (conditions : List Condition) (stored : Json) :
    (patched pod conditions stored).at? ["metadata", "resourceVersion"] =
      (pod.metadata.resourceVersion.map .string).or
        (stored.at? ["metadata", "resourceVersion"]) := by
  cases read : pod.metadata.resourceVersion with
  | none => exact Json.at?_mergePatch_of_spares (spares_metadata (.inr read)) stored
  | some version => exact Json.at?_mergePatch_of_sets (sets_version read) stored

theorem conditionsOf?_patched (pod : Pod) (conditions : List Condition) (stored : Json) :
    conditionsOf? (patched pod conditions stored) = some conditions := by
  have set : (patched pod conditions stored).at? ["status", "conditions"] =
      some (conditionsJson conditions) :=
    Json.at?_mergePatch_of_sets (sets_conditions pod conditions) stored
  rw [Json.at?_pair] at set
  rw [conditionsOf?, set]
  exact mapM_conditionOf? conditions

/-- Whatever the cluster keeps, after the patch its conditions are those that were written, in their
order, and can be read back. Every other member of the status, of the metadata and of the object
itself is as it was, or still missing; the version alone is the one that was read with the pod, if it
was read with one. The patch names that version and no other. -/
theorem patch_replaces_conditions_only (pod : Pod) (conditions : List Condition) (stored : Json) :
    (patched pod conditions stored).at? ["status", "conditions"] =
        some (conditionsJson conditions) ∧
      conditionsOf? (patched pod conditions stored) = some conditions ∧
      (∀ name, name ≠ "conditions" → (patched pod conditions stored).at? ["status", name] =
        stored.at? ["status", name]) ∧
      (∀ name, name ≠ "resourceVersion" → (patched pod conditions stored).at? ["metadata", name] =
        stored.at? ["metadata", name]) ∧
      (∀ name, name ≠ "status" → name ≠ "metadata" → (patched pod conditions stored).at? [name] =
        stored.at? [name]) ∧
      (request pod conditions).body.at? ["metadata", "resourceVersion"] =
        pod.metadata.resourceVersion.map .string ∧
      (patched pod conditions stored).at? ["metadata", "resourceVersion"] =
        (pod.metadata.resourceVersion.map .string).or
          (stored.at? ["metadata", "resourceVersion"]) := by
  refine ⟨?_, conditionsOf?_patched pod conditions stored, ?_, ?_, ?_, version_body pod conditions,
    version_patched pod conditions stored⟩
  · exact Json.at?_mergePatch_of_sets (sets_conditions pod conditions) stored
  · exact fun name other => Json.at?_mergePatch_of_spares (spares_status other) stored
  · exact fun name other => Json.at?_mergePatch_of_spares (spares_metadata (.inl other)) stored
  · exact fun name status metadata =>
      Json.at?_mergePatch_of_spares (spares_unnamed status metadata) stored

end WarmupGate.Cluster.StatusPatch
