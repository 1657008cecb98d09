import WarmupGate.Cluster.Recorder

/-!
# Where a text is cut

The search for a boundary stops at the last one up to the limit, so the cut keeps every beginning of
the text that fits. A character has at most four bytes; the search therefore passes over three of
them at most, and it cannot run off the front, where a text always has a boundary. Lengths are those
of the UTF-8 form; nothing is said of marks that combine with the character before them.
-/
namespace WarmupGate.Text

variable {s t u rest : String} {limit n k m : Nat}

/-- After this many bytes of a text a character ends, or the text begins. -/
def Boundary (s : String) (n : Nat) : Prop := (⟨n⟩ : String.Pos.Raw).IsValid s

theorem boundary_iff : Boundary s n ↔ ∃ t rest, s = t ++ rest ∧ t.utf8ByteSize = n := by
  unfold Boundary
  rw [String.Pos.Raw.isValid_iff_exists_append]
  constructor
  · rintro ⟨t, rest, whole, place⟩
    exact ⟨t, rest, whole, (congrArg String.Pos.Raw.byteIdx place).symm⟩
  · rintro ⟨t, rest, whole, rfl⟩
    exact ⟨t, rest, whole, rfl⟩

theorem exists_next_char (whole : s = t ++ rest) (more : t.utf8ByteSize < s.utf8ByteSize) :
    ∃ c behind, s = t ++ String.singleton c ++ behind := by
  cases chars : rest.toList with
  | nil =>
    obtain rfl := String.toList_eq_nil_iff.1 chars
    simp [whole] at more
  | cons c cs =>
    refine ⟨c, String.ofList cs, ?_⟩
    apply String.toList_injective
    simp [whole, chars]

/-- Of two beginnings of a text the one with fewer bytes is a beginning of the other. -/
theorem begins_of_le {other : String} (same : t ++ rest = u ++ other)
    (le : u.utf8ByteSize ≤ t.utf8ByteSize) : ∃ more, t = u ++ more := by
  have chars := congrArg String.toList same
  rw [String.toList_append, String.toList_append] at chars
  obtain ⟨more, longer, -⟩ | ⟨more, shorter, -⟩ := List.append_eq_append_iff.1 chars
  · have whole : u = t ++ String.ofList more := String.toList_injective (by simp [longer])
    have none : String.ofList more = "" := by
      rw [whole, String.utf8ByteSize_append] at le
      exact String.utf8ByteSize_eq_zero_iff.1 (by omega)
    exact ⟨"", by simp [whole, none]⟩
  · exact ⟨String.ofList more, String.toList_injective (by simp [shorter])⟩

/-- A search for a boundary: where it begins, its steps, and where it stops. A step goes from a
place that is no boundary to the one before it, so there is none at the front. -/
inductive SearchBack (s : String) : Nat → Nat → Nat → Prop
  | here {n : Nat} : Boundary s n → SearchBack s n 0 n
  | back {n k m : Nat} : ¬ Boundary s (n + 1) → SearchBack s n k m → SearchBack s (n + 1) (k + 1) m

theorem exists_searchBack (s : String) (n : Nat) : ∃ k, SearchBack s n k (boundaryUpTo s n) := by
  induction n with
  | zero =>
    rw [boundaryUpTo_zero]
    exact ⟨0, .here String.Pos.Raw.isValid_zero⟩
  | succ n ih =>
    rw [boundaryUpTo_succ]
    by_cases here : (⟨n + 1⟩ : String.Pos.Raw).IsValid s
    · rw [if_pos here]
      exact ⟨0, .here here⟩
    · obtain ⟨k, search⟩ := ih
      rw [if_neg here]
      exact ⟨k + 1, .back here search⟩

namespace SearchBack

theorem add_eq (h : SearchBack s n k m) : m + k = n := by
  induction h with
  | here => rfl
  | back _ _ ih => omega

theorem boundary (h : SearchBack s n k m) : Boundary s m := by
  induction h with
  | here found => exact found
  | back _ _ ih => exact ih

/-- Every boundary up to the place where the search begins lies before the one where it stops. -/
theorem le_of_boundary (h : SearchBack s n k m) {i : Nat} (boundary : Boundary s i)
    (before : i ≤ n) : i ≤ m := by
  induction h with
  | here => exact before
  | @back n k m inside _ ih =>
    apply ih
    have other : i ≠ n + 1 := fun same => inside (same ▸ boundary)
    omega

/-- Within a text the next boundary is one character away, which is no more than four bytes. -/
theorem steps_le (h : SearchBack s n k m) (inside : n ≤ s.utf8ByteSize) : k ≤ 3 := by
  have sum := h.add_eq
  by_cases steps : k = 0
  · omega
  · obtain ⟨t, rest, whole, size⟩ := boundary_iff.1 h.boundary
    obtain ⟨c, behind, split⟩ := exists_next_char whole (by omega)
    have next : Boundary s (m + c.utf8Size) := by
      apply boundary_iff.2
      exact ⟨t ++ String.singleton c, behind, split, by simp [size]⟩
    have beyond : n < m + c.utf8Size := by
      apply Nat.lt_of_not_le
      intro before
      have := h.le_of_boundary next before
      have := c.utf8Size_pos
      omega
    have := c.utf8Size_le_four
    omega

end SearchBack

/-- The longest beginning of a text, made of whole characters, that fits into a limit. -/
structure LongestFitting (limit : Nat) (s t : String) : Prop where
  begins : ∃ rest, s = t ++ rest
  fits : t.utf8ByteSize ≤ limit
  longest : ∀ u rest, s = u ++ rest → u.utf8ByteSize ≤ limit → ∃ more, t = u ++ more

theorem truncate_append (s : String) (n : Nat) (boundary : Boundary s n) :
    ∃ rest, s = truncate s n boundary ++ rest ∧ (truncate s n boundary).utf8ByteSize = n := by
  have splits := (s.pos ⟨n⟩ boundary).splits
  refine ⟨_, splits.eq_append, ?_⟩
  exact (congrArg String.Pos.Raw.byteIdx splits.offset_eq_rawEndPos).symm

theorem clip_of_fits (fits : s.utf8ByteSize ≤ limit) : clip limit s = s := if_pos fits

theorem clip_append (long : limit < s.utf8ByteSize) :
    ∃ rest, s = clip limit s ++ rest ∧ (clip limit s).utf8ByteSize = boundaryUpTo s limit := by
  have cut : clip limit s = truncate s (boundaryUpTo s limit) (isValid_boundaryUpTo s limit) :=
    if_neg (Nat.not_le.2 long)
  rw [cut]
  exact truncate_append s _ (isValid_boundaryUpTo s limit)

theorem longestFitting_clip (limit : Nat) (s : String) : LongestFitting limit s (clip limit s) := by
  by_cases fits : s.utf8ByteSize ≤ limit
  · rw [clip_of_fits fits]
    exact ⟨⟨"", by simp⟩, fits, fun u rest whole _ => ⟨rest, whole⟩⟩
  · obtain ⟨rest, whole, size⟩ := clip_append (Nat.not_le.1 fits)
    obtain ⟨k, search⟩ := exists_searchBack s limit
    have sum := search.add_eq
    refine ⟨⟨rest, whole⟩, by omega, fun u other begins small => ?_⟩
    have boundary : Boundary s u.utf8ByteSize := boundary_iff.2 ⟨u, other, begins, rfl⟩
    have before := search.le_of_boundary boundary small
    exact begins_of_le (whole.symm.trans begins) (by omega)

/-- Whatever its characters are, a note is cut to its longest beginning that fits. A note that fits
stays as it is. Any other one is cut where the search for a boundary stops after at most three
steps, so at least 1021 bytes are kept and the character behind them would be too much. A note that
was cut is not cut again. -/
theorem notes_keep_longest_fitting (note : String) :
    LongestFitting 1024 note (clip Cluster.noteLimit note) ∧
      (note.utf8ByteSize ≤ 1024 → clip Cluster.noteLimit note = note) ∧
      (1024 < note.utf8ByteSize →
        (∃ k ≤ 3, SearchBack note 1024 k (boundaryUpTo note 1024)) ∧
          (clip Cluster.noteLimit note).utf8ByteSize = boundaryUpTo note 1024 ∧
          1021 ≤ (clip Cluster.noteLimit note).utf8ByteSize ∧
          ∃ c rest, note = clip Cluster.noteLimit note ++ String.singleton c ++ rest ∧
            1024 < (clip Cluster.noteLimit note ++ String.singleton c).utf8ByteSize) ∧
      clip Cluster.noteLimit (clip Cluster.noteLimit note) = clip Cluster.noteLimit note := by
  have longest := longestFitting_clip Cluster.noteLimit note
  refine ⟨longest, clip_of_fits, fun long => ?_, clip_of_fits longest.fits⟩
  have beyond : Cluster.noteLimit < note.utf8ByteSize := long
  obtain ⟨rest, whole, size⟩ := clip_append beyond
  obtain ⟨k, search⟩ := exists_searchBack note Cluster.noteLimit
  have steps := search.steps_le (Nat.le_of_lt long)
  have sum := search.add_eq
  have limit : Cluster.noteLimit = 1024 := rfl
  obtain ⟨c, behind, split⟩ := exists_next_char whole (by omega)
  refine ⟨⟨k, steps, search⟩, size, by omega, c, behind, split, ?_⟩
  -- were there room for the next character, the longest beginning would have it
  apply Nat.lt_of_not_le
  intro room
  obtain ⟨more, longer⟩ := longest.longest _ behind split room
  have larger := congrArg String.utf8ByteSize longer
  simp only [String.utf8ByteSize_append, String.utf8ByteSize_singleton] at larger
  have := c.utf8Size_pos
  omega

end WarmupGate.Text
