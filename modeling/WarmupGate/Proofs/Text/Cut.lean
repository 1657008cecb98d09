/-!
# Cutting texts at a character

A text can be put together again from its parts in one way only, if the character between two of
them does not occur in one: from the left if the first part is free of it, and from the right if the
last one is. Texts whose beginnings differ at some place are different, whatever follows.
-/
namespace WarmupGate.Text

variable {c : Char} {front back : List Char}

theorem takeWhile_append_of_stop (rest : List Char) {p : Char → Bool} {front : List Char}
    (kind : ∀ x ∈ front, p x = true) (stop : ∀ x ∈ rest.head?, p x = false) :
    (front ++ rest).takeWhile p = front ∧ (front ++ rest).dropWhile p = rest := by
  rw [List.takeWhile_append_of_pos kind, List.dropWhile_append_of_pos kind]
  cases rest with
  | nil => simp
  | cons x tail => simp [stop x rfl]

/-- A text up to the first place of a character, and what stands behind it. -/
def cut (c : Char) (s : List Char) : List Char × List Char :=
  (s.takeWhile (· ≠ c), (s.dropWhile (· ≠ c)).drop 1)

theorem takeWhile_ne_append (absent : c ∉ front) (rest : List Char) :
    (front ++ c :: rest).takeWhile (· ≠ c) = front ∧
      (front ++ c :: rest).dropWhile (· ≠ c) = c :: rest := by
  have kind : ∀ x ∈ front, decide (x ≠ c) = true := fun x member =>
    decide_eq_true fun same => absent (same ▸ member)
  exact takeWhile_append_of_stop (c :: rest) kind (by simp)

theorem cut_append (absent : c ∉ front) (rest : List Char) :
    cut c (front ++ c :: rest) = (front, rest) := by
  obtain ⟨before, behind⟩ := takeWhile_ne_append absent rest
  rw [cut, before, behind, List.drop_succ_cons, List.drop_zero]

theorem eq_of_append_cons {start finish : List Char} (absent : c ∉ back) (absent' : c ∉ finish)
    (same : front ++ c :: back = start ++ c :: finish) : front = start ∧ back = finish := by
  have cuts := congrArg (fun s => cut c s.reverse) same
  simp only [List.reverse_append, List.reverse_cons, List.append_assoc,
    List.singleton_append] at cuts
  rw [cut_append (by simpa using absent), cut_append (by simpa using absent')] at cuts
  obtain ⟨ends, fronts⟩ := Prod.mk.inj cuts
  exact ⟨List.reverse_inj.1 fronts, List.reverse_inj.1 ends⟩

theorem append_ne_append {start finish : String} {i : Nat} {x y : Char}
    (here : start.toList[i]? = some x) (there : finish.toList[i]? = some y) (differ : x ≠ y)
    (s t : String) : start ++ s ≠ finish ++ t := by
  intro same
  have inside := (List.getElem?_eq_some_iff.1 here).1
  have inside' := (List.getElem?_eq_some_iff.1 there).1
  have place := congrArg (fun text : String => text.toList[i]?) same
  simp only [String.toList_append, List.getElem?_append_left inside,
    List.getElem?_append_left inside', here, there] at place
  exact differ (Option.some.inj place)

end WarmupGate.Text
