/-!
# Cutting a text to a number of bytes

A text whose UTF-8 form is too long for a limit is cut before the limit, at the next place that does
not lie inside a character. The place is looked for from the limit back, one byte at a time.
-/
namespace WarmupGate.Text

/-- The length of a text in UTF-8. -/
def byteCount : List Char → Nat
  | [] => 0
  | c :: rest => c.utf8Size + byteCount rest

/-- Goes back from a number of bytes to one after which a character ends. -/
def boundaryUpTo (s : String) (n : Nat) : Nat :=
  if (⟨n⟩ : String.Pos.Raw).isValid s then n
  else
    match n with
    | 0 => 0
    | n + 1 => boundaryUpTo s n

theorem boundaryUpTo_zero (s : String) : boundaryUpTo s 0 = 0 := by
  unfold boundaryUpTo
  split <;> rfl

theorem boundaryUpTo_succ (s : String) (n : Nat) :
    boundaryUpTo s (n + 1) =
      if (⟨n + 1⟩ : String.Pos.Raw).IsValid s then n + 1 else boundaryUpTo s n := by
  rw [boundaryUpTo]
  simp only [String.Pos.Raw.isValid_eq_true_iff]

theorem isValid_boundaryUpTo (s : String) (n : Nat) :
    (⟨boundaryUpTo s n⟩ : String.Pos.Raw).IsValid s := by
  induction n with
  | zero =>
    rw [boundaryUpTo_zero]
    exact String.Pos.Raw.isValid_zero
  | succ n ih =>
    rw [boundaryUpTo_succ]
    by_cases here : (⟨n + 1⟩ : String.Pos.Raw).IsValid s
    · simp [here]
    · simp [here, ih]

/-- The characters before a place, which must not lie inside one. -/
def truncate (s : String) (n : Nat) (boundary : (⟨n⟩ : String.Pos.Raw).IsValid s) : String :=
  (s.sliceTo (s.pos ⟨n⟩ boundary)).copy

def clip (limit : Nat) (s : String) : String :=
  if s.utf8ByteSize ≤ limit then s
  else truncate s (boundaryUpTo s limit) (isValid_boundaryUpTo s limit)

end WarmupGate.Text
