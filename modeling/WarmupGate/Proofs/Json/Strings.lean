import WarmupGate.Json.Grammar
import WarmupGate.Json.Scan

/-!
# Scanning strings

A string is scanned exactly if it is a spelling of the characters that are given, up to the first
quote that does not belong to it. A string that is skipped may be any that the format allows.
-/
namespace WarmupGate.Json

variable {c : Char} {cs s rest body : List Char} {n : Nat}

section

variable {α β ε : Type}

theorem map_eq_ok_iff {e : Except ε α} {f : α → β} {b : β} :
    e.map f = .ok b ↔ ∃ a, e = .ok a ∧ f a = b := by
  cases e <;> simp [Except.map]

theorem bind_eq_ok_iff {e : Except ε α} {f : α → Except ε β} {b : β} :
    e.bind f = .ok b ↔ ∃ a, e = .ok a ∧ f a = .ok b := by
  cases e <;> simp [Except.bind]

end

theorem scanUnit_append {w : List Char} (word : HexWord w n) (rest : List Char) :
    scanUnit (w ++ rest) = .ok (n, rest) := by
  obtain ⟨length, value⟩ := word
  obtain ⟨a, b, c, d, rfl⟩ : ∃ a b c d, w = [a, b, c, d] := by
    match w, length with
    | [a, b, c, d], _ => exact ⟨a, b, c, d, rfl⟩
  cases ha : Text.hexDigit? a <;> cases hb : Text.hexDigit? b <;> cases hc : Text.hexDigit? c <;>
    cases hd : Text.hexDigit? d <;> simp_all [Text.hexValue?, scanUnit]

theorem hexWord_of_scanUnit (h : scanUnit s = .ok (n, rest)) :
    ∃ w, s = w ++ rest ∧ HexWord w n := by
  unfold scanUnit at h
  split at h
  · rename_i a b c d behind
    split at h
    · rename_i ha hb hc hd
      cases h
      exact ⟨[a, b, c, d], rfl, rfl, by simp [Text.hexValue?, ha, hb, hc, hd]⟩
    · cases h
  · split at h <;> cases h

theorem isLeadingHalf_iff : isLeadingHalf n = true ↔ 0xd800 ≤ n ∧ n ≤ 0xdbff := by
  simp [isLeadingHalf]

theorem isTrailingHalf_iff : isTrailingHalf n = true ↔ 0xdc00 ≤ n ∧ n ≤ 0xdfff := by
  simp [isTrailingHalf]

theorem scanCode_append (coded : Coded c s) (rest : List Char) :
    scanCode (s ++ rest) = .ok (c, rest) := by
  cases coded with
  | @whole h n word range =>
    have trailing : ¬ isTrailingHalf n = true := by
      rw [isTrailingHalf_iff]
      omega
    have leading : ¬ isLeadingHalf n = true := by
      rw [isLeadingHalf_iff]
      omega
    simp only [scanCode, scanUnit_append word, if_neg trailing, if_neg leading]
  | @halves h l m n high low leading trailing =>
    have first : ¬ isTrailingHalf m = true := by
      rw [isTrailingHalf_iff]
      omega
    rw [List.append_assoc]
    simp only [scanCode, scanUnit_append high, if_neg first, isLeadingHalf_iff.2 leading, if_true,
      List.cons_append, scanUnit_append low, isTrailingHalf_iff.2 trailing]

theorem coded_of_scanCode (h : scanCode s = .ok (c, rest)) : ∃ t, s = t ++ rest ∧ Coded c t := by
  unfold scanCode at h
  cases first : scanUnit s with
  | error => simp [first] at h
  | ok p =>
    obtain ⟨m, behind⟩ := p
    obtain ⟨w, rfl, high⟩ := hexWord_of_scanUnit first
    simp only [first] at h
    by_cases trailing : isTrailingHalf m = true
    · simp [trailing] at h
    · rw [if_neg trailing] at h
      by_cases leading : isLeadingHalf m = true
      · rw [if_pos leading] at h
        split at h
        · cases h
        · cases h
        · rename_i behind
          cases second : scanUnit behind with
          | error => simp [second] at h
          | ok q =>
            obtain ⟨n, behind⟩ := q
            obtain ⟨l, rfl, low⟩ := hexWord_of_scanUnit second
            simp only [second] at h
            by_cases half : isTrailingHalf n = true
            · rw [if_pos half] at h
              obtain ⟨rfl, rfl⟩ := Prod.mk.inj (Except.ok.inj h)
              exact ⟨w ++ '\\' :: 'u' :: l, by simp,
                .halves high low (isLeadingHalf_iff.1 leading) (isTrailingHalf_iff.1 half)⟩
            · simp [half] at h
        · cases h
      · rw [if_neg leading] at h
        cases h
        rw [isTrailingHalf_iff] at trailing
        rw [isLeadingHalf_iff] at leading
        exact ⟨w, rfl, .whole high (by omega)⟩

theorem unescape?_eq_some_iff {letter : Char} :
    unescape? letter = some c ↔ (letter, c) ∈ shorthands := by
  constructor
  · intro h
    unfold unescape? at h
    split at h <;> cases h <;> decide
  · intro known
    simp only [shorthands, List.mem_cons, Prod.mk.injEq, List.not_mem_nil, or_false] at known
    rcases known with ⟨rfl, rfl⟩ | ⟨rfl, rfl⟩ | ⟨rfl, rfl⟩ | ⟨rfl, rfl⟩ | ⟨rfl, rfl⟩ | ⟨rfl, rfl⟩ |
      ⟨rfl, rfl⟩ | ⟨rfl, rfl⟩ <;> rfl

theorem scanEscape_append (escape : Escape c s) (rest : List Char) :
    scanEscape (s ++ rest) = .ok (c, rest) := by
  cases escape with
  | @short letter c known =>
    have plain : letter ≠ 'u' := by
      rintro rfl
      simp [shorthands] at known
    simp only [List.cons_append, List.nil_append]
    unfold scanEscape
    split
    · contradiction
    · rename_i same
      exact absurd (List.cons.inj same).1 plain
    · rename_i same
      obtain ⟨rfl, rfl⟩ := List.cons.inj same
      simp only [unescape?_eq_some_iff.2 known]
  | code coded => exact scanCode_append coded rest

theorem escape_of_scanEscape (h : scanEscape s = .ok (c, rest)) :
    ∃ t, s = t ++ rest ∧ Escape c t := by
  unfold scanEscape at h
  split at h
  · cases h
  · obtain ⟨t, rfl, coded⟩ := coded_of_scanCode h
    exact ⟨'u' :: t, rfl, .code coded⟩
  · rename_i letter behind _
    split at h
    · rename_i known
      cases h
      exact ⟨[letter], rfl, .short (unescape?_eq_some_iff.1 known)⟩
    · cases h

theorem scanString_quote (s : List Char) : scanString ('"' :: s) = .ok ([], s) := by
  rw [scanString]

theorem scanString_escaped {e : List Char} (escape : Escape c e) (s : List Char) :
    scanString ('\\' :: e ++ s) = (scanString s).map fun p => (c :: p.1, p.2) := by
  rw [List.cons_append, scanString]
  split
  · rename_i scanned
    cases scanned.symm.trans (scanEscape_append escape s)
  · rename_i scanned
    cases scanned.symm.trans (scanEscape_append escape s)
    rfl

theorem scanString_plain (plain : IsPlain c) (s : List Char) :
    scanString (c :: s) = (scanString s).map fun p => (c :: p.1, p.2) := by
  obtain ⟨low, quote, slash⟩ := plain
  rw [scanString]
  · exact if_neg (Nat.not_lt.2 low)
  · exact fun same => quote same
  · exact fun same => slash same

theorem scanString_append (spells : Spells cs body) (rest : List Char) :
    scanString (body ++ '"' :: rest) = .ok (cs, rest) := by
  induction spells with
  | nil => exact scanString_quote rest
  | plain isPlain _ ih =>
    rw [List.cons_append, scanString_plain isPlain, ih]
    rfl
  | escaped escape _ ih =>
    rw [List.append_assoc, scanString_escaped escape, ih]
    rfl

theorem spells_of_scanString (h : scanString s = .ok (cs, rest)) :
    ∃ b, s = b ++ '"' :: rest ∧ Spells cs b := by
  fun_induction scanString s generalizing cs with
  | case1 => cases h
  | case2 s =>
    cases h
    exact ⟨[], rfl, .nil⟩
  | case3 => cases h
  | case4 s c behind scanned ih =>
    obtain ⟨⟨ds, r⟩, later, same⟩ := map_eq_ok_iff.1 h
    obtain ⟨rfl, rfl⟩ := Prod.mk.inj same
    obtain ⟨e, rfl, escape⟩ := escape_of_scanEscape scanned
    obtain ⟨b, rfl, spells⟩ := ih later
    exact ⟨'\\' :: e ++ b, by simp, .escaped escape spells⟩
  | case5 => cases h
  | case6 c s quote slash low ih =>
    obtain ⟨⟨ds, r⟩, later, same⟩ := map_eq_ok_iff.1 h
    obtain ⟨rfl, rfl⟩ := Prod.mk.inj same
    obtain ⟨b, rfl, spells⟩ := ih later
    exact ⟨c :: b, rfl, .plain ⟨Nat.not_lt.1 low, quote, slash⟩ spells⟩

theorem skipString_quote (s : List Char) : skipString ('"' :: s) = .ok s := by
  rw [skipString]

theorem skipString_plain (plain : IsPlain c) (s : List Char) :
    skipString (c :: s) = skipString s := by
  obtain ⟨low, quote, slash⟩ := plain
  rw [skipString]
  · exact if_neg (Nat.not_lt.2 low)
  · exact fun same => quote same
  · exact fun same => slash same

theorem skipString_escaped {e : List Char} (escape : skipEscape (e ++ s) = .ok s) :
    skipString ('\\' :: e ++ s) = skipString s := by
  rw [List.cons_append, skipString]
  split
  · rename_i skipped
    cases skipped.symm.trans escape
  · rename_i skipped
    cases skipped.symm.trans escape
    rfl

theorem skipEscape_short {letter : Char} (known : (letter, c) ∈ shorthands) (s : List Char) :
    skipEscape ([letter] ++ s) = .ok s := by
  have plain : letter ≠ 'u' := by
    rintro rfl
    simp [shorthands] at known
  simp only [List.cons_append, List.nil_append]
  unfold skipEscape
  split
  · contradiction
  · rename_i same
    exact absurd (List.cons.inj same).1 plain
  · rename_i same
    obtain ⟨rfl, rfl⟩ := List.cons.inj same
    rw [unescape?_eq_some_iff.2 known]
    rfl

theorem skipEscape_code {w : List Char} (word : HexWord w n) (s : List Char) :
    skipEscape ('u' :: w ++ s) = .ok s := by
  rw [List.cons_append]
  change (scanUnit (w ++ s)).map Prod.snd = .ok s
  rw [scanUnit_append word]
  rfl

theorem skipString_append (isBody : IsBody body) (rest : List Char) :
    skipString (body ++ '"' :: rest) = .ok rest := by
  induction isBody with
  | nil => exact skipString_quote rest
  | plain isPlain _ ih => rw [List.cons_append, skipString_plain isPlain, ih]
  | @short letter c s known _ ih =>
    have skipped := skipString_escaped (skipEscape_short known (s ++ '"' :: rest))
    exact skipped.trans ih
  | @code w s n word _ ih =>
    have skipped := skipString_escaped (skipEscape_code word (s ++ '"' :: rest))
    rw [List.append_assoc]
    exact skipped.trans ih

theorem isBody_of_spells (spells : Spells cs body) : IsBody body := by
  induction spells with
  | nil => exact .nil
  | plain isPlain _ ih => exact .plain isPlain ih
  | escaped escape _ ih =>
    cases escape with
    | short known => exact .short known ih
    | code coded =>
      cases coded with
      | whole word _ => exact .code word ih
      | halves high low =>
        -- each half is a code of its own to the format
        simpa using IsBody.code high (.code low ih)

theorem IsBody.append_inj {b b' r r' : List Char} (h : IsBody b) (h' : IsBody b')
    (same : b ++ '"' :: r = b' ++ '"' :: r') : b = b' ∧ r = r' := by
  have rests : r = r' := by
    have skipped := (skipString_append h r).symm.trans (same ▸ skipString_append h' r')
    exact Except.ok.inj skipped
  subst rests
  exact ⟨List.append_cancel_right same, rfl⟩

theorem spells_of_scanString_append (isBody : IsBody body)
    (h : scanString (body ++ '"' :: rest) = .ok (cs, s)) : s = rest ∧ Spells cs body := by
  obtain ⟨b, same, spells⟩ := spells_of_scanString h
  obtain ⟨rfl, rfl⟩ := isBody.append_inj (isBody_of_spells spells) same
  exact ⟨rfl, spells⟩

theorem Spells.unique {ds : List Char} (h : Spells cs body) (k : Spells ds body) : cs = ds := by
  have same := (scanString_append h []).symm.trans (scanString_append k [])
  cases same
  rfl

end WarmupGate.Json
