import WarmupGate.Proofs.Warmup.Tally

/-!
# Counts and the last complaint

The counts of a tally do not see the order of its hits and add up over parts of a series. Kept in
words of 32 bits they are exact as long as there are fewer hits than a word has values; what can be
read off a longer series is said too. The last error does see the order: it is what the last
complaint says. A hit may carry an error, a status, both or neither, and one that carries neither is
a failure without being a complaint.
-/
namespace WarmupGate.Warmup

namespace Hit

variable {h : Hit} {text : String}

/-- What a hit says: the transport error, or else the status. -/
inductive Utters (h : Hit) : String → Prop
  | error {text : String} : h.error = some text → h.Utters text
  | status {code : Nat} : h.error = none → h.status = some code →
      h.Utters ("HTTP " ++ Text.decimal code)

/-- A hit that is no success and has something to say. -/
structure IsComplaint (h : Hit) : Prop where
  failed : ¬ h.IsSuccess
  carries : h.error ≠ none ∨ h.status ≠ none

instance (h : Hit) : Decidable h.IsComplaint :=
  decidable_of_iff (¬ h.IsSuccess ∧ (h.error ≠ none ∨ h.status ≠ none))
    ⟨fun k => ⟨k.1, k.2⟩, fun k => ⟨k.failed, k.carries⟩⟩

def grievance? (h : Hit) : Option String := if h.succeeded then none else h.complaint?

theorem utters_iff : h.Utters text ↔ h.complaint? = some text := by
  constructor
  · intro uttered
    cases uttered with
    | error error => simp [complaint?, error]
    | status none status => simp [complaint?, none, status]
  · intro said
    cases error : h.error with
    | some e =>
      simp only [complaint?, error, Option.orElse_eq_orElse, Option.orElse_some] at said
      exact .error (error.trans said)
    | none =>
      simp only [complaint?, error, Option.orElse_eq_orElse, Option.orElse_none] at said
      obtain ⟨code, status, rfl⟩ := Option.map_eq_some_iff.1 said
      exact .status error status

theorem complaint?_eq_none_iff : h.complaint? = none ↔ h.error = none ∧ h.status = none := by
  simp [complaint?]

theorem carries_iff : (h.error ≠ none ∨ h.status ≠ none) ↔ ∃ text, h.Utters text := by
  simp only [utters_iff, ← Option.ne_none_iff_exists', Ne, complaint?_eq_none_iff]
  exact Classical.not_and_iff_not_or_not.symm

theorem grievance?_eq_some_iff : h.grievance? = some text ↔ h.IsComplaint ∧ h.Utters text := by
  by_cases success : h.IsSuccess
  · have silent : h.grievance? = none := if_pos (h.succeeded_iff.2 success)
    rw [silent]
    exact ⟨nofun, fun loud => absurd success loud.1.failed⟩
  · have told : h.grievance? = h.complaint? := if_neg (fun k => success (h.succeeded_iff.1 k))
    rw [told, ← utters_iff]
    exact ⟨fun uttered => ⟨⟨success, carries_iff.2 ⟨text, uttered⟩⟩, uttered⟩, And.right⟩

theorem grievance?_eq_none_iff : h.grievance? = none ↔ ¬ h.IsComplaint := by
  constructor
  · intro silent complaint
    obtain ⟨text, uttered⟩ := carries_iff.1 complaint.carries
    cases silent.symm.trans (grievance?_eq_some_iff.2 ⟨complaint, uttered⟩)
  · intro quiet
    cases told : h.grievance? with
    | none => rfl
    | some text => exact absurd (grievance?_eq_some_iff.1 told).1 quiet

end Hit

/-- The last complaint of a series of hits says this. -/
def LastSaid (hits : List Hit) (text : String) : Prop :=
  ∃ earlier h later, hits = earlier ++ h :: later ∧ h.IsComplaint ∧ h.Utters text ∧
    ∀ k ∈ later, ¬ k.IsComplaint

namespace Tally

variable {hits : List Hit} {t u : Tally}

theorem lastError_record (t : Tally) (h : Hit) :
    (t.record h).lastError = h.grievance?.or t.lastError := by
  by_cases success : h.succeeded
  · simp [record, Hit.grievance?, success]
  · simp [record, Hit.grievance?, success, Option.orElse_eq_or]

theorem lastError_foldl (hits : List Hit) (t : Tally) :
    (hits.foldl record t).lastError =
      (hits.reverse.findSome? Hit.grievance?).or t.lastError := by
  induction hits generalizing t with
  | nil => rfl
  | cons h hits ih =>
    rw [List.foldl_cons, ih, lastError_record, List.reverse_cons, List.findSome?_append,
      Option.or_assoc, List.findSome?_singleton]

theorem lastError_ofHits (hits : List Hit) :
    (ofHits hits).lastError = hits.reverse.findSome? Hit.grievance? := by
  rw [ofHits, lastError_foldl]
  exact Option.or_none

theorem lastError_eq_none_iff : (ofHits hits).lastError = none ↔ ∀ h ∈ hits, ¬ h.IsComplaint := by
  simp only [lastError_ofHits, List.findSome?_eq_none_iff, List.mem_reverse,
    Hit.grievance?_eq_none_iff]

theorem lastError_eq_some_iff {text : String} :
    (ofHits hits).lastError = some text ↔ LastSaid hits text := by
  rw [lastError_ofHits, List.findSome?_eq_some_iff]
  constructor
  -- the first split of the reversed series is the last one of the series, read backwards
  · rintro ⟨later, h, earlier, split, told, quiet⟩
    have complaint := Hit.grievance?_eq_some_iff.1 told
    refine ⟨earlier.reverse, h, later.reverse, ?_, complaint.1, complaint.2, fun k member => ?_⟩
    · rw [← hits.reverse_reverse, split]
      simp
    · exact Hit.grievance?_eq_none_iff.1 (quiet k (List.mem_reverse.1 member))
  · rintro ⟨earlier, h, later, rfl, complaint, uttered, quiet⟩
    refine ⟨later.reverse, h, earlier.reverse, by simp,
      Hit.grievance?_eq_some_iff.2 ⟨complaint, uttered⟩, fun k member => ?_⟩
    exact Hit.grievance?_eq_none_iff.2 (quiet k (List.mem_reverse.1 member))

/-- Counting in words comes to an end exactly if the last number of successes fits, since no earlier
one is larger. -/
theorem foldlM_record?_eq_some_iff (fits : t.successes < Word.size 32) :
    hits.foldlM record? t = some u ↔
      (hits.foldl record t).successes < Word.size 32 ∧ hits.foldl record t = u := by
  induction hits generalizing t with
  | nil => exact ⟨fun same => ⟨fits, Option.some.inj same⟩, fun k => congrArg some k.2⟩
  | cons h hits ih =>
    rw [List.foldlM_cons, List.foldl_cons]
    by_cases next : (t.record h).successes < Word.size 32
    · rw [record?, if_pos next]
      exact ih next
    · rw [record?, if_neg next]
      have most := successes_foldl hits (t.record h)
      exact ⟨nofun, fun k => absurd k.1 (by omega)⟩

theorem ofHits?_eq_some_iff :
    ofHits? hits = some t ↔ (ofHits hits).successes < Word.size 32 ∧ ofHits hits = t :=
  foldlM_record?_eq_some_iff (Word.size_pos 32)

theorem successes_le_length (hits : List Hit) : (ofHits hits).successes ≤ hits.length := by
  rw [successes_ofHits]
  exact List.countP_le_length

theorem requestsWord_ofHits (hits : List Hit) :
    (ofHits hits).requestsWord = hits.length % Word.size 32 := by
  rw [requestsWord, requests_ofHits]

theorem requestsWord_of_few (few : hits.length < Word.size 32) :
    (ofHits hits).requestsWord = hits.length := by
  rw [requestsWord_ofHits, Nat.mod_eq_of_lt few]

theorem ofHits?_of_few (few : hits.length < Word.size 32) : ofHits? hits = some (ofHits hits) :=
  ofHits?_eq_some_iff.2 ⟨Nat.lt_of_le_of_lt (successes_le_length hits) few, rfl⟩

theorem failures?_eq_some_iff {n : Nat} :
    t.failures? = some n ↔ t.successes + n = t.requestsWord := by
  unfold failures?
  by_cases room : t.successes ≤ t.requestsWord
  · rw [if_pos room, Option.some_inj]
    omega
  · rw [if_neg room]
    exact ⟨nofun, fun sum => absurd sum (by omega)⟩

theorem failures?_of_few (few : hits.length < Word.size 32) :
    (ofHits hits).failures? = some (ofHits hits).failures := by
  rw [failures?_eq_some_iff, requestsWord_of_few few, failures, requests_ofHits]
  exact Nat.add_sub_of_le (successes_le_length hits)

end Tally

/-- The counts that are read off the tally of a series. -/
structure Counts where
  requests : Nat
  successes : Nat
  failures : Nat
  deriving DecidableEq, Repr

namespace Counts

variable {hits others : List Hit}

instance : Add Counts :=
  ⟨fun a b => ⟨a.requests + b.requests, a.successes + b.successes, a.failures + b.failures⟩⟩

/-- All counts of a series in words, if none of them leaves its word. -/
def ofHits? (hits : List Hit) : Option Counts :=
  (Tally.ofHits? hits).bind fun t =>
    t.failures?.map fun failures => ⟨t.requestsWord, t.successes, failures⟩

/-- What can be read off a series of any length: the word of its requests goes round, and nothing
is read if it holds less than the successes. -/
theorem ofHits?_eq_some_iff {c : Counts} :
    ofHits? hits = some c ↔
      c.requests = hits.length % Word.size 32 ∧
        c.successes = hits.countP (fun h => decide h.IsSuccess) ∧
        c.successes + c.failures = c.requests := by
  have word := Tally.requestsWord_ofHits hits
  have count := Tally.successes_ofHits hits
  constructor
  · intro found
    obtain ⟨t, counted, read⟩ := Option.bind_eq_some_iff.1 found
    obtain ⟨n, failures, rfl⟩ := Option.map_eq_some_iff.1 read
    obtain ⟨-, rfl⟩ := Tally.ofHits?_eq_some_iff.1 counted
    exact ⟨word, count, Tally.failures?_eq_some_iff.1 failures⟩
  · rintro ⟨requests, successes, sum⟩
    have round := Nat.mod_lt hits.length (Word.size_pos 32)
    have fits : (Tally.ofHits hits).successes < Word.size 32 := by omega
    have failures : (Tally.ofHits hits).failures? = some c.failures :=
      Tally.failures?_eq_some_iff.2 (by omega)
    rw [ofHits?, Tally.ofHits?_eq_some_iff.2 ⟨fits, rfl⟩, Option.bind_some, failures,
      Option.map_some, word, count, ← requests, ← successes]

theorem ofHits?_perm (same : hits.Perm others) : ofHits? others = ofHits? hits := by
  ext c
  rw [ofHits?_eq_some_iff, ofHits?_eq_some_iff, same.length_eq, same.countP_eq]

theorem ofHits?_of_few (few : hits.length < Word.size 32) :
    ofHits? hits = some ⟨hits.length, hits.countP fun h => decide h.IsSuccess,
      hits.countP fun h => decide ¬ h.IsSuccess⟩ := by
  rw [ofHits?, Tally.ofHits?_of_few few, Option.bind_some, Tally.failures?_of_few few,
    Option.map_some, Tally.requestsWord_of_few few, Tally.successes_ofHits, Tally.failures_ofHits]

theorem ofHits?_append (few : (hits ++ others).length < Word.size 32) :
    ∃ a b, ofHits? hits = some a ∧ ofHits? others = some b ∧
      ofHits? (hits ++ others) = some (a + b) := by
  have parts : (hits ++ others).length = hits.length + others.length := List.length_append
  refine ⟨_, _, ofHits?_of_few (by omega), ofHits?_of_few (by omega), ?_⟩
  rw [ofHits?_of_few few, parts, List.countP_append, List.countP_append]
  rfl

end Counts

/-- For every series of fewer hits than a word has values: counting in words never leaves a word and
comes to the tally; the requests are its length, the successes are the hits without an error and with
a status in the 200s, and the failures, which are the difference, are all other hits. No order
changes these counts, and those of two parts add up to those of the whole. The last error is what
the last complaint says, and there is none exactly if there is no complaint. -/
theorem hits_are_accounted_for {hits : List Hit} (few : hits.length < Word.size 32) :
    Tally.ofHits? hits = some (Tally.ofHits hits) ∧
      (Tally.ofHits hits).requestsWord = hits.length ∧
      (Tally.ofHits hits).successes = hits.countP (fun h => decide h.IsSuccess) ∧
      (Tally.ofHits hits).failures? = some (Tally.ofHits hits).failures ∧
      (Tally.ofHits hits).failures = hits.countP (fun h => decide ¬ h.IsSuccess) ∧
      (∀ others, hits.Perm others →
        ∃ a, Counts.ofHits? hits = some a ∧ Counts.ofHits? others = some a) ∧
      (∀ before after, hits = before ++ after →
        ∃ a b, Counts.ofHits? before = some a ∧ Counts.ofHits? after = some b ∧
          Counts.ofHits? hits = some (a + b)) ∧
      (∀ text, (Tally.ofHits hits).lastError = some text ↔ LastSaid hits text) ∧
      ((Tally.ofHits hits).lastError = none ↔ ∀ h ∈ hits, ¬ h.IsComplaint) := by
  have counts := Counts.ofHits?_of_few few
  refine ⟨Tally.ofHits?_of_few few, Tally.requestsWord_of_few few, Tally.successes_ofHits hits,
    Tally.failures?_of_few few, Tally.failures_ofHits hits,
    fun others same => ⟨_, counts, (Counts.ofHits?_perm same).trans counts⟩,
    fun before after split => ?_, fun text => Tally.lastError_eq_some_iff,
    Tally.lastError_eq_none_iff⟩
  rw [split] at few ⊢
  exact Counts.ofHits?_append few

namespace Mixed

/-- One hit carries an error and a status in the 200s, and one carries neither. -/
def hits : List Hit :=
  [⟨.ofMillis 5, some 200, none⟩, ⟨.ofMillis 7, some 503, none⟩,
    ⟨.ofMillis 9, some 204, some "body cut off"⟩, ⟨.ofMillis 3, some 302, none⟩,
    ⟨.ofMillis 2, none, none⟩, ⟨.ofMillis 4, some 299, none⟩]

/-- In both orders two hits of six are successes, but another one complains last. -/
theorem hits_are_accounted_for_both_ways :
    hits.length < Word.size 32 ∧ hits.reverse.length < Word.size 32 ∧ hits.Perm hits.reverse ∧
      (Tally.ofHits hits).requestsWord = 6 ∧ (Tally.ofHits hits).successes = 2 ∧
      (Tally.ofHits hits).failures? = some 4 ∧
      Counts.ofHits? hits.reverse = Counts.ofHits? hits ∧
      (Tally.ofHits hits).lastError = some "HTTP 302" ∧
      (Tally.ofHits hits.reverse).lastError = some "HTTP 503" := by
  have few : hits.length < Word.size 32 := by decide
  have few' : hits.reverse.length < Word.size 32 := by decide
  have same : hits.Perm hits.reverse := hits.reverse_perm.symm
  obtain ⟨-, requests, successes, failures, others, permuted, -, last, -⟩ :=
    hits_are_accounted_for few
  obtain ⟨-, -, -, -, -, -, -, last', -⟩ := hits_are_accounted_for few'
  obtain ⟨a, forth, back⟩ := permuted _ same
  have redirect : LastSaid hits "HTTP 302" :=
    ⟨hits.take 3, ⟨.ofMillis 3, some 302, none⟩, hits.drop 4, rfl, by decide,
      Hit.utters_iff.2 (by decide), by decide⟩
  have overload : LastSaid hits.reverse "HTTP 503" :=
    ⟨hits.reverse.take 4, ⟨.ofMillis 7, some 503, none⟩, hits.reverse.drop 5, rfl, by decide,
      Hit.utters_iff.2 (by decide), by decide⟩
  exact ⟨few, few', same, requests, successes.trans (by decide),
    failures.trans (congrArg some (others.trans (by decide))), back.trans forth.symm,
    (last _).2 redirect, (last' _).2 overload⟩

end Mixed
end WarmupGate.Warmup
