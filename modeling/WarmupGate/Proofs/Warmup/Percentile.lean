import WarmupGate.Proofs.Binary64
import WarmupGate.Proofs.Warmup.Consistency

/-!
# Percentiles are order statistics

A percentile is the latency at a rank, counted from the shortest one, and the rank is computed in
double precision. Which value stands at a rank is said by two counts, without sorting: so many
latencies are not above it, and the others and itself are not below it. These counts leave no choice
and do not see an order, so a percentile depends on the latencies alone, and a larger share never
gives a shorter one. How close a rank comes to the exact product is not claimed.
-/
namespace WarmupGate.Warmup

variable {values : List Span} {a b : Span} {q r : ℕ}

/-- A latency that was recorded, and that stands at a rank from the shortest one: as many as the
rank says are not above it, and all others and itself are not below it. -/
structure AtRank (values : List Span) (r : ℕ) (a : Span) : Prop where
  recorded : a ∈ values
  covers : r ≤ values.countP fun d => decide (d ≤ a)
  leaves : values.length - r + 1 ≤ values.countP fun d => decide (a ≤ d)

theorem countP_le_add_countP_le (values : List Span) (lt : a < b) :
    (values.countP fun d => decide (d ≤ a)) + (values.countP fun d => decide (b ≤ d)) ≤
      values.length := by
  have above : (values.countP fun d => decide (b ≤ d)) ≤
      values.countP fun d => !decide (d ≤ a) := by
    apply List.countP_mono_left
    intro d member le
    have ab : a.nanos < b.nanos := lt
    have bd : b.nanos ≤ d.nanos := of_decide_eq_true le
    have da : ¬ d ≤ a := fun h => Nat.not_le.2 (Nat.lt_of_lt_of_le ab bd) h
    simp [da]
  calc (values.countP fun d => decide (d ≤ a)) + (values.countP fun d => decide (b ≤ d))
      ≤ (values.countP fun d => decide (d ≤ a)) + (values.countP fun d => !decide (d ≤ a)) :=
        Nat.add_le_add_left above _
    _ = values.length := by
        rw [values.length_eq_countP_add_countP fun d => decide (d ≤ a)]
        simp

namespace AtRank

theorem le (h : AtRank values q a) (k : AtRank values r b) (ranks : q ≤ r)
    (bound : q ≤ values.length) : a ≤ b := by
  by_contra above
  have shared := countP_le_add_countP_le values (show b < a from Nat.lt_of_not_le above)
  have few := k.covers
  have many := h.leaves
  omega

theorem unique (h : AtRank values r a) (k : AtRank values r b) (bound : r ≤ values.length) :
    a = b := by
  have ab : a.nanos ≤ b.nanos := h.le k le_rfl bound
  have ba : b.nanos ≤ a.nanos := k.le h le_rfl bound
  cases a
  cases b
  exact congrArg Span.mk (Nat.le_antisymm ab ba)

theorem perm {others : List Span} (h : AtRank values r a) (same : values.Perm others) :
    AtRank others r a where
  recorded := same.mem_iff.1 h.recorded
  covers := same.countP_eq _ ▸ h.covers
  leaves := same.length_eq ▸ same.countP_eq _ ▸ h.leaves

theorem of_pairwise {sorted : List Span} (ascending : sorted.Pairwise (· ≤ ·)) {i : ℕ}
    (inside : i < sorted.length) : AtRank sorted (i + 1) sorted[i] := by
  rw [List.pairwise_iff_getElem] at ascending
  have refl (d : Span) : d ≤ d := Nat.le_refl d.nanos
  refine ⟨List.getElem_mem inside, ?_, ?_⟩
  · have front : (sorted.take (i + 1)).countP (fun d => decide (d ≤ sorted[i])) = i + 1 := by
      rw [List.countP_eq_length.2, List.length_take_of_le inside]
      intro d member
      obtain ⟨j, place, rfl⟩ := List.mem_take_iff_getElem.1 member
      apply decide_eq_true
      rcases Nat.lt_or_ge j i with before | behind
      · exact ascending j i (by omega) inside before
      · obtain rfl : j = i := by omega
        exact refl _
    calc i + 1 = (sorted.take (i + 1)).countP fun d => decide (d ≤ sorted[i]) := front.symm
      _ ≤ sorted.countP fun d => decide (d ≤ sorted[i]) := (List.take_sublist _ _).countP_le
  · have back : (sorted.drop i).countP (fun d => decide (sorted[i] ≤ d)) = sorted.length - i := by
      rw [List.countP_eq_length.2, List.length_drop]
      intro d member
      obtain ⟨j, place, rfl⟩ := List.mem_drop_iff_getElem.1 member
      apply decide_eq_true
      rcases Nat.eq_zero_or_pos j with rfl | behind
      · exact refl _
      · exact ascending i (i + j) inside (by omega) (by omega)
    calc sorted.length - (i + 1) + 1 = sorted.length - i := by omega
      _ = (sorted.drop i).countP fun d => decide (sorted[i] ≤ d) := back.symm
      _ ≤ sorted.countP fun d => decide (sorted[i] ≤ d) := (List.drop_sublist _ _).countP_le

end AtRank

namespace Tally

variable {t : Tally} {share other : ℚ}

theorem rank_bounds (share : ℚ) {n : ℕ} (some : 0 < n) : 1 ≤ rank share n ∧ rank share n ≤ n := by
  unfold rank
  omega

/-- A larger share has no earlier rank: neither the product, nor its rounding, nor the step up to
the next integer goes back. -/
theorem rank_mono (n : ℕ) (le : share ≤ other) : rank share n ≤ rank other n := by
  have product : share * n ≤ other * n := mul_le_mul_of_nonneg_right le n.cast_nonneg
  have rounded := Binary64.nearest_mono product
  have up : (Binary64.nearest (share * n)).ceil ≤ (Binary64.nearest (other * n)).ceil :=
    Rat.ceil_le_iff.2 (rounded.trans (Rat.ceil_le_iff.1 le_rfl))
  unfold rank
  omega

theorem median_le_ninetyNinth : median ≤ ninetyNinth := Binary64.nearest_mono (by norm_num)

theorem latencies_foldl (hits : List Hit) (t : Tally) :
    (hits.foldl record t).latencies = (hits.map Hit.latency).reverse ++ t.latencies := by
  induction hits generalizing t with
  | nil => rfl
  | cons h hits ih => rw [List.foldl_cons, ih, List.map_cons, List.reverse_cons,
      List.append_assoc, record, List.singleton_append]

theorem perm_latencies_ofHits (hits : List Hit) :
    (ofHits hits).latencies.Perm (hits.map Hit.latency) := by
  rw [ofHits, latencies_foldl, empty, List.append_nil]
  exact List.reverse_perm _

theorem perm_sorted (t : Tally) : t.sorted.Perm t.latencies := List.mergeSort_perm _ _

theorem length_sorted (t : Tally) : t.sorted.length = t.requests := t.perm_sorted.length_eq

theorem pairwise_sorted (t : Tally) : t.sorted.Pairwise (· ≤ ·) := by
  have ascending : t.sorted.Pairwise fun a b => decide (a.nanos ≤ b.nanos) = true := by
    refine List.pairwise_mergeSort (fun a b c ab bc => ?_) (fun a b => ?_) t.latencies
    · rw [decide_eq_true_iff] at ab bc ⊢
      exact Nat.le_trans ab bc
    · rw [Bool.or_eq_true, decide_eq_true_iff, decide_eq_true_iff]
      exact Nat.le_total a.nanos b.nanos
  exact ascending.imp of_decide_eq_true

/-- The latency at a rank, counted from the shortest one. -/
def latencyAt (t : Tally) (r : ℕ) : Span := (t.sorted[r - 1]?).getD Span.zero

theorem percentile_eq_latencyAt (t : Tally) (share : ℚ) :
    t.percentile share = t.latencyAt (rank share t.requests) := rfl

theorem atRank_latencyAt (t : Tally) (first : 1 ≤ r) (last : r ≤ t.requests) :
    AtRank t.latencies r (t.latencyAt r) := by
  obtain ⟨i, rfl⟩ : ∃ i, r = i + 1 := ⟨r - 1, by omega⟩
  have inside : i < t.sorted.length := by rw [length_sorted]; omega
  have found : t.latencyAt (i + 1) = t.sorted[i] := by
    rw [latencyAt, Nat.add_sub_cancel, List.getElem?_eq_getElem inside, Option.getD_some]
  rw [found]
  exact (AtRank.of_pairwise t.pairwise_sorted inside).perm t.perm_sorted

theorem atRank_percentile (some : 0 < t.requests) (share : ℚ) :
    AtRank t.latencies (rank share t.requests) (t.percentile share) := by
  have bounds := rank_bounds share some
  rw [percentile_eq_latencyAt]
  exact t.atRank_latencyAt bounds.1 bounds.2

theorem getElem?_sorted_rank (some : 0 < t.requests) (share : ℚ) :
    t.sorted[rank share t.requests - 1]? = .some (t.percentile share) := by
  have bounds := rank_bounds share some
  have inside : rank share t.requests - 1 < t.sorted.length := by
    rw [length_sorted]
    omega
  rw [percentile, List.getElem?_eq_getElem inside, Option.getD_some]

theorem percentile_of_none (none : t.requests = 0) (share : ℚ) : t.percentile share = .zero := by
  have empty : t.sorted = [] := List.length_eq_zero_iff.1 (t.length_sorted.trans none)
  rw [percentile, empty, List.getElem?_nil, Option.getD_none]

theorem percentile_le_of_rank_le (le : rank share t.requests ≤ rank other t.requests) :
    t.percentile share ≤ t.percentile other := by
  rcases Nat.eq_zero_or_pos t.requests with none | some
  · rw [percentile_of_none none, percentile_of_none none]
    exact Nat.le_refl 0
  · exact (atRank_percentile some share).le (atRank_percentile some other) le
      (rank_bounds share some).2

theorem percentile_congr {s : Tally} (same : s.latencies.Perm t.latencies) (share : ℚ) :
    s.percentile share = t.percentile share := by
  have counts : s.requests = t.requests := same.length_eq
  rcases Nat.eq_zero_or_pos t.requests with none | some
  · rw [percentile_of_none none, percentile_of_none (counts.trans none)]
  · have moved := (atRank_percentile (counts ▸ some) share).perm same
    rw [counts] at moved
    exact moved.unique (atRank_percentile some share) (rank_bounds share some).2

end Tally

/-- The middle latency of a report is not above the one that all but a hundredth reach. -/
theorem Conclusion.p50_le_p99 {p : Plan} {report : Report} (h : Conclusion p report) :
    report.p50 ≤ report.p99 := by
  have measured (t : Tally) : t.percentile Tally.median ≤ t.percentile Tally.ninetyNinth :=
    Tally.percentile_le_of_rank_le (Tally.rank_mono _ Tally.median_le_ninetyNinth)
  cases h with
  | addressMissing | overAtStart | brokeDown => exact Nat.le_refl 0
  | cutShort | complete => exact measured _

/-- Every percentile of recorded hits is the latency at its rank, which is one of the ranks that
there are, and so is what stands at any other rank. It depends on the latencies alone, whatever
their order and whatever else is said of the hits; it does not fall when the rank rises, and the
rank does not fall when the share rises. So the two latencies of a report are in order, on whichever
way out the run was left, and with or without a clock. Without a hit all percentiles are zero. -/
theorem percentiles_are_order_statistics :
    (∀ (share : ℚ) (n : ℕ),
        Tally.rank share n = max 1 (min n (Binary64.nearest (share * n)).ceil.toNat)) ∧
      (∀ (hits : List Hit) (share : ℚ), hits ≠ [] →
        1 ≤ Tally.rank share hits.length ∧ Tally.rank share hits.length ≤ hits.length ∧
          AtRank (hits.map Hit.latency) (Tally.rank share hits.length)
            ((Tally.ofHits hits).percentile share) ∧
          (Tally.ofHits hits).sorted[Tally.rank share hits.length - 1]? =
            some ((Tally.ofHits hits).percentile share)) ∧
      (∀ (hits : List Hit) (r : ℕ), 1 ≤ r → r ≤ hits.length →
        AtRank (hits.map Hit.latency) r ((Tally.ofHits hits).latencyAt r)) ∧
      (∀ (hits others : List Hit) (share : ℚ),
        (hits.map Hit.latency).Perm (others.map Hit.latency) →
        (Tally.ofHits hits).percentile share = (Tally.ofHits others).percentile share) ∧
      (∀ (hits : List Hit) (share other : ℚ),
        Tally.rank share hits.length ≤ Tally.rank other hits.length →
        (Tally.ofHits hits).percentile share ≤ (Tally.ofHits hits).percentile other) ∧
      (∀ (n : ℕ) (share other : ℚ), share ≤ other → Tally.rank share n ≤ Tally.rank other n) ∧
      (∀ share, (Tally.ofHits []).percentile share = .zero) ∧
      (∀ (p : Plan) (α : Type) (w : Watch) (report : Report),
        Execution.Reachable p (⟨w, .ended report⟩ : Execution α) → report.p50 ≤ report.p99) ∧
      ∀ p limits target trial, Trial.MayBring p limits target trial →
        trial.report.p50 ≤ trial.report.p99 := by
  have count := Tally.requests_ofHits
  refine ⟨fun share n => rfl, fun hits share some => ?_, fun hits r first last => ?_,
    fun hits others share same => ?_, fun hits share other le => ?_,
    fun n share other le => Tally.rank_mono n le, fun share => Tally.percentile_of_none rfl share,
    fun p α w report reached => (Execution.Reachable.concluding reached).p50_le_p99,
    fun p limits target trial brought => brought.conclusion.p50_le_p99⟩
  · have positive : 0 < (Tally.ofHits hits).requests := count hits ▸ List.length_pos_iff.2 some
    have stands := Tally.atRank_percentile positive share
    have bounds := Tally.rank_bounds share positive
    rw [← count hits]
    exact ⟨bounds.1, bounds.2, stands.perm (Tally.perm_latencies_ofHits hits),
      Tally.getElem?_sorted_rank positive share⟩
  · exact (Tally.atRank_latencyAt _ first (count hits ▸ last)).perm
      (Tally.perm_latencies_ofHits hits)
  · exact Tally.percentile_congr (((Tally.perm_latencies_ofHits hits).trans same).trans
      (Tally.perm_latencies_ofHits others).symm) share
  · rw [← count hits] at le
    exact Tally.percentile_le_of_rank_le le

namespace Uneven

/-- Two latencies are the same, and two of the hits are failures. -/
def hits : List Hit :=
  [⟨.ofMillis 9, some 200, none⟩, ⟨.ofMillis 5, some 503, none⟩, ⟨.ofMillis 5, some 204, none⟩,
    ⟨.ofMillis 3, none, some "connection refused"⟩]

/-- The same latencies in another order, all of them of successes. -/
def shuffled : List Hit :=
  [3, 5, 9, 5].map fun n => ⟨.ofMillis n, some 200, none⟩

/-- Of four hits the median is the second one and the ninety-ninth hundredth the last one. -/
theorem percentiles_of_four :
    hits ≠ [] ∧ (hits.map Hit.latency).Perm (shuffled.map Hit.latency) ∧
      (Tally.ofHits hits).percentile Tally.median = .ofMillis 5 ∧
      (Tally.ofHits shuffled).percentile Tally.ninetyNinth = .ofMillis 9 ∧
      (Tally.ofHits hits).percentile Tally.median ≤
        (Tally.ofHits hits).percentile Tally.ninetyNinth := by
  obtain ⟨-, statistic, -, permuted, ordered, -⟩ := percentiles_are_order_statistics
  have some : hits ≠ [] := List.cons_ne_nil _ _
  have same : (hits.map Hit.latency).Perm (shuffled.map Hit.latency) := by decide
  have second : Tally.rank Tally.median hits.length = 2 := by decide +kernel
  have last : Tally.rank Tally.ninetyNinth hits.length = 4 := by decide +kernel
  have five : AtRank (hits.map Hit.latency) 2 (.ofMillis 5) := ⟨by decide, by decide, by decide⟩
  have nine : AtRank (hits.map Hit.latency) 4 (.ofMillis 9) := ⟨by decide, by decide, by decide⟩
  obtain ⟨-, -, median, -⟩ := statistic hits Tally.median some
  obtain ⟨-, -, ninetyNinth, -⟩ := statistic hits Tally.ninetyNinth some
  rw [second] at median
  rw [last] at ninetyNinth
  refine ⟨some, same, median.unique five (by decide), ?_,
    ordered hits _ _ (by rw [second, last]; decide)⟩
  rw [← permuted hits shuffled _ same]
  exact ninetyNinth.unique nine (by decide)

end Uneven
end WarmupGate.Warmup
