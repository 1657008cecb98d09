import Mathlib
import WarmupGate.Telemetry.Ledger

/-!
# What the ledger adds up to

Booking a sample changes the amounts of the series that the sample names and leaves all others as
they were. So every amount of the ledger is the sum of what the single samples add to it, in
whatever order they were booked. The durations that a series collects are only counted here; their
values are not looked at.
-/
namespace WarmupGate.Telemetry

namespace Amount

def counted : Option Amount → Nat
  | some (.counter n) => n
  | _ => 0

def level : Option Amount → Int
  | some (.gauge n) => n
  | _ => 0

def observed : Option Amount → Nat
  | some (.histogram xs) => xs.length
  | _ => 0

@[simp] theorem counted_count (n : Nat) (a : Option Amount) :
    counted (some (count n a)) = counted a + n := by
  rcases a with _ | _ | _ | _ <;> simp [counted, count]

@[simp] theorem level_move (n : Int) (a : Option Amount) :
    level (some (move n a)) = level a + n := by
  rcases a with _ | _ | _ | _ <;> simp [level, move]

@[simp] theorem observed_observe (x : Rat) (a : Option Amount) :
    observed (some (observe x a)) = observed a + 1 := by
  rcases a with _ | _ | _ | _ <;> simp [observed, observe]

end Amount

namespace Ledger

variable {key other : SeriesKey} {change : Option Amount → Amount}

theorem lookup_cons_eq_ite (s : SeriesKey × Amount) (series : List (SeriesKey × Amount)) :
    (s :: series).lookup key = if key = s.1 then some s.2 else series.lookup key := by
  by_cases h : key = s.1
  · rw [List.lookup_cons, beq_iff_eq.2 h, if_pos h]
  · rw [List.lookup_cons, beq_eq_false_iff_ne.2 h, if_neg h]

theorem lookup_of_not_any {series : List (SeriesKey × Amount)}
    (h : series.any (·.1 == key) = false) : series.lookup key = none := by
  induction series with
  | nil => rfl
  | cons s series ih =>
    rw [List.any_cons, Bool.or_eq_false_iff] at h
    rw [lookup_cons_eq_ite, if_neg (Ne.symm (beq_eq_false_iff_ne.1 h.1)), ih h.2]

theorem exists_lookup_of_any {series : List (SeriesKey × Amount)}
    (h : series.any (·.1 == key) = true) : ∃ a, series.lookup key = some a := by
  induction series with
  | nil => cases h
  | cons s series ih =>
    rw [lookup_cons_eq_ite]
    by_cases here : key = s.1
    · exact ⟨s.2, if_pos here⟩
    · rw [List.any_cons, beq_eq_false_iff_ne.2 (Ne.symm here), Bool.false_or] at h
      rw [if_neg here]
      exact ih h

theorem lookup_append_singleton (series : List (SeriesKey × Amount)) (a : Amount) :
    (series ++ [(key, a)]).lookup other =
      (series.lookup other).or (if other = key then some a else none) := by
  induction series with
  | nil => rw [List.nil_append, lookup_cons_eq_ite]; rfl
  | cons s series ih =>
    rw [List.cons_append, lookup_cons_eq_ite, lookup_cons_eq_ite, ih]
    split <;> rfl

theorem lookup_map_update (series : List (SeriesKey × Amount)) :
    (series.map fun s => if s.1 = key then (s.1, change (some s.2)) else s).lookup other =
      if other = key then (series.lookup key).map (fun a => change (some a))
      else series.lookup other := by
  induction series with
  | nil => simp
  | cons s series ih =>
    rw [List.map_cons, lookup_cons_eq_ite, lookup_cons_eq_ite, lookup_cons_eq_ite, ih]
    by_cases same : other = key <;> by_cases here : s.1 = key <;>
      simp_all [eq_comm]

theorem get?_update_self (l : Ledger) (key : SeriesKey) (change : Option Amount → Amount) :
    (l.update key change).get? key = some (change (l.get? key)) := by
  unfold update get?
  by_cases h : l.series.any (·.1 == key) = true
  · obtain ⟨a, found⟩ := exists_lookup_of_any h
    rw [if_pos h]
    dsimp only
    rw [lookup_map_update, if_pos rfl, found, Option.map_some]
  · have missing := lookup_of_not_any (Bool.eq_false_iff.2 h)
    rw [if_neg h]
    dsimp only
    rw [lookup_append_singleton, if_pos rfl, missing, Option.none_or]

theorem get?_update_of_ne (l : Ledger) (change : Option Amount → Amount) (h : other ≠ key) :
    (l.update key change).get? other = l.get? other := by
  unfold update get?
  split
  · dsimp only
    rw [lookup_map_update, if_neg h]
  · dsimp only
    rw [lookup_append_singleton, if_neg h, Option.or_none]

theorem get?_update (l : Ledger) (key other : SeriesKey) (change : Option Amount → Amount) :
    (l.update key change).get? other =
      if other = key then some (change (l.get? other)) else l.get? other := by
  by_cases h : other = key
  · rw [if_pos h, h, get?_update_self]
  · rw [if_neg h, get?_update_of_ne l change h]

end Ledger

namespace Ledger

/-- How many pods of a namespace on a node are waiting for their warmup. -/
def pending (l : Ledger) (ns node : String) : Int :=
  Amount.level (l.get? ⟨Series.pending, [("namespace", ns), ("node", node)]⟩)

/-- How many requests were sent by the runs of a namespace. -/
def requests (l : Ledger) (ns : String) : Nat :=
  Amount.counted (l.get? ⟨Series.requests, [("namespace", ns)]⟩)

/-- How many runs of a namespace had a result. -/
def runs (l : Ledger) (ns : String) (success : Bool) : Nat :=
  Amount.counted
    (l.get?
      ⟨Series.runs, [("namespace", ns), ("result", if success then "success" else "failure")]⟩)

/-- How many lengths of runs were collected in a namespace. -/
def durations (l : Ledger) (ns : String) : Nat :=
  Amount.observed (l.get? ⟨Series.runSeconds, [("namespace", ns)]⟩)

/-- How many latencies were collected in a namespace. -/
def latencies (l : Ledger) (ns : String) : Nat :=
  Amount.observed (l.get? ⟨Series.latencySeconds, [("namespace", ns)]⟩)

end Ledger

namespace Sample

/-- What a sample adds to each of the readings. -/
def pending (ns node : String) (s : Sample) : Int :=
  if s = .pendingUp ns node then 1 else if s = .pendingDown ns node then -1 else 0

def requests (ns : String) : Sample → Nat
  | .runRequests a n => if a = ns then n else 0
  | _ => 0

def runs (ns : String) (success : Bool) : Sample → Nat
  | .runResult a b _ => if a = ns ∧ b = success then 1 else 0
  | _ => 0

def durations (ns : String) : Sample → Nat
  | .runResult a _ _ => if a = ns then 1 else 0
  | _ => 0

def latencies (ns : String) : Sample → Nat
  | .requestLatency a _ => if a = ns then 1 else 0
  | _ => 0

end Sample

namespace Ledger

/-- Booking a sample adds its weights to the readings, and nothing to those of other labels. -/
theorem readings_book (l : Ledger) (s : Sample) (ns : String) :
    (∀ node, (l.book s).pending ns node = l.pending ns node + s.pending ns node) ∧
      (l.book s).requests ns = l.requests ns + s.requests ns ∧
      (∀ success, (l.book s).runs ns success = l.runs ns success + s.runs ns success) ∧
      (l.book s).durations ns = l.durations ns + s.durations ns ∧
      (l.book s).latencies ns = l.latencies ns + s.latencies ns := by
  cases s
  all_goals
    simp only [book, pending, requests, runs, durations, latencies, get?_update,
      SeriesKey.mk.injEq, Sample.pending, Sample.requests, Sample.runs, Sample.durations,
      Sample.latencies]
    -- the names tell the series apart, and what is left are the labels
    simp [Series.pending, Series.runs, Series.runSeconds, Series.requests, Series.latencySeconds]
  case requestLatency => split_ifs <;> simp_all
  case pendingUp => intro node; split_ifs <;> simp_all
  case pendingDown => intro node; split_ifs <;> simp_all
  case runResult => refine ⟨⟨?_, ?_⟩, ?_⟩ <;> split_ifs <;> simp_all
  case runRequests => split_ifs <;> simp_all

variable (ns node : String)

/-- A reading to which every sample adds its own weight is the sum of the weights. -/
theorem reading_ofSamples {M : Type} [AddCommMonoid M] (reading : Ledger → M) {weight : Sample → M}
    (start : reading empty = 0) (law : ∀ l s, reading (l.book s) = reading l + weight s)
    (samples : List Sample) : reading (ofSamples samples) = (samples.map weight).sum := by
  have go : ∀ l, reading (samples.foldl book l) = reading l + (samples.map weight).sum := by
    induction samples with
    | nil => simp
    | cons s samples ih =>
      intro l
      rw [List.foldl_cons, ih, law, List.map_cons, List.sum_cons, add_assoc]
  rw [ofSamples, go, start, zero_add]

theorem requests_ofSamples (samples : List Sample) :
    (ofSamples samples).requests ns = (samples.map (Sample.requests ns)).sum :=
  reading_ofSamples (requests · ns) rfl (fun l s => (readings_book l s ns).2.1) samples

theorem runs_ofSamples (success : Bool) (samples : List Sample) :
    (ofSamples samples).runs ns success = (samples.map (Sample.runs ns success)).sum :=
  reading_ofSamples (runs · ns success) (by cases success <;> rfl)
    (fun l s => (readings_book l s ns).2.2.1 success) samples

theorem durations_ofSamples (samples : List Sample) :
    (ofSamples samples).durations ns = (samples.map (Sample.durations ns)).sum :=
  reading_ofSamples (durations · ns) rfl (fun l s => (readings_book l s ns).2.2.2.1) samples

theorem latencies_ofSamples (samples : List Sample) :
    (ofSamples samples).latencies ns = (samples.map (Sample.latencies ns)).sum :=
  reading_ofSamples (latencies · ns) rfl (fun l s => (readings_book l s ns).2.2.2.2) samples

/-- The gauge of a namespace and a node shows how often it went up less how often it went down. -/
theorem pending_ofSamples (samples : List Sample) :
    (ofSamples samples).pending ns node =
      samples.count (.pendingUp ns node) - samples.count (.pendingDown ns node) := by
  rw [reading_ofSamples (pending · ns node) rfl (fun l s => (readings_book l s ns).1 node)]
  induction samples with
  | nil => rfl
  | cons s samples ih =>
    rw [List.map_cons, List.sum_cons, ih, List.count_cons, List.count_cons, Sample.pending]
    by_cases up : s = .pendingUp ns node
    · simp only [up, beq_self_eq_true, if_true, beq_iff_eq, reduceCtorEq, if_false]
      push_cast
      ring
    · by_cases down : s = .pendingDown ns node
      · simp only [down, beq_self_eq_true, if_true, beq_iff_eq, reduceCtorEq, if_false]
        push_cast
        ring
      · simp [up, down]

end Ledger
end WarmupGate.Telemetry
