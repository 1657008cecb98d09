import WarmupGate.Proofs.Span.Text
import WarmupGate.Proofs.Text.Cut
import WarmupGate.Proofs.Warmup.Consistency
import WarmupGate.Warmup.Executor

/-!
# A summary tells its figures

The summary of a run that has sent requests has no fixed widths: two counts, a rounded share and two
spans in whatever unit fits them. A reader that cuts it at its punctuation gets the five figures
back that it was made from, so runs with different figures never have one summary. The share is
passed over; it is rounded and tells nothing that the counts do not.
-/
namespace WarmupGate.Warmup.Report

variable {r s : Report}

/-- A report on a run that has sent requests and has come to its end. The requests are counted in a
word of 32 bits. -/
structure Ran (r : Report) : Prop where
  error : r.error = none
  some : 1 ≤ r.total
  fits : r.completed + r.failed < Word.size 32

def verdict (success : Bool) : String :=
  if success then "warmup completed" else "warmup completed with failures"

/-- What a summary says between the number of requests and the latencies. -/
def shareText (r : Report) : String :=
  "requests succeeded (" ++ Binary64.oneDecimal r.successRate ++ "%), P50"

theorem summary_eq (h : r.Ran) :
    r.summary = verdict r.success ++ (": " ++ (Text.decimal r.completed ++ ("/" ++
      (Text.decimal r.total ++ (" " ++ (r.shareText ++ ("=" ++ (r.p50.text ++
        (", P99=" ++ r.p99.text))))))))) := by
  have front : "warmup completed" ++ (if r.success then "" else " with failures") =
      verdict r.success := by
    cases r.success <;> rfl
  have share : " requests succeeded (" = " " ++ "requests succeeded (" := rfl
  have latency : "%), P50=" = "%), P50" ++ "=" := rfl
  unfold shareText
  simp only [summary, h.error, if_neg (Nat.ne_of_gt h.some), front, share, latency,
    String.append_assoc]

theorem toList_summary (h : r.Ran) :
    r.summary.toList = (verdict r.success).toList ++ ':' :: ' ' ::
      (Text.numeral r.completed ++ '/' :: (Text.numeral r.total ++ ' ' ::
        (r.shareText.toList ++ '=' :: (r.p50.chars ++ ',' ::
          ([' ', 'P', '9', '9'] ++ '=' :: r.p99.chars))))) := by
  have colon : ": ".toList = [':', ' '] := rfl
  have slash : "/".toList = ['/'] := rfl
  have blank : " ".toList = [' '] := rfl
  have equals : "=".toList = ['='] := rfl
  have comma : ", P99=".toList = [',', ' ', 'P', '9', '9', '='] := rfl
  simp only [summary_eq h, String.toList_append, colon, slash, blank, equals, comma, Text.decimal,
    Span.text, String.toList_ofList, List.cons_append, List.nil_append]

theorem not_mem_verdict (success : Bool) : ':' ∉ (verdict success).toList := by
  cases success <;> decide

theorem not_mem_shareText (r : Report) : '=' ∉ r.shareText.toList := by
  have digits (n : Nat) : '=' ∉ Text.numeral n := (Text.digits_numeral n).not_mem rfl
  have front : '=' ∉ "requests succeeded (".toList := by decide
  have point : '=' ∉ ".".toList := by decide
  have back : '=' ∉ "%), P50".toList := by decide
  unfold shareText Binary64.oneDecimal Text.decimal
  simp only [String.toList_append, String.toList_ofList, List.mem_append, digits, front, point,
    back, or_self, not_false_eq_true]

/-- What a summary tells of a run. -/
structure Figures where
  success : Bool
  completed : Nat
  failed : Nat
  p50 : Span
  p99 : Span
  deriving DecidableEq, Repr

def figures (r : Report) : Figures := ⟨r.success, r.completed, r.failed, r.p50, r.p99⟩

theorem figures_eq_iff :
    r.figures = s.figures ↔ r.success = s.success ∧ r.completed = s.completed ∧
      r.failed = s.failed ∧ r.p50 = s.p50 ∧ r.p99 = s.p99 := by
  simp only [figures, Figures.mk.injEq]

def Figures.ofChars? (s : List Char) : Option Figures :=
  let verdict := Text.cut ':' s
  let completed := Text.cut '/' (verdict.2.drop 1)
  let total := Text.cut ' ' completed.2
  let p50 := Text.cut ',' (Text.cut '=' total.2).2
  let p99 := (Text.cut '=' p50.2).2
  match Span.ofChars? p50.1, Span.ofChars? p99 with
  | some a, some b =>
    some
      { success := verdict.1 == "warmup completed".toList
        completed := Text.digitsValue completed.1
        failed := Text.digitsValue total.1 - Text.digitsValue completed.1
        p50 := a
        p99 := b }
  | _, _ => none

theorem ofChars?_summary (h : r.Ran) : Figures.ofChars? r.summary.toList = some r.figures := by
  have completed : '/' ∉ Text.numeral r.completed := (Text.digits_numeral _).not_mem rfl
  have total : ' ' ∉ Text.numeral r.total := (Text.digits_numeral _).not_mem rfl
  have p50 : ',' ∉ r.p50.chars := r.p50.not_mem_chars rfl (by decide) (by decide)
  have name : '=' ∉ [' ', 'P', '9', '9'] := by decide
  have failed : r.total - r.completed = r.failed := Nat.add_sub_cancel_left _ _
  have success : ((verdict r.success).toList == "warmup completed".toList) = r.success := by
    cases r.success <;> decide
  rw [toList_summary h]
  simp only [Figures.ofChars?, Text.cut_append (not_mem_verdict r.success), List.drop_succ_cons,
    List.drop_zero, Text.cut_append completed, Text.cut_append total,
    Text.cut_append r.not_mem_shareText, Text.cut_append p50, Text.cut_append name,
    Span.ofChars?_chars, Text.digitsValue_numeral, success, failed, figures]

theorem summary_congr (hr : r.Ran) (hs : s.Ran) (same : r.figures = s.figures) :
    r.summary = s.summary := by
  obtain ⟨success, completed, failed, p50, p99⟩ := figures_eq_iff.1 same
  have total : r.total = s.total := by rw [Report.total, Report.total, completed, failed]
  have rate : r.successRate = s.successRate := by
    rw [successRate, successRate, total, completed]
  simp only [summary, hr.error, hs.error, total, success, completed, rate, p50, p99]

/-- Whatever says something else than "completed" behind its first word is not the beginning of a
summary. -/
theorem summary_ne_append (h : r.Ran) {front : String} {x : Char}
    (eighth : front.toList[7]? = some x) (other : x ≠ 'c') (rest : String) :
    r.summary ≠ front ++ rest := by
  have completed : (verdict r.success).toList[7]? = some 'c' := by
    cases r.success <;> rfl
  rw [summary_eq h]
  exact Text.append_ne_append completed eighth other.symm _ rest

/-- The summaries of two runs are the same exactly if they agree on success, on both counts and on
both latencies, which a reader gets back from the text. No such summary begins with what is said of
a run without requests, of a run that was skipped or of a run with an error. -/
theorem summaries_tell_figures (hr : r.Ran) (hs : s.Ran) :
    (r.summary = s.summary ↔ r.success = s.success ∧ r.completed = s.completed ∧
        r.failed = s.failed ∧ r.p50 = s.p50 ∧ r.p99 = s.p99) ∧
      Figures.ofChars? r.summary.toList =
        some ⟨r.success, r.completed, r.failed, r.p50, r.p99⟩ ∧
      (∀ rest, r.summary ≠ "warmup skipped: no requests executed" ++ rest) ∧
      (∀ rest, r.summary ≠ Executor.skippedMessage ++ rest) ∧
      ∀ rest, r.summary ≠ "warmup failed: " ++ rest := by
  refine ⟨?_, ofChars?_summary hr, summary_ne_append hr (x := 's') (by decide) (by decide),
    summary_ne_append hr (x := 's') (by decide) (by decide),
    summary_ne_append hr (x := 'f') (by decide) (by decide)⟩
  rw [← figures_eq_iff]
  constructor
  · intro same
    have read := ofChars?_summary hr
    rw [same, ofChars?_summary hs] at read
    exact (Option.some.inj read).symm
  · exact summary_congr hr hs

namespace Slow

/-- One answer out of three, after a millisecond. -/
def brisk : Report :=
  { success := true, completed := 1, failed := 2, p50 := .ofMillis 1, p99 := ⟨1500000001⟩ }

def slow : Report := { brisk with p50 := .ofSeconds 1 }

/-- A millisecond and a second are told apart, and a fraction of a second is read to the last
place. -/
theorem summaries_of_slow :
    brisk.Ran ∧ slow.Ran ∧ brisk.summary ≠ slow.summary ∧
      Figures.ofChars? brisk.summary.toList = some ⟨true, 1, 2, .ofMillis 1, ⟨1500000001⟩⟩ := by
  have hb : brisk.Ran := ⟨rfl, by decide, by decide⟩
  have hs : slow.Ran := ⟨rfl, by decide, by decide⟩
  obtain ⟨same, read, -⟩ := summaries_tell_figures hb hs
  exact ⟨hb, hs, fun equal => absurd (same.1 equal).2.2.2.1 (by decide), read⟩

end Slow
end WarmupGate.Warmup.Report
