/-
The summary of a report.

A summary gives the number of lines of each status, and the number of blank rows. Every status is
listed once and is told by its label, so the numbers can be counted in the table and in the rows; as
a line has one status, they add up to the lines, and with the blank rows to all rows. Statuses
without lines are not printed, which leaves no row out.

* `Status.sum_countP`: the lines of each status are all lines.
* `Report.count_eq_countP_table`, `Report.Covers.count_eq`: the number of a status, counted in the
  table and in the rows.
* `Report.Summary.text_eq`: a summary is printed by the statuses with lines.
* `Report.summary_accounts`: the summary of a report accounts for its rows.
-/
import Mathlib.Algebra.BigOperators.Group.Finset.Basic
import Mathlib.Algebra.GroupWithZero.Nat
import Screening.Proofs.Assembly
import Screening.Proofs.Results
import Screening.Run

namespace Screening

/-! ### Statuses -/

namespace Status

/-- No status is listed twice. -/
lemma nodup_all : all.Nodup := by
  simp [all]

/-- A status is told by its label. -/
lemma label_injective : Function.Injective label := by
  intro s t h
  cases s <;> cases t <;> first | rfl | simp [label] at h

/-- Every line has one of the statuses, each of which is listed once. -/
lemma sum_countP (lines : List Line) :
    (all.map fun status => lines.countP (·.status = status)).sum = lines.length := by
  have hcount (status : Status) : lines.countP (·.status = status) =
      Multiset.count status (lines.map Line.status : Multiset Status) := by
    rw [Multiset.coe_count, List.count_eq_countP, List.countP_map]
    rfl
  calc (all.map fun status => lines.countP (·.status = status)).sum
      = ∑ status ∈ all.toFinset, Multiset.count status (lines.map Line.status : Multiset Status) := by
        rw [List.sum_toFinset _ nodup_all]
        simp only [hcount]
    _ = Multiset.card (lines.map Line.status : Multiset Status) :=
        Multiset.sum_count_eq_card fun status _ => List.mem_toFinset.2 (mem_all status)
    _ = lines.length := by
        rw [Multiset.coe_card, List.length_map]

end Status

namespace Report

variable {report : Report} {rows : List Row} {criteria : Criteria}

/-! ### The number of a status -/

/-- The lines of a status are those that begin with its label. -/
lemma count_eq_countP_table (report : Report) (status : Status) :
    report.count status = report.table.tail.countP (·.head? = some status.label) := by
  rw [table, List.tail_cons, List.countP_map, count]
  refine List.countP_congr fun line _ => ?_
  simp [Line.cells, Status.label_injective.eq_iff]

/-- The lines of a status are those of the rows that have it. -/
lemma Covers.count_eq (h : report.Covers rows criteria) (status : Status) :
    report.count status =
      rows.countP fun row => (Line.ofRow? row criteria).map Line.status = some status := by
  rw [Report.count, h.lines, List.countP_filterMap]
  refine List.countP_congr fun row _ => ?_
  cases Line.ofRow? row criteria <;> simp

/-- The other rows are those without a line. -/
lemma Covers.skipped_eq (h : report.Covers rows criteria) :
    report.skipped = rows.countP fun row => Line.ofRow? row criteria = none := by
  have hcount := h.count
  rw [h.lines, List.length_filterMap_eq_countP,
    List.length_eq_countP_add_countP fun row => (Line.ofRow? row criteria).isSome] at hcount
  simpa using Nat.add_left_cancel hcount

/-- What a summary says of a status is its number of lines. -/
lemma count_summary (report : Report) (status : Status) :
    report.summary.count status = report.count status := by
  have hfind : Status.all.find? (fun s => s = status) = some status := by
    cases status <;> rfl
  rw [Summary.count, summary, List.find?_map]
  simp only [Function.comp_def, hfind, Option.map_some, Option.getD_some]

/-! ### The printed summary -/

/-- The numbers of a summary that are printed, each with its status: those that are not zero. -/
def Summary.printed (summary : Summary) : List (Status × ℕ) :=
  summary.counts.filter (·.2 ≠ 0)

/-- The line of a status with its number, the label padded to a column of twelve characters. -/
def numberLine (status : Status) (n : ℕ) : String :=
  textLine ["  ", String.ofList (status.label.toList.rightpad 12 ' '), " ", toString n]

/-- What is not printed has no text. -/
lemma join_countText (counts : List (Status × ℕ)) :
    String.join (counts.map fun (status, n) => countText status n) =
      String.join ((counts.filter (·.2 ≠ 0)).map fun (status, n) => numberLine status n) := by
  induction counts with
  | nil => rfl
  | cons entry counts ih =>
    obtain ⟨status, n⟩ := entry
    by_cases hn : n = 0
    · rw [List.map_cons, String.join_cons, ih, List.filter_cons_of_neg (by simp [hn])]
      simp [countText, hn]
    · rw [List.map_cons, String.join_cons, ih, List.filter_cons_of_pos (by simp [hn]), List.map_cons,
        String.join_cons]
      simp [countText, numberLine, hn]

/-- A summary is printed as a heading, a line for each status with lines, and one for the blank rows
if there are any. -/
lemma Summary.text_eq (summary : Summary) :
    summary.text = textLine ["\n集計:"] ++
      String.join (summary.printed.map fun (status, n) => numberLine status n) ++
      if summary.skipped = 0 then ""
      else textLine ["  (空行 ", toString summary.skipped, "行をスキップ)"] := by
  rw [text, join_countText, printed]

/-- The numbers that are not printed add nothing. -/
lemma Summary.sum_printed (summary : Summary) :
    (summary.printed.map Prod.snd).sum = (summary.counts.map Prod.snd).sum := by
  rw [printed]
  induction summary.counts with
  | nil => rfl
  | cons entry counts ih =>
    obtain ⟨status, n⟩ := entry
    by_cases hn : n = 0 <;> simp_all

/-! ### What a summary accounts for -/

/-- A summary accounts for the rows of a report: the statuses are listed in their order, each once;
the number of each is found again in the table and in the rows; the numbers make up the lines, and
with the blank rows all rows; and so do those that are printed. -/
structure Summary.Accounts (summary : Summary) (report : Report) (rows : List Row)
    (criteria : Criteria) : Prop where
  statuses : summary.counts.map Prod.fst =
    [.highRisk, .approved, .zkwd, .zemb, .zkwdAndZemb, .noAddress, .spl]
  once : ∀ status, (summary.counts.map Prod.fst).count status = 1
  number : ∀ status n, (status, n) ∈ summary.counts →
    n = summary.count status ∧
    n = report.table.tail.countP (·.head? = some status.label) ∧
    n = rows.countP fun row => (Line.ofRow? row criteria).map Line.status = some status
  blank : summary.skipped = rows.countP fun row => Line.ofRow? row criteria = none
  sum : (summary.counts.map Prod.snd).sum = summary.total
  lines : summary.total = report.lines.length
  whole : summary.total + summary.skipped = rows.length
  text : summary.text = textLine ["\n集計:"] ++
    String.join (summary.printed.map fun (status, n) => numberLine status n) ++
    if summary.skipped = 0 then ""
    else textLine ["  (空行 ", toString summary.skipped, "行をスキップ)"]
  printed : (summary.printed.map Prod.snd).sum + summary.skipped = rows.length

/-- The statuses of a summary are all statuses. -/
lemma map_fst_counts_summary (report : Report) :
    report.summary.counts.map Prod.fst = Status.all := by
  rw [summary, List.map_map]
  exact List.map_id _

/-- The numbers of a summary make up the lines. -/
lemma sum_counts_summary (report : Report) :
    (report.summary.counts.map Prod.snd).sum = report.lines.length := by
  rw [summary, List.map_map]
  exact Status.sum_countP report.lines

/-- **The summary accounts for every row.** Each row of a sheet is counted once in the summary of
its report, with its status or as a blank row. -/
theorem summary_accounts (h : assemble rows criteria = .ok report) :
    report.summary.Accounts report rows criteria := by
  have hcovers := covers_of_assemble h
  refine
    { statuses := map_fst_counts_summary report
      once := fun status => ?_
      number := fun status n hmem => ?_
      blank := hcovers.skipped_eq
      sum := sum_counts_summary report
      lines := rfl
      whole := hcovers.count
      text := report.summary.text_eq
      printed := ?_ }
  · rw [map_fst_counts_summary]
    exact List.count_eq_one_of_mem Status.nodup_all (Status.mem_all status)
  · obtain ⟨status, -, hentry⟩ := List.mem_map.1 hmem
    cases hentry
    exact ⟨(count_summary report status).symm, count_eq_countP_table report status,
      hcovers.count_eq status⟩
  · rw [Summary.sum_printed, sum_counts_summary]
    exact hcovers.count

/-- A row with nothing but a name. -/
def namedRow (name : String) : Row :=
  List.replicate Column.customer .empty ++ [.text name]

/-- The summary of a sheet with a name that has a keyword, two other names, and a blank row. -/
theorem summary_accounts_risky :
    ∃ report, assemble [namedRow "Risky Co", namedRow "Acme", [], namedRow "Beta"]
        (Criteria.empty.withKeywords ["risk"]) = .ok report ∧
      report.summary = ⟨3, 1, [(.highRisk, 1), (.approved, 0), (.zkwd, 0), (.zemb, 0),
        (.zkwdAndZemb, 0), (.noAddress, 2), (.spl, 0)]⟩ ∧
      report.summary.Accounts report [namedRow "Risky Co", namedRow "Acme", [], namedRow "Beta"]
        (Criteria.empty.withKeywords ["risk"]) := by
  have hsummary : (assemble [namedRow "Risky Co", namedRow "Acme", [], namedRow "Beta"]
      (Criteria.empty.withKeywords ["risk"])).map summary =
      .ok ⟨3, 1, [(.highRisk, 1), (.approved, 0), (.zkwd, 0), (.zemb, 0), (.zkwdAndZemb, 0),
        (.noAddress, 2), (.spl, 0)]⟩ := by decide +kernel
  obtain ⟨report, hreport, hnumbers⟩ := exists_of_map_eq_ok hsummary
  exact ⟨report, hreport, hnumbers, summary_accounts hreport⟩

end Report

end Screening
