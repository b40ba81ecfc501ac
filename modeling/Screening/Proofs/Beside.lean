/-
The report beside its input.

The report goes into the parent of the input, under the stem of its name with `_processed` and an
ending behind it. That is never the name of the input: what follows a stem in a name is a dot and no
dots after that, and a stem that is no text gives way to one that is. So the report is at another
place than the input on every disk, and a run that is given no other path leaves its input alone.

* `Path.IsStem`, `Path.stem?_eq_some_iff`: the stem of a name.
* `Path.IsReportStem`, `Path.isReportStem_reportStem`: the stem that the report is named after.
* `Path.reportName_ne`: the name of the report is not that of the input.
* `Path.ReportsOn`, `Path.beside_reportsOn`: where the report of an input goes.
-/
import Mathlib.Data.List.TakeWhile
import Screening.Proofs.Delivery
import Screening.Proofs.Encoding
import Screening.Proofs.Parents

namespace Screening

namespace Path

/-! ### Stems -/

/-- A name and what stands before its last dot. A dot at its beginning does not count. -/
inductive IsStem : Segment → Segment → Prop
  | whole {name : Segment} (h : dot ∉ name.tail) : IsStem name name
  | beforeDot {stem ext : Segment} (hstem : stem ≠ []) (hext : dot ∉ ext) :
      IsStem (stem ++ dot :: ext) stem

variable {name stem : Segment}

/-- The name is divided at its last dot. -/
lemma IsStem.splitName_fst (h : IsStem name stem) : (splitName name).1 = stem := by
  cases h with
  | whole h =>
    cases name with
    | nil => rfl
    | cons b bs =>
      have hbs : bs.reverse.dropWhile (· ≠ dot) = [] := by
        rw [List.dropWhile_eq_nil_iff]
        intro x hx
        rw [decide_eq_true_eq]
        rintro rfl
        exact h (List.mem_reverse.1 hx)
      rw [splitName, List.reverse_cons, List.dropWhile_append, hbs]
      by_cases hb : b = dot
      · rw [hb]; rfl
      · simp [hb]
  | @beforeDot _ ext hstem hext =>
    have hdrop : (stem ++ dot :: ext).reverse.dropWhile (· ≠ dot) = dot :: stem.reverse := by
      rw [List.reverse_append, List.reverse_cons, List.append_assoc, List.dropWhile_append_of_pos]
      · rfl
      · intro x hx
        rw [decide_eq_true_eq]
        rintro rfl
        exact hext (List.mem_reverse.1 hx)
    obtain ⟨b, before, hreverse⟩ :=
      List.exists_cons_of_ne_nil (List.reverse_eq_nil_iff.not.2 hstem)
    rw [splitName, hdrop, hreverse]
    exact List.reverse_eq_iff.2 hreverse.symm

lemma isStem_splitName (name : Segment) : IsStem name (splitName name).1 := by
  suffices ∃ stem, IsStem name stem by
    obtain ⟨stem, h⟩ := this
    rwa [h.splitName_fst]
  by_cases hdot : dot ∈ name.tail
  · cases name with
    | nil => cases hdot
    | cons b bs =>
      obtain ⟨after, before, hreverse, hafter⟩ :=
        List.eq_append_cons_of_mem (List.mem_reverse.2 hdot)
      have hbs : bs = before.reverse ++ dot :: after.reverse := by
        rw [List.tail_cons] at hreverse
        rw [← List.reverse_reverse bs, hreverse]
        simp
      rw [hbs, ← List.cons_append]
      exact ⟨b :: before.reverse, .beforeDot (by simp) (by simpa using hafter)⟩
  · exact ⟨name, .whole hdot⟩

/-- The stem of a path is the one of its name. -/
theorem stem?_eq_some_iff {p : Path} :
    p.stem? = some stem ↔ ∃ name, p.name? = some name ∧ IsStem name stem := by
  rw [stem?, Option.map_eq_some_iff]
  constructor
  · rintro ⟨name, hname, rfl⟩
    exact ⟨name, hname, isStem_splitName name⟩
  · rintro ⟨name, hname, h⟩
    exact ⟨name, hname, h.splitName_fst⟩

/-- The stem that the report of an input is named after: its own, or `report` if it has none or that
is no text. -/
def IsReportStem (input : Path) (stem : Segment) : Prop :=
  ((∃ name, input.name? = some name ∧ IsStem name stem) ∧ ∃ s, stem = Utf8.ofString s) ∨
    ((∀ name own, input.name? = some name → IsStem name own → ∀ s, own ≠ Utf8.ofString s) ∧
      stem = Utf8.ofString "report")

lemma isReportStem_reportStem (input : Path) : input.IsReportStem input.reportStem := by
  rw [reportStem]
  cases hstem : input.stem? with
  | none =>
    refine .inr ⟨fun name own hname hown => ?_, rfl⟩
    rw [stem?_eq_some_iff.2 ⟨name, hname, hown⟩] at hstem
    cases hstem
  | some stem =>
    dsimp only
    split
    next htext => exact .inl ⟨stem?_eq_some_iff.1 hstem, Utf8.isSome_decode?_iff.1 htext⟩
    next htext =>
      refine .inr ⟨fun name own hname hown s hs => htext ?_, rfl⟩
      rw [stem?_eq_some_iff.2 ⟨name, hname, hown⟩, Option.some.injEq] at hstem
      exact hstem ▸ Utf8.isSome_decode?_iff.2 ⟨s, hs⟩

/-! ### The name of the report -/

variable {input report : Path} {format : Format}

/-- Behind the stem stand a word that does not start in a dot, the last dot and the ending. -/
lemma exists_ending_eq (format : Format) :
    ∃ ext, Utf8.ofString ("_processed." ++ format.ending) =
        Utf8.ofString "_processed" ++ dot :: ext ∧ dot ∉ ext ∧ slash ∉ ext := by
  cases format with
  | workbook => exact ⟨Utf8.ofString "xlsx", by decide, by decide, by decide⟩
  | json => exact ⟨Utf8.ofString "json", by decide, by decide, by decide⟩

/-- **The name of the report is not that of the input**, even if this ends like one. -/
theorem name?_ne_of_isReportStem (h : input.IsReportStem stem) (format : Format) :
    input.name? ≠ some (stem ++ Utf8.ofString ("_processed." ++ format.ending)) := by
  obtain ⟨ext, hending, hext, -⟩ := exists_ending_eq format
  rw [hending]
  intro hname
  rcases h with ⟨⟨name, hname', hstem⟩, -⟩ | ⟨hnone, rfl⟩
  · -- a stem is followed by nothing or by a dot
    rw [hname', Option.some.injEq] at hname
    cases hstem with
    | whole h => exact absurd (List.self_eq_append_right.1 hname) (by simp)
    | beforeDot hstem hext =>
      exact absurd (List.cons.inj (List.append_cancel_left hname)).1 (by decide)
  · -- an input of that name has a stem that is a text
    rw [← List.append_assoc] at hname
    exact hnone _ _ hname (.beforeDot (by decide) hext) "report_processed" (by decide)

/-- The stem that the report is named after has no slash in it. -/
lemma slash_notMem_of_isReportStem (h : input.IsReportStem stem) : slash ∉ stem := by
  rcases h with ⟨⟨name, hname, hstem⟩, -⟩ | ⟨-, rfl⟩
  · have hslash : slash ∉ name := by
      rw [name?] at hname
      split at hname
      next last before hbackward =>
        split_ifs at hname
        cases hname
        exact slash_notMem_of_mem_backward (by rw [hbackward]; exact List.mem_cons_self)
      next => cases hname
    cases hstem with
    | whole => exact hslash
    | beforeDot => exact fun h => hslash (List.mem_append_left _ h)
  · decide

/-- What has more in it than dots leads to something of that name. -/
lemma leads_of_mem {b : UInt8} (hmem : b ∈ name) (hb : b ≠ dot) :
    isIdle name = false ∧ name ≠ [dot, dot] := by
  rw [isIdle, Bool.or_eq_false_iff, decide_eq_false_iff_not, decide_eq_false_iff_not]
  refine ⟨⟨?_, ?_⟩, ?_⟩ <;> rintro rfl <;> simp_all

/-- The name of the report is one segment that leads to something of that name. -/
lemma isName_of_isReportStem (h : input.IsReportStem stem) (format : Format) :
    IsName (stem ++ Utf8.ofString ("_processed." ++ format.ending)) ∧
      stem ++ Utf8.ofString ("_processed." ++ format.ending) ≠ [dot, dot] := by
  obtain ⟨ext, hending, -, hslash⟩ := exists_ending_eq format
  have hword : slash ∉ Utf8.ofString "_processed" := by decide
  obtain ⟨hidle, hup⟩ : isIdle (stem ++ Utf8.ofString ("_processed." ++ format.ending)) = false ∧
      stem ++ Utf8.ofString ("_processed." ++ format.ending) ≠ [dot, dot] := by
    rw [hending]
    exact leads_of_mem (b := 0x5F)
      (List.mem_append_right _ (List.mem_append_left _ (by decide))) (by decide)
  refine ⟨⟨split_of_slash_notMem ?_, hidle⟩, hup⟩
  rw [hending]
  simp only [List.mem_append, List.mem_cons, not_or]
  exact ⟨slash_notMem_of_isReportStem h, hword, by decide, hslash⟩

/-! ### The place of the report -/

/-- The directory of the report: the parent of the input, or the current directory. -/
lemma isTrimmed_parent (input : Path) : (input.parent?.getD ⟨[dot]⟩).IsTrimmed := by
  cases hbackward : input.backward with
  | nil =>
    rw [parent?, hbackward]
    dsimp only
    split <;> rfl
  | cons last before =>
    obtain ⟨directory, hparent, -, htrimmed⟩ := exists_parent? hbackward
    rw [hparent]
    exact htrimmed

/-- The report lies in its directory. -/
lemma liesIn_beside (input : Path) (format : Format) :
    (input.beside format).LiesIn (input.parent?.getD ⟨[dot]⟩)
      (input.reportStem ++ Utf8.ofString ("_processed." ++ format.ending)) :=
  (isTrimmed_parent input).liesIn_join
    (isName_of_isReportStem (isReportStem_reportStem input) format).1

variable {disk disk' : Disk} {content : Content}

/-- The report leads to its name, in a directory. -/
lemma lead_beside (input : Path) (format : Format) (disk : Disk) :
    (input.beside format).lead (disk.start (input.beside format)) =
      (input.parent?.getD ⟨[dot]⟩).lead (disk.start (input.parent?.getD ⟨[dot]⟩)) ++
        [input.reportStem ++ Utf8.ofString ("_processed." ++ format.ending)] := by
  obtain ⟨hname, hup⟩ := isName_of_isReportStem (isReportStem_reportStem input) format
  have hlies := liesIn_beside input format
  rw [hlies.lead_eq, hlies.start_eq, Place.after_of_name hname.leads hup]

/-- On no disk is the report where the input is. -/
lemma place_beside_ne {place : Place} (h : disk.place input = .ok place) (format : Format) :
    disk.place (input.beside format) ≠ .ok place := by
  intro h'
  have hplaces := (Disk.eq_lead_of_place h).symm.trans (Disk.eq_lead_of_place h')
  rw [lead_beside] at hplaces
  cases hbackward : input.backward with
  | cons last before =>
    obtain ⟨directory, hparent, hlies, -⟩ := exists_parent? hbackward
    rw [hparent, Option.getD_some, hlies.lead_eq, hlies.start_eq] at hplaces
    by_cases hup : last = [dot, dot]
    · -- two dots lead to a shorter place
      have hlength := congrArg List.length hplaces
      rw [Place.after, hlies.isIdle_eq, hup] at hlength
      simp at hlength
    · rw [Place.after_of_name hlies.isIdle_eq hup] at hplaces
      refine name?_ne_of_isReportStem (isReportStem_reportStem input) format ?_
      rw [hlies.name?_eq, if_neg hup, List.singleton_inj.1 (List.append_cancel_left hplaces)]
  | nil =>
    -- the input leads to where it starts from, which is not below the current place
    have hdirectory : (input.parent?.getD ⟨[dot]⟩).lead
        (disk.start (input.parent?.getD ⟨[dot]⟩)) = disk.current := by
      rw [parent?, hbackward]
      dsimp only
      split <;> rfl
    rw [hdirectory, lead_eq, hbackward, List.foldr_nil, Disk.start] at hplaces
    split_ifs at hplaces
    · exact absurd hplaces.symm (List.append_ne_nil_of_right_ne_nil _ (List.cons_ne_nil _ _))
    · exact absurd (List.self_eq_append_right.1 hplaces) (List.cons_ne_nil _ _)

/-- The report of an input, as it is put beside it. -/
structure ReportsOn (report input : Path) (format : Format) : Prop where
  /-- It lies directly in the parent of the input, or in the current directory. -/
  parent : report.parent? = some (input.parent?.getD (.ofString "."))
  /-- It is named after the stem of the input, with an ending for each form. -/
  name : ∃ stem, input.IsReportStem stem ∧
    (format = .workbook → report.name? = some (stem ++ Utf8.ofString "_processed.xlsx")) ∧
    (format = .json → report.name? = some (stem ++ Utf8.ofString "_processed.json"))
  /-- The input has another name. -/
  otherName : report.name? ≠ input.name?
  /-- On no disk do the two lead to the same place. -/
  otherPlace : ∀ (disk : Disk) (place : Place), disk.place input = .ok place →
    disk.place report ≠ .ok place

/-- The report is put beside its input. -/
lemma reportsOn_beside (input : Path) (format : Format) :
    (input.beside format).ReportsOn input format := by
  have hstem := isReportStem_reportStem input
  have hlies := liesIn_beside input format
  have hname := hlies.name?_eq
  rw [if_neg (isName_of_isReportStem hstem format).2] at hname
  refine ⟨hlies.parent?_eq (isTrimmed_parent input), ⟨_, hstem, ?_, ?_⟩, ?_,
    fun disk place h => place_beside_ne h format⟩
  · rintro rfl
    exact hname
  · rintro rfl
    exact hname
  · rw [hname]
    exact (name?_ne_of_isReportStem hstem format).symm

/-- Whatever is written as the report, the input holds what it held. -/
lemma ReportsOn.read_eq {written : Content} (h : report.ReportsOn input format)
    (hread : disk.read input = .ok content) (hwrite : disk.write report written = .ok disk') :
    disk'.read input = .ok content := by
  obtain ⟨place, hplace, -⟩ := Disk.exists_place_of_read hread
  have hplace' := (Disk.growsTo_write hwrite).place_eq hplace
  have hne : disk'.place input ≠ disk'.place report := by
    rw [hplace']
    exact (h.otherPlace disk' place hplace').symm
  have hfind := ((Disk.wroteOnly_write hwrite).paths input hne _).2 (Disk.find_of_read hread)
  rw [Disk.read, hfind]

end Path

/-- A run that is given no path for its report leaves its input alone. -/
lemma ReportRequest.read_input_run {request : ReportRequest} (houtput : request.output = none)
    {disk : Disk} {file : Path} {content : Content}
    (hread : disk.read request.input = .ok content) :
    ((Command.process request).run disk file).disk.read request.input = .ok content := by
  rcases request.run_cases disk file with ⟨report, -, hdelivers⟩ | ⟨hfails, -⟩
  · obtain ⟨-, ⟨-, -, hdisk⟩ | ⟨-, -, hsave⟩⟩ := hdelivers
    · rwa [hdisk]
    · obtain ⟨written, -, hwrite⟩ := Report.save_eq_ok_iff.1 hsave
      rw [path, houtput, Option.getD_none] at hwrite
      exact (Path.reportsOn_beside request.input request.format).read_eq hread hwrite
  · rwa [hfails.disk]

/-- **The report beside its input.** Whatever the path of the input is, the report goes into its
parent under the name of its stem, and never where the input is; a run that is given no other path
for its report leaves the input as it was. -/
theorem Path.beside_keeps_input (input : Path) (format : Format) :
    (input.beside format).ReportsOn input format ∧
      ∀ request : ReportRequest, request.input = input → request.output = none →
        ∀ (disk : Disk) (file : Path) (content : Content), disk.read input = .ok content →
          ((Command.process request).run disk file).disk.read input = .ok content := by
  refine ⟨reportsOn_beside input format, ?_⟩
  rintro request rfl houtput disk file content hread
  exact request.read_input_run houtput hread

/-- A directory with a workbook that has the name of a report. -/
def processedDirectory : Disk :=
  inputDirectory.set [Utf8.ofString "d", Utf8.ofString "in_processed.xlsx"]
    (.file (.workbook ⟨[.ofCells "In" [(.ofIndices 0 8, .text "Acme")]]⟩))

/-- What a line without options asks for of that workbook. -/
def processedRequest : ReportRequest :=
  { plainRequest with input := .ofString "in_processed.xlsx" }

/-- The report of what has the name of a report goes beside it, and leaves it as it was. -/
theorem Path.beside_keeps_input_of_processed :
    processedRequest.input.beside .workbook = .ofString "in_processed_processed.xlsx" ∧
      (processedRequest.input.beside .workbook).ReportsOn processedRequest.input .workbook ∧
      ((Command.process processedRequest).run processedDirectory (.ofString "/d/c")).code = 0 ∧
      ((Command.process processedRequest).run processedDirectory (.ofString "/d/c")).disk.read
          processedRequest.input =
        .ok (.workbook ⟨[.ofCells "In" [(.ofIndices 0 8, .text "Acme")]]⟩) := by
  obtain ⟨hreports, hkeeps⟩ := beside_keeps_input processedRequest.input .workbook
  exact ⟨by decide +kernel, hreports, by decide +kernel,
    hkeeps processedRequest rfl rfl processedDirectory _ _ (by decide +kernel)⟩

end Screening
