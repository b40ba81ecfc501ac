/-
What a run that makes a report leaves behind.

A run reads the settings, the criteria and the input, and makes the report of them. If one of these
cannot be had, or the report cannot be put where it belongs, the run fails; it has then printed
nothing but its progress, and every file is as it was. Otherwise the report is printed, or it is in
the one file that was written, as JSON or as a workbook that shows it.

* `ReportRequest.Makes`: the report that a request asks for.
* `Outcome.Fails`: a run that leaves nothing behind.
* `ReportRequest.run_cases`: the ends of a run, with the reason of a failure.
* `Outcome.Leaves`: what is known of a run by its exit code.
* `run_leaves`: it holds of every run, whatever the files are.
-/
import Screening.Proofs.Contents
import Screening.Proofs.Stored
import Screening.Run

namespace Screening

/-! ### Reports in files -/

namespace Report

variable {report : Report} {disk disk' : Disk} {format : Format} {p : Path}

/-- A report is saved by writing what a file of it holds. -/
lemma save_eq_ok_iff :
    report.save disk format p = .ok disk' ↔
      ∃ content, report.content format = .ok content ∧ disk.write p content = .ok disk' := by
  cases hcontent : report.content format with
  | error e => simp [save, hcontent, bind, Except.bind]
  | ok content =>
    cases hwrite : disk.write p content <;>
      simp [save, hcontent, hwrite, bind, Except.bind, Except.mapError]

/-- A report that has a content can be saved exactly where a file can be written. -/
lemma exists_save_iff :
    (∃ disk', report.save disk format p = .ok disk') ↔
      (∃ content, report.content format = .ok content) ∧ ∃ place, disk.Writable p place := by
  constructor
  · rintro ⟨disk', hsave⟩
    obtain ⟨content, hcontent, hwrite⟩ := save_eq_ok_iff.1 hsave
    obtain ⟨place, hplace, -⟩ := Disk.exists_writable hwrite
    exact ⟨⟨content, hcontent⟩, place, hplace⟩
  · rintro ⟨⟨content, hcontent⟩, place, hplace⟩
    exact ⟨_, save_eq_ok_iff.2 ⟨content, hcontent, hplace.write_eq content⟩⟩

end Report

/-- The report of a workbook in a file is the one of the rows of its first sheet. -/
lemma Disk.report_eq_ok_iff {disk : Disk} {p : Path} {criteria : Criteria} {report : Report} :
    disk.report p criteria = .ok report ↔
      ∃ sheet, disk.firstRows p = .ok sheet ∧
        Report.assemble sheet.rows criteria = .ok report := by
  rw [Disk.report]
  cases hrows : disk.firstRows p with
  | error e => simp [bind, Except.bind]
  | ok sheet =>
    cases hassemble : Report.assemble sheet.rows criteria <;>
      simp [bind, Except.bind, Except.mapError, hassemble]

/-! ### Requests -/

namespace ReportRequest

variable (request : ReportRequest)

/-- A request for JSON that names no path for it. -/
def IsPrinted : Prop :=
  request.json = true ∧ request.output = none

/-- The path of the report: the one that is named, or one beside the input. -/
def path : Path :=
  request.output.getD (request.input.beside request.format)

/-- The criteria of a run: those of its settings or of a file in their place, with its entries. -/
def ScreensUnder (disk : Disk) (file : Path) (criteria : Criteria) : Prop :=
  ∃ settings, Settings.load disk file = .ok settings ∧
    settings.resolve disk request.config request.keywords request.codes = .ok criteria

/-- The report that a request asks for: of the first sheet of the input, under the criteria of the
run. -/
def Makes (disk : Disk) (file : Path) (report : Report) : Prop :=
  ∃ criteria sheet, request.ScreensUnder disk file criteria ∧
    disk.firstRows request.input = .ok sheet ∧
    Report.assemble sheet.rows criteria = .ok report

variable {request}

/-- A report has a content in the form that is asked for if that is JSON or the report fits. -/
lemma exists_content_iff {report : Report} :
    (∃ content, report.content request.format = .ok content) ↔
      request.json = true ∨ report.Fits := by
  cases hjson : request.json with
  | true => simp [format, hjson, Report.content]
  | false => simp [format, hjson, Report.exists_content_workbook_iff]

/-- That content holds the report in the form that is asked for. -/
lemma isHeldIn_of_content {report : Report} {content : Content}
    (h : report.content request.format = .ok content) : report.IsHeldIn request.json content := by
  have hform : (request.format == .json) = request.json := by
    cases hjson : request.json <;> simp [format, hjson]
  exact hform ▸ Report.isHeldIn_of_content h

lemma destination?_of_isPrinted (h : request.IsPrinted) : request.destination? = none := by
  obtain ⟨hjson, houtput⟩ := h
  simp [destination?, format, hjson, houtput]

lemma destination?_of_not_isPrinted (h : ¬request.IsPrinted) :
    request.destination? = some request.path := by
  rw [IsPrinted, not_and] at h
  cases houtput : request.output with
  | some p => simp [destination?, path, houtput]
  | none =>
    have hjson : request.json = false := by
      rw [← Bool.not_eq_true]
      exact fun hjson => h hjson houtput
    simp [destination?, path, houtput, format, hjson]

end ReportRequest

/-! ### The ends of a run -/

/-- A run that failed: it has printed nothing but its progress, and every file is as it was. -/
structure Outcome.Fails (outcome : Outcome) (disk : Disk) : Prop where
  code : outcome.code ≠ 0
  stdout : outcome.stdout = ""
  disk : outcome.disk = disk

/-- A failure leaves nothing behind, whatever it was met in. -/
lemma Outcome.fails_failed (disk : Disk) (progress : String) (context : Option String) (e : Error) :
    (Outcome.failed disk progress context e).Fails disk := by
  cases e <;> exact ⟨by simp [failed], rfl, rfl⟩

/-- A run that made a report: it was printed, or it was written to its path. -/
def Outcome.Delivers (outcome : Outcome) (disk : Disk) (request : ReportRequest)
    (report : Report) : Prop :=
  outcome.code = 0 ∧
    ((request.IsPrinted ∧ outcome.stdout = report.toJson ++ "\n" ∧ outcome.disk = disk) ∨
      (¬request.IsPrinted ∧ outcome.stdout = "" ∧
        report.save disk request.format request.path = .ok outcome.disk))

namespace ReportRequest

variable {request : ReportRequest} {disk : Disk} {file : Path} {report : Report}

/-- A report that was made is delivered, unless it cannot be saved. -/
lemma runUnder_cases {criteria : Criteria}
    (hreport : disk.report request.input criteria = .ok report) :
    (request.runUnder criteria disk).Delivers disk request report ∨
      ¬request.IsPrinted ∧ (∀ disk', report.save disk request.format request.path ≠ .ok disk') ∧
        (request.runUnder criteria disk).Fails disk := by
  rw [runUnder, hreport]
  by_cases hprinted : request.IsPrinted
  · rw [destination?_of_isPrinted hprinted]
    exact .inl ⟨rfl, .inl ⟨hprinted, by simp [textLine], rfl⟩⟩
  rw [destination?_of_not_isPrinted hprinted]
  dsimp only
  cases hsave : report.save disk request.format request.path with
  | error e => exact .inr ⟨hprinted, nofun, Outcome.fails_failed _ _ _ _⟩
  | ok disk' => exact .inl ⟨rfl, .inr ⟨hprinted, rfl, hsave⟩⟩

/-- With criteria to screen under a run makes its report under them. -/
lemma run_of_screensUnder {criteria : Criteria} (h : request.ScreensUnder disk file criteria) :
    (Command.process request).run disk file = request.runUnder criteria disk := by
  obtain ⟨settings, hload, hresolve⟩ := h
  rw [Command.run, hload]
  dsimp only
  rw [run, hresolve]

/-- Without criteria to screen under a run fails. -/
lemma fails_of_not_screensUnder (h : ∀ criteria, ¬request.ScreensUnder disk file criteria) :
    ((Command.process request).run disk file).Fails disk := by
  rw [Command.run]
  cases hload : Settings.load disk file with
  | error e => exact Outcome.fails_failed _ _ _ _
  | ok settings =>
    dsimp only
    rw [run]
    cases hresolve : settings.resolve disk request.config request.keywords request.codes with
    | error e => exact Outcome.fails_failed _ _ _ _
    | ok criteria => exact absurd ⟨settings, hload, hresolve⟩ (h criteria)

/-- There are no two criteria of a run. -/
lemma ScreensUnder.unique {criteria criteria' : Criteria}
    (h : request.ScreensUnder disk file criteria) (h' : request.ScreensUnder disk file criteria') :
    criteria = criteria' := by
  obtain ⟨settings, hload, hresolve⟩ := h
  obtain ⟨settings', hload', hresolve'⟩ := h'
  obtain rfl : settings = settings' := Except.ok.inj (hload.symm.trans hload')
  exact Except.ok.inj (hresolve.symm.trans hresolve')

/-- What is made under the criteria of a run is the report of its input. -/
lemma makes_iff {criteria : Criteria} (h : request.ScreensUnder disk file criteria) :
    request.Makes disk file report ↔ disk.report request.input criteria = .ok report := by
  rw [Disk.report_eq_ok_iff]
  constructor
  · rintro ⟨criteria', sheet, h', hsheet⟩
    obtain rfl := h.unique h'
    exact ⟨sheet, hsheet⟩
  · rintro ⟨sheet, hsheet⟩
    exact ⟨criteria, sheet, h, hsheet⟩

/-- **The ends of a run.** A run delivers the report that was asked for; or it fails, and then no
report could be made, or the one that was made could not be saved. -/
lemma run_cases (request : ReportRequest) (disk : Disk) (file : Path) :
    (∃ report, request.Makes disk file report ∧
        ((Command.process request).run disk file).Delivers disk request report) ∨
      ((Command.process request).run disk file).Fails disk ∧
        ∀ report, request.Makes disk file report → ¬request.IsPrinted ∧
          ∀ disk', report.save disk request.format request.path ≠ .ok disk' := by
  by_cases hcriteria : ∃ criteria, request.ScreensUnder disk file criteria
  · obtain ⟨criteria, hunder⟩ := hcriteria
    rw [run_of_screensUnder hunder]
    cases hreport : disk.report request.input criteria with
    | error e =>
      refine .inr ⟨?_, fun report hmakes => ?_⟩
      · rw [runUnder, hreport]
        exact Outcome.fails_failed _ _ _ _
      · rw [makes_iff hunder, hreport] at hmakes
        cases hmakes
    | ok report =>
      rcases runUnder_cases hreport with hdelivers | ⟨hprinted, hsave, hfails⟩
      · exact .inl ⟨report, (makes_iff hunder).2 hreport, hdelivers⟩
      · refine .inr ⟨hfails, fun report' hmakes => ?_⟩
        rw [makes_iff hunder, hreport] at hmakes
        cases hmakes
        exact ⟨hprinted, hsave⟩
  · rw [not_exists] at hcriteria
    refine .inr ⟨fails_of_not_screensUnder hcriteria, ?_⟩
    rintro report ⟨criteria, -, hunder, -⟩
    exact absurd hunder (hcriteria criteria)

end ReportRequest

/-! ### What is left -/

/-- Settings that no written file takes the place of are loaded as before. -/
lemma Settings.load_of_wroteOnly {disk disk' : Disk} {p file : Path} {content : Content}
    (h : disk.WroteOnly disk' p content) (hne : disk'.place file ≠ disk'.place p) :
    load disk' file = load disk file := by
  have hfind := h.paths file hne
  cases hnode : disk.find file with
  | ok node =>
    have hnode' := (hfind node).2 hnode
    simp only [load, Disk.contains, Disk.readText, Disk.read, hnode, hnode']
  | error e =>
    cases hnode' : disk'.find file with
    | ok node =>
      have hfound := (hfind node).1 hnode'
      rw [hnode] at hfound
      cases hfound
    | error e' => simp [load, Disk.contains, hnode, hnode', Except.isOk, Except.toBool]

/-- What is known of a run that was asked for a report, with the settings in a file. -/
structure Outcome.Leaves (outcome : Outcome) (request : ReportRequest) (disk : Disk)
    (file : Path) : Prop where
  /-- A run fails exactly if the report cannot be made or, unless it is only printed, does not fit
  into a workbook that is asked for or cannot be written to its path. -/
  succeeds : outcome.code = 0 ↔
    ∃ report, request.Makes disk file report ∧
      (request.IsPrinted ∨
        (request.json = true ∨ report.Fits) ∧ ∃ place, disk.Writable request.path place)
  /-- A run that fails prints no report and changes no file. -/
  failed : outcome.code ≠ 0 → outcome.stdout = "" ∧ outcome.disk = disk
  /-- A report that is printed is printed as JSON, and no file is changed. -/
  printed : outcome.code = 0 → request.IsPrinted →
    ∃ report, request.Makes disk file report ∧ outcome.stdout = report.toJson ++ "\n" ∧
      outcome.disk = disk
  /-- Any other report is in the one file that is written, in the form that is asked for. -/
  written : outcome.code = 0 → ¬request.IsPrinted →
    outcome.stdout = "" ∧
      ∃ report content, request.Makes disk file report ∧
        report.IsHeldIn request.json content ∧
        disk.WroteOnly outcome.disk request.path content
  /-- Unless it is the file of the settings, these are as before. -/
  settings : outcome.disk.place file ≠ outcome.disk.place request.path →
    Settings.load outcome.disk file = Settings.load disk file

/-- A run that delivers a report leaves it where it belongs. -/
lemma Outcome.Delivers.leaves {outcome : Outcome} {request : ReportRequest} {disk : Disk}
    {file : Path} {report : Report} (h : outcome.Delivers disk request report)
    (hmakes : request.Makes disk file report) : outcome.Leaves request disk file := by
  obtain ⟨hcode, ⟨hprinted, hstdout, hdisk⟩ | ⟨hprinted, hstdout, hsave⟩⟩ := h
  · refine ⟨iff_of_true hcode ⟨report, hmakes, .inl hprinted⟩, fun h => absurd hcode h,
      fun _ _ => ⟨report, hmakes, hstdout, hdisk⟩, fun _ h => absurd hprinted h, fun _ => ?_⟩
    rw [hdisk]
  · obtain ⟨hexists, hplace⟩ := Report.exists_save_iff.1 ⟨_, hsave⟩
    obtain ⟨content, hcontent, hwrite⟩ := Report.save_eq_ok_iff.1 hsave
    have hheld := ReportRequest.isHeldIn_of_content hcontent
    have honly := Disk.wroteOnly_write hwrite
    exact ⟨iff_of_true hcode
        ⟨report, hmakes, .inr ⟨ReportRequest.exists_content_iff.1 hexists, hplace⟩⟩,
      fun h => absurd hcode h, fun _ h => absurd h hprinted,
      fun _ _ => ⟨hstdout, report, content, hmakes, hheld, honly⟩,
      Settings.load_of_wroteOnly honly⟩

/-- A run that could not deliver a report leaves nothing. -/
lemma Outcome.Fails.leaves {outcome : Outcome} {request : ReportRequest} {disk : Disk} {file : Path}
    (h : outcome.Fails disk)
    (hnone : ∀ report, request.Makes disk file report → ¬request.IsPrinted ∧
      ∀ disk', report.save disk request.format request.path ≠ .ok disk') :
    outcome.Leaves request disk file := by
  refine ⟨iff_of_false h.code ?_, fun _ => ⟨h.stdout, h.disk⟩, fun hcode => absurd hcode h.code,
    fun hcode => absurd hcode h.code, fun _ => ?_⟩
  · rintro ⟨report, hmakes, hend⟩
    obtain ⟨hprinted, hsave⟩ := hnone report hmakes
    obtain ⟨hform, hplace⟩ := hend.resolve_left hprinted
    obtain ⟨disk', hdisk'⟩ := Report.exists_save_iff.2
      ⟨ReportRequest.exists_content_iff.2 hform, hplace⟩
    exact hsave disk' hdisk'
  · rw [h.disk]

/-- **What a run leaves.** A line that asks for a report leaves the report, printed as JSON or in the
one file that was written, or it fails and leaves nothing; whatever the files are. -/
theorem run_leaves {arguments : List String} {verbosity : ℕ} {request : ReportRequest}
    (hline : Invocation.ofArguments arguments = .ok ⟨verbosity, .process request⟩)
    (disk : Disk) (home : Path) :
    (run arguments disk home).Leaves request disk (settingsFile home) := by
  have hrun : run arguments disk home = (Command.process request).run disk (settingsFile home) := by
    rw [run, hline]
  rw [hrun]
  rcases request.run_cases disk (settingsFile home) with
    ⟨report, hmakes, hdelivers⟩ | ⟨hfails, hnone⟩
  · exact hdelivers.leaves hmakes
  · exact hfails.leaves hnone

/-! ### A run -/

/-- A directory with a workbook of one row. -/
def inputDirectory : Disk where
  nodes :=
    [([Utf8.ofString "d", Utf8.ofString "in.xlsx"],
        .file (.workbook ⟨[.ofCells "In" [(.ofIndices 0 8, .text "Acme")]]⟩)),
      ([Utf8.ofString "d"], .directory)]
  current := [Utf8.ofString "d"]

/-- What a line without options asks for. -/
def plainRequest : ReportRequest where
  input := .ofString "in.xlsx"
  output := none
  config := none
  keywords := []
  codes := []
  json := false

/-- A report without a path of its own is written beside its input. -/
theorem run_leaves_beside :
    Invocation.ofArguments ["process", "in.xlsx"] = .ok ⟨0, .process plainRequest⟩ ∧
      (run ["process", "in.xlsx"] inputDirectory (.ofString "/d")).Leaves plainRequest
        inputDirectory (settingsFile (.ofString "/d")) ∧
      (run ["process", "in.xlsx"] inputDirectory (.ofString "/d")).code = 0 ∧
      plainRequest.path = .ofString "in_processed.xlsx" := by
  have hline : Invocation.ofArguments ["process", "in.xlsx"] = .ok ⟨0, .process plainRequest⟩ := by
    decide
  exact ⟨hline, run_leaves hline inputDirectory (.ofString "/d"), by decide +kernel,
    by decide +kernel⟩

end Screening
