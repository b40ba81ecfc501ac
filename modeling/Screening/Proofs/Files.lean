/-
What a written file holds, and what is left as it was.

Directories are never lost: a file is put where no directory is, and what is made along a path are
directories. So a path that leads through directories keeps leading to the same place, and what was
written there is read there.

* `Disk.GrowsTo`: every directory of a disk is one of another.
* `Disk.Writable`: a path leads to a place where a file can be written.
* `Disk.makeDirectories_again`: directories that were made need not be made again.
* `Disk.read_write`: a written file holds what was written.
* `Disk.write_again`: a file that could be written can be written again.
* `Disk.wroteOnly_write`: nothing but the written file is changed.
-/
import Mathlib.Data.List.Infix
import Mathlib.Tactic.SplitIfs
import Screening.Files.Disk

namespace Screening

/-! ### The last segment of a path -/

namespace Path

/-- Segments behind others have a slash before them. -/
lemma unsplit_append {before after : List Segment} (hbefore : before ≠ []) (hafter : after ≠ []) :
    unsplit (before ++ after) = unsplit before ++ slash :: unsplit after := by
  induction before with
  | nil => exact absurd rfl hbefore
  | cons segment before ih =>
    cases before with
    | nil => exact unsplit_cons hafter
    | cons next before =>
      rw [List.cons_append, unsplit_cons (by simp), unsplit_cons (by simp), ih (by simp),
        List.append_assoc, List.cons_append]

/-- A path whose last segment is empty is empty or ends in a slash. -/
lemma getLast_of_split_eq {bs : List UInt8} {before : List Segment} (h : split bs = before ++ [[]])
    (hbs : bs ≠ []) : bs.getLast? = some slash := by
  have hunsplit : bs = unsplit (before ++ [[]]) := by rw [← h, unsplit_split]
  have hbefore : before ≠ [] := by
    rintro rfl
    exact hbs hunsplit
  rw [hunsplit, unsplit_append hbefore (by simp)]
  exact List.getLast?_concat

end Path

namespace Disk

/-- A path that does not end in a slash consists of the segments before its last one, and that. -/
lemma segments_eq_target {p : Path} (hbytes : p.bytes ≠ []) (hslash : (target p).2.2 = false) :
    p.segments = (target p).1 ++ [(target p).2.1] := by
  obtain ⟨before, last, hsegments⟩ : ∃ before last, p.segments = before ++ [last] :=
    ⟨_, _, (List.dropLast_concat_getLast (Path.split_ne_nil p.bytes)).symm⟩
  have hlast : last ≠ [] := by
    rintro rfl
    have hend := Path.getLast_of_split_eq hsegments hbytes
    rw [target] at hslash
    split at hslash
    · exact absurd hend (of_decide_eq_false hslash)
    · cases hslash
  have hreverse : p.segments.reverse.dropWhile (· = []) = last :: before.reverse := by
    rw [hsegments, List.reverse_append, List.reverse_singleton, List.singleton_append,
      List.dropWhile_cons_of_neg (by rwa [decide_eq_true_eq])]
  rw [target, hreverse, hsegments]
  show before ++ [last] = before.reverse.reverse ++ [last]
  rw [List.reverse_reverse]

/-! ### Steps along a path -/

/-- Every directory of a disk is one of another, and relative paths start from the same place. -/
structure GrowsTo (disk disk' : Disk) : Prop where
  current : disk'.current = disk.current
  directory : ∀ {place}, disk.node? place = some .directory → disk'.node? place = some .directory

lemma GrowsTo.refl (disk : Disk) : disk.GrowsTo disk :=
  ⟨rfl, fun h => h⟩

lemma GrowsTo.trans {a b c : Disk} (hab : a.GrowsTo b) (hbc : b.GrowsTo c) : a.GrowsTo c :=
  ⟨hbc.current.trans hab.current, fun h => hbc.directory (hab.directory h)⟩

variable {disk disk' : Disk} {place : Place}

/-- Only a place below the root can be anything but a directory. -/
lemma ne_nil_of_node? (h : disk.node? place ≠ some .directory) : place ≠ [] := by
  rintro rfl
  exact h (if_pos rfl)

/-- What is put where no directory is leaves all directories. -/
lemma growsTo_set (node : Node) (h : disk.node? place ≠ some .directory) :
    disk.GrowsTo (disk.set place node) := by
  refine ⟨rfl, fun {other} hother => ?_⟩
  rw [node?_set (ne_nil_of_node? h), if_neg ?_]
  · exact hother
  · rintro rfl
    exact h hother

/-- A step is made from a directory only. -/
lemma directory_of_step {segment : Path.Segment} {next : Place}
    (h : disk.step place segment = .ok next) : disk.node? place = some .directory := by
  rw [step] at h
  split at h
  next => cases h
  next => cases h
  next hd => exact hd

/-- A step leads to the same place where there are more directories. -/
lemma GrowsTo.step {segment : Path.Segment} {next : Place} (hg : disk.GrowsTo disk')
    (h : disk.step place segment = .ok next) : disk'.step place segment = .ok next := by
  have hd := directory_of_step h
  rw [Disk.step, hd] at h
  rw [Disk.step, hg.directory hd]
  exact h

/-- A path is followed by its first segment, and then by the others. -/
lemma follow_cons_eq_ok_iff {segment : Path.Segment} {segments : List Path.Segment} {last : Place} :
    disk.follow (segment :: segments) place = .ok last ↔
      ∃ next, disk.step place segment = .ok next ∧ disk.follow segments next = .ok last := by
  rw [follow, List.foldlM_cons]
  cases hs : disk.step place segment with
  | error e =>
    constructor
    · intro h
      cases h
    · rintro ⟨next, hnext, -⟩
      cases hnext
  | ok next =>
    refine ⟨fun h => ⟨next, rfl, h⟩, ?_⟩
    rintro ⟨next', hnext, h⟩
    cases hnext
    exact h

lemma follow_append_eq_ok_iff {before after : List Path.Segment} {last : Place} :
    disk.follow (before ++ after) place = .ok last ↔
      ∃ next, disk.follow before place = .ok next ∧ disk.follow after next = .ok last := by
  induction before generalizing place with
  | nil =>
    refine ⟨fun h => ⟨place, rfl, h⟩, ?_⟩
    rintro ⟨next, hnext, h⟩
    cases hnext
    exact h
  | cons segment before ih =>
    rw [List.cons_append, follow_cons_eq_ok_iff]
    refine ⟨?_, ?_⟩
    · rintro ⟨next, hs, h⟩
      obtain ⟨mid, hmid, hlast⟩ := ih.1 h
      exact ⟨mid, follow_cons_eq_ok_iff.2 ⟨next, hs, hmid⟩, hlast⟩
    · rintro ⟨mid, hmid, hlast⟩
      obtain ⟨next, hs, h⟩ := follow_cons_eq_ok_iff.1 hmid
      exact ⟨next, hs, ih.2 ⟨mid, h, hlast⟩⟩

/-- A path leads to the same place where there are more directories. -/
lemma GrowsTo.follow {segments : List Path.Segment} {last : Place} (hg : disk.GrowsTo disk')
    (h : disk.follow segments place = .ok last) : disk'.follow segments place = .ok last := by
  induction segments generalizing place with
  | nil => exact h
  | cons segment segments ih =>
    obtain ⟨next, hs, hrest⟩ := follow_cons_eq_ok_iff.1 h
    exact follow_cons_eq_ok_iff.2 ⟨next, hg.step hs, ih hrest⟩

lemma GrowsTo.start (hg : disk.GrowsTo disk') (p : Path) : disk'.start p = disk.start p := by
  rw [Disk.start, Disk.start, hg.current]

/-! ### Making directories -/

/-- A directory made where nothing is leaves all directories. -/
lemma growsTo_made (disk : Disk) (next : Place) :
    disk.GrowsTo (if disk.node? next = none then disk.set next .directory else disk) := by
  split
  next hnone =>
    refine growsTo_set _ ?_
    rw [hnone]
    exact nofun
  next => exact .refl _

/-- Something is at a place once a directory was made where nothing is. -/
lemma node?_made_ne_none (disk : Disk) (next : Place) :
    (if disk.node? next = none then disk.set next .directory else disk).node? next ≠ none := by
  split
  next hnone =>
    have hne : disk.node? next ≠ some .directory := by
      rw [hnone]
      exact nofun
    rw [node?_set (ne_nil_of_node? hne), if_pos rfl]
    exact nofun
  next hsome => exact hsome

/-- What is made along a path leaves all directories. -/
lemma growsTo_makeAlong {segments : List Path.Segment}
    (h : disk.makeAlong place segments = .ok disk') : disk.GrowsTo disk' := by
  induction segments generalizing disk place with
  | nil =>
    rw [makeAlong] at h
    split at h
    next => cases h
    next => cases h; exact .refl _
  | cons segment segments ih =>
    rw [makeAlong] at h
    split at h
    next => cases h
    next next hs => exact (growsTo_made disk next).trans (ih h)

/-- A path ends at a directory if there is something and no file. -/
lemma directory_of_makeAlong_nil (hplace : disk.node? place ≠ none)
    (h : disk.makeAlong place [] = .ok disk') : disk'.node? place = some .directory := by
  rw [makeAlong] at h
  split at h
  next => cases h
  next hfile =>
    cases h
    cases hn : disk.node? place with
    | none => exact absurd hn hplace
    | some node =>
      cases node with
      | directory => rfl
      | file content => exact absurd hn (hfile content)

/-- Where directories were made a path leads to a directory. -/
lemma exists_follow_of_makeAlong {segments : List Path.Segment} (hplace : disk.node? place ≠ none)
    (h : disk.makeAlong place segments = .ok disk') :
    ∃ last, disk'.follow segments place = .ok last ∧ disk'.node? last = some .directory := by
  induction segments generalizing disk place with
  | nil => exact ⟨place, rfl, directory_of_makeAlong_nil hplace h⟩
  | cons segment segments ih =>
    have hg := growsTo_makeAlong h
    rw [makeAlong] at h
    split at h
    next => cases h
    next next hs =>
      obtain ⟨last, hfollow, hlast⟩ := ih (node?_made_ne_none disk next) h
      exact ⟨last, follow_cons_eq_ok_iff.2 ⟨next, hg.step hs, hfollow⟩, hlast⟩

/-- Nothing is made along a path that leads to a directory. -/
lemma makeAlong_eq_self {segments : List Path.Segment} {last : Place}
    (h : disk.follow segments place = .ok last) (hlast : disk.node? last = some .directory) :
    disk.makeAlong place segments = .ok disk := by
  induction segments generalizing place with
  | nil =>
    cases h
    rw [makeAlong, hlast]
  | cons segment segments ih =>
    obtain ⟨next, hs, hrest⟩ := follow_cons_eq_ok_iff.1 h
    have hnext : disk.node? next ≠ none := by
      cases segments with
      | nil =>
        cases hrest
        rw [hlast]
        exact nofun
      | cons segment' segments =>
        obtain ⟨_, hs', -⟩ := follow_cons_eq_ok_iff.1 hrest
        rw [directory_of_step hs']
        exact nofun
    rw [makeAlong, hs]
    dsimp only
    rw [if_neg hnext]
    exact ih hrest

/-- Making directories leaves all directories. -/
lemma growsTo_makeDirectories {p : Path} (h : disk.makeDirectories p = .ok disk') :
    disk.GrowsTo disk' :=
  growsTo_makeAlong h

/-- **Directories are made once.** Where they were made, and wherever all directories are kept, they
need not be made again. -/
theorem makeDirectories_again {later : Disk} {p : Path} (h : disk.makeDirectories p = .ok disk')
    (hg : disk'.GrowsTo later) : later.makeDirectories p = .ok later := by
  have hgrow := growsTo_makeDirectories h
  obtain ⟨segment, segments, hsegments⟩ := List.exists_cons_of_ne_nil (Path.split_ne_nil p.bytes)
  have hstart : disk.node? (disk.start p) ≠ none := by
    rw [makeDirectories, Path.segments, hsegments, makeAlong] at h
    split at h
    next => cases h
    next hs =>
      rw [directory_of_step hs]
      exact nofun
  obtain ⟨last, hfollow, hlast⟩ := exists_follow_of_makeAlong hstart h
  rw [makeDirectories, hg.start, hgrow.start]
  exact makeAlong_eq_self (hg.follow hfollow) (hg.directory hlast)

/-! ### Writing -/

/-- A path leads through directories to a place where a file can be written. -/
structure Writable (disk : Disk) (p : Path) (place : Place) : Prop where
  nonempty : p.bytes ≠ []
  unslashed : (target p).2.2 = false
  leads : ∃ directory, disk.follow (target p).1 (disk.start p) = .ok directory ∧
    disk.step directory (target p).2.1 = .ok place
  free : disk.node? place ≠ some .directory

variable {p : Path} {content : Content}

/-- Where a file can be written it is. -/
lemma Writable.write_eq (h : disk.Writable p place) (content : Content) :
    disk.write p content = .ok (disk.set place (.file content)) := by
  obtain ⟨directory, hfollow, hstep⟩ := h.leads
  have hgood : ¬((target p).2.2 = true ∨ disk.node? place = some .directory) := by
    rw [h.unslashed, not_or]
    exact ⟨Bool.false_ne_true, h.free⟩
  rw [write, if_neg h.nonempty]
  dsimp only
  rw [hfollow]
  dsimp only
  rw [hstep]
  exact if_neg hgood

/-- A file is written only where one can be, and nothing else is changed. -/
lemma exists_writable (h : disk.write p content = .ok disk') :
    ∃ place, disk.Writable p place ∧ disk' = disk.set place (.file content) := by
  rw [write] at h
  split at h
  next => cases h
  next hbytes =>
    dsimp only at h
    split at h
    next => cases h
    next directory hfollow =>
      split at h
      next => cases h
      next place hstep =>
        split at h
        next => cases h
        next hgood =>
          rw [not_or, Bool.not_eq_true] at hgood
          cases h
          exact ⟨place, ⟨hbytes, hgood.1, ⟨directory, hfollow, hstep⟩, hgood.2⟩, rfl⟩

/-- A path keeps leading to its place where there are more directories. -/
lemma Writable.leads_of_growsTo (h : disk.Writable p place) (hg : disk.GrowsTo disk') :
    ∃ directory, disk'.follow (target p).1 (disk'.start p) = .ok directory ∧
      disk'.step directory (target p).2.1 = .ok place := by
  obtain ⟨directory, hfollow, hstep⟩ := h.leads
  rw [hg.start]
  exact ⟨directory, hg.follow hfollow, hg.step hstep⟩

/-- What is written at the place is there. -/
lemma Writable.node?_set_self (h : disk.Writable p place) (content : Content) :
    (disk.set place (.file content)).node? place = some (.file content) := by
  rw [node?_set (ne_nil_of_node? h.free), if_pos rfl]

/-- Where a file was written one can be written again. -/
lemma Writable.set (h : disk.Writable p place) (content : Content) :
    (disk.set place (.file content)).Writable p place where
  nonempty := h.nonempty
  unslashed := h.unslashed
  leads := h.leads_of_growsTo (growsTo_set _ h.free)
  free := by
    rw [h.node?_set_self]
    exact nofun

/-- A written file leaves all directories. -/
lemma growsTo_write (h : disk.write p content = .ok disk') : disk.GrowsTo disk' := by
  obtain ⟨place, hw, rfl⟩ := exists_writable h
  exact growsTo_set _ hw.free

/-- A path leads to the place where it can be written. -/
lemma Writable.place_eq (h : disk.Writable p place) : disk.place p = .ok place := by
  obtain ⟨directory, hfollow, hstep⟩ := h.leads
  rw [Disk.place, if_neg h.nonempty, segments_eq_target h.nonempty h.unslashed,
    follow_append_eq_ok_iff]
  exact ⟨directory, hfollow, follow_cons_eq_ok_iff.2 ⟨place, hstep, rfl⟩⟩

/-- **A written file holds what was written.** -/
theorem read_write (h : disk.write p content = .ok disk') : disk'.read p = .ok content := by
  obtain ⟨place, hw, rfl⟩ := exists_writable h
  rw [read, find, (hw.set content).place_eq]
  dsimp only
  rw [hw.node?_set_self]
  rfl

/-- Whether a file can be written does not depend on what is written. -/
lemma write_other (h : disk.write p content = .ok disk') (other : Content) :
    ∃ disk'', disk.write p other = .ok disk'' := by
  obtain ⟨place, hw, -⟩ := exists_writable h
  exact ⟨_, hw.write_eq other⟩

/-- **A file that was written can be written again.** -/
theorem write_again (h : disk.write p content = .ok disk') (other : Content) :
    ∃ disk'', disk'.write p other = .ok disk'' := by
  obtain ⟨place, hw, rfl⟩ := exists_writable h
  exact ⟨_, (hw.set content).write_eq other⟩

/-! ### What is not written -/

/-- A path leads to the same place where there are more directories. -/
lemma GrowsTo.place_eq {q : Path} {last : Place} (hg : disk.GrowsTo disk')
    (h : disk.place q = .ok last) : disk'.place q = .ok last := by
  rw [Disk.place] at h ⊢
  split_ifs at h ⊢ with hbytes
  rw [hg.start]
  exact hg.follow h

/-- A file put where no directory is makes no directory. -/
lemma growsTo_of_set (content : Content) (h : disk.node? place ≠ some .directory) :
    (disk.set place (.file content)).GrowsTo disk := by
  refine ⟨rfl, fun {other} hother => ?_⟩
  rw [node?_set (ne_nil_of_node? h)] at hother
  split_ifs at hother
  · cases hother
  · exact hother

/-- What a path leads to is what is at its place. -/
lemma find_eq_ok_iff {q : Path} {node : Node} :
    disk.find q = .ok node ↔ ∃ last, disk.place q = .ok last ∧ disk.node? last = some node := by
  rw [find]
  cases hplace : disk.place q with
  | error e =>
    constructor
    · intro h
      cases h
    · rintro ⟨last, hlast, -⟩
      cases hlast
  | ok last =>
    cases hnode : disk.node? last <;> simp [hnode]

/-- A file that is read is what its path leads to. -/
lemma find_of_read {q : Path} (h : disk.read q = .ok content) : disk.find q = .ok (.file content) := by
  rw [read] at h
  split at h
  next => cases h
  next => cases h
  next found hfind =>
    cases h
    exact hfind

/-- A file that is read is there. -/
lemma contains_of_read {q : Path} (h : disk.read q = .ok content) : disk.contains q = true := by
  rw [contains, find_of_read h]
  rfl

/-- A file is written at a path, and nothing else is changed. -/
structure WroteOnly (disk disk' : Disk) (p : Path) (content : Content) : Prop where
  /-- The file is found at the path. -/
  holds : disk'.read p = .ok content
  /-- What is at any other place than that of the file is what was there. -/
  places : ∀ other, disk'.place p ≠ .ok other → disk'.node? other = disk.node? other
  /-- Any path that does not lead to the file leads to what it led to before. -/
  paths : ∀ q, disk'.place q ≠ disk'.place p →
    ∀ node, disk'.find q = .ok node ↔ disk.find q = .ok node

/-- **Nothing but the written file is changed.** -/
theorem wroteOnly_write (h : disk.write p content = .ok disk') :
    disk.WroteOnly disk' p content := by
  have hread := read_write h
  obtain ⟨place, hw, rfl⟩ := exists_writable h
  have hplace := (hw.set content).place_eq
  have hother : ∀ other, other ≠ place →
      (disk.set place (.file content)).node? other = disk.node? other := by
    intro other hne
    rw [node?_set (ne_nil_of_node? hw.free), if_neg hne]
  refine ⟨hread, fun other hne => hother other ?_, fun q hq node => ?_⟩
  · rintro rfl
    exact hne hplace
  rw [find_eq_ok_iff, find_eq_ok_iff]
  -- both disks have the same directories, so the path leads to the same place
  constructor
  · rintro ⟨last, hlast, hnode⟩
    have hne : last ≠ place := by
      rintro rfl
      exact hq (hlast.trans hplace.symm)
    exact ⟨last, (growsTo_of_set content hw.free).place_eq hlast, hother last hne ▸ hnode⟩
  · rintro ⟨last, hlast, hnode⟩
    have hlast' := (growsTo_set (.file content) hw.free).place_eq hlast
    have hne : last ≠ place := by
      rintro rfl
      exact hq (hlast'.trans hplace.symm)
    exact ⟨last, hlast', (hother last hne).trans hnode⟩

end Disk

end Screening
