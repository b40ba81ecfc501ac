/-
The directory of a named file.

A path that consists of another one, a slash and a name lies in that other one, if this ends in a name
itself; if it does not, idle segments at its end are no part of the parent. Where there is a file at
such a path its directory is there as well and need not be made, and the file can be written.

* `Path.split_append_slash`: the segments around a slash.
* `Path.base_cases`, `Path.base_append_drop`: what a path starts from.
* `Path.IsBelow`, `Path.parent?_of_isBelow`: the parent of a named path.
* `Path.EndsInName.isBelow_join`: joined names.
* `Disk.exists_directory_of_read`: the directory of a file that is there.
* `Disk.writable_of_read`: a file that is there can be written.
-/
import Screening.Proofs.Files

namespace Screening

namespace Path

/-! ### Segments around a slash -/

/-- The segments around a slash are those before it and those behind it. -/
lemma split_append_slash (before after : List UInt8) :
    split (before ++ slash :: after) = split before ++ split after := by
  induction before with
  | nil => simp [split]
  | cons b before ih =>
    rw [List.cons_append, split, split, ih]
    split
    · rfl
    · obtain ⟨segment, segments, hsegments⟩ := List.exists_cons_of_ne_nil (split_ne_nil before)
      rw [hsegments]
      rfl

/-- A segment between slashes that leads somewhere. -/
structure IsName (segment : Segment) : Prop where
  whole : split segment = [segment]
  leads : isIdle segment = false

lemma IsName.ne_nil {segment : Segment} (h : IsName segment) : segment ≠ [] := by
  rintro rfl
  exact absurd h.leads (by decide)

/-- A name does not end in a slash. -/
lemma IsName.getLast?_ne {segment : Segment} (h : IsName segment) :
    segment.getLast? ≠ some slash := by
  intro hlast
  obtain ⟨front, rfl⟩ := List.getLast?_eq_some_iff.1 hlast
  have hsplit : [front ++ [slash]] = split front ++ split [] :=
    h.whole.symm.trans (split_append_slash front [])
  exact split_ne_nil front (by simpa [split] using congrArg List.length hsplit)

/-- A path that consists of another one, a slash and a name. -/
structure IsBelow (p directory : Path) (name : Segment) : Prop where
  bytes : p.bytes = directory.bytes ++ slash :: name
  name : IsName name

variable {p directory outer : Path} {name inner : Segment}

lemma IsBelow.segments_eq (h : p.IsBelow directory name) :
    p.segments = directory.segments ++ [name] := by
  rw [segments, h.bytes, split_append_slash, h.name.whole, segments]

/-! ### The base of a path -/

/-- What a path can start from. -/
lemma base_cases (p : Path) :
    (p.base = [slash] ∧ ∃ rest, p.bytes = slash :: rest) ∨
      (p.base = [dot] ∧ (p.bytes = [dot] ∨ ∃ rest, p.bytes = dot :: slash :: rest)) ∨
      (p.base = [] ∧ p.isAbsolute = false) := by
  rw [base, segments, isAbsolute]
  cases hbytes : p.bytes with
  | nil => exact .inr (.inr (by decide))
  | cons b bs =>
    rw [split]
    by_cases hb : b = slash
    · rw [if_pos hb, hb]
      exact .inl (by simp [split_ne_nil])
    · obtain ⟨first, rest, hsplit⟩ := List.exists_cons_of_ne_nil (split_ne_nil bs)
      have hbs : bs = unsplit (first :: rest) := by rw [← hsplit, unsplit_split]
      rw [if_neg hb, hsplit]
      dsimp only
      by_cases hdot : b :: first = [dot]
      · cases hdot
        refine .inr (.inl ⟨if_pos rfl, ?_⟩)
        cases rest with
        | nil => exact .inl (by rw [hbs]; rfl)
        | cons next rest => exact .inr ⟨unsplit (next :: rest), by rw [hbs]; rfl⟩
      · exact .inr (.inr (by simp [hdot, hb]))

/-- A path is its base and what is behind it. -/
lemma base_append_drop (p : Path) : p.base ++ p.bytes.drop p.base.length = p.bytes := by
  rcases base_cases p with ⟨hbase, _, h⟩ | ⟨hbase, h | ⟨_, h⟩⟩ | ⟨hbase, -⟩
  · simp [hbase, h]
  · simp [hbase, h]
  · simp [hbase, h]
  · simp [hbase]

/-- What follows a slash behind something else is not part of the base. -/
lemma base_of_append_slash {before after : List UInt8} (h : p.bytes = before ++ slash :: after)
    (hne : before ≠ []) : p.base = base ⟨before⟩ := by
  obtain ⟨b, bs, rfl⟩ := List.exists_cons_of_ne_nil hne
  rw [base, base, segments, segments, h, split_append_slash, split]
  by_cases hb : b = slash
  · simp [hb, split_ne_nil]
  · obtain ⟨first, rest, hsplit⟩ := List.exists_cons_of_ne_nil (split_ne_nil bs)
    simp [hb, hsplit]

/-- What a path starts from stands before its first slash or ends there. -/
lemma exists_eq_base_append {before after : List UInt8} (h : p.bytes = before ++ slash :: after)
    (hne : before ≠ []) : ∃ rest, before = p.base ++ rest := by
  rw [base_of_append_slash h hne]
  exact ⟨_, (base_append_drop ⟨before⟩).symm⟩

/-- **The parent of a named path.** It is the path before the name, if that ends in a name as well. -/
theorem parent?_of_isBelow (h : p.IsBelow directory name) (hd : directory.IsBelow outer inner)
    (hne : outer.bytes ≠ []) : p.parent? = some directory := by
  have hbytes : p.bytes = outer.bytes ++ slash :: (inner ++ slash :: name) := by
    rw [h.bytes, hd.bytes, List.append_assoc, List.cons_append]
  obtain ⟨rest, hrest⟩ := exists_eq_base_append hbytes hne
  have hdrop : p.bytes.drop p.base.length = rest ++ slash :: (inner ++ slash :: name) := by
    rw [hbytes, hrest, List.append_assoc, List.drop_left]
  have hbackward : p.backward = name :: inner :: (split rest).reverse := by
    rw [backward, hdrop, split_append_slash, split_append_slash, h.name.whole, hd.name.whole,
      List.reverse_append, List.reverse_append]
    show (name :: inner :: (split rest).reverse).dropWhile isIdle = _
    rw [List.dropWhile_cons_of_neg (by simp [h.name.leads])]
  have hparent : unsplit ((inner :: (split rest).reverse).dropWhile isIdle).reverse
      = rest ++ slash :: inner := by
    rw [List.dropWhile_cons_of_neg (by simp [hd.name.leads]), List.reverse_cons,
      List.reverse_reverse, ← hd.name.whole, ← split_append_slash, unsplit_split]
  rw [parent?, hbackward]
  dsimp only
  rw [hparent, ← List.append_assoc, ← hrest, ← hd.bytes]

/-! ### Joined paths -/

/-- A name does not start in a slash. -/
lemma IsName.isAbsolute_eq {next : Path} (h : IsName next.bytes) : next.isAbsolute = false := by
  obtain ⟨b, bs, hbytes⟩ := List.exists_cons_of_ne_nil h.ne_nil
  rw [isAbsolute, hbytes, decide_eq_false_iff_not]
  intro hslash
  cases hslash
  have hwhole := h.whole
  rw [hbytes, split, if_pos rfl] at hwhole
  exact List.cons_ne_nil _ _ (List.cons.inj hwhole).1.symm

/-- A path whose last segment is a name. -/
def EndsInName (p : Path) : Prop :=
  ∃ front name, IsName name ∧ p.bytes = front ++ name

lemma EndsInName.ne_nil (h : p.EndsInName) : p.bytes ≠ [] := by
  obtain ⟨front, name, hname, hbytes⟩ := h
  rw [hbytes]
  exact List.append_ne_nil_of_right_ne_nil _ hname.ne_nil

lemma EndsInName.getLast?_ne (h : p.EndsInName) : p.bytes.getLast? ≠ some slash := by
  obtain ⟨front, name, hname, hbytes⟩ := h
  rw [hbytes, List.getLast?_append_of_ne_nil _ hname.ne_nil]
  exact hname.getLast?_ne

/-- Whatever it is joined to, a name is what the path ends in. -/
lemma endsInName_join (directory : Path) {next : Path} (h : IsName next.bytes) :
    (directory.join next).EndsInName := by
  rw [join, if_neg (by simp [h.isAbsolute_eq])]
  split
  · exact ⟨directory.bytes, next.bytes, h, rfl⟩
  · exact ⟨directory.bytes ++ [slash], next.bytes, h, by simp⟩

/-- A name joined to a path that ends in one is below it. -/
lemma EndsInName.isBelow_join {next : Path} (hd : directory.EndsInName) (h : IsName next.bytes) :
    (directory.join next).IsBelow directory next.bytes := by
  refine ⟨?_, h⟩
  rw [join, if_neg (by simp [h.isAbsolute_eq]), if_neg (not_or.2 ⟨hd.ne_nil, hd.getLast?_ne⟩)]

end Path

/-! ### Files that are there -/

namespace Disk

variable {disk : Disk} {p directory : Path} {name : Path.Segment} {content : Content}

/-- A file that is read is at the place that its path leads to. -/
lemma exists_place_of_read (h : disk.read p = .ok content) :
    ∃ place, disk.place p = .ok place ∧ disk.node? place = some (.file content) :=
  find_eq_ok_iff.1 (find_of_read h)

/-- The directory of a file that is read is there, and the file is one step from it. -/
lemma exists_directory_of_read (hp : p.IsBelow directory name)
    (hread : disk.read p = .ok content) :
    ∃ outer place, disk.follow directory.segments (disk.start p) = .ok outer ∧
      disk.node? outer = some .directory ∧ disk.step outer name = .ok place ∧
      disk.node? place = some (.file content) := by
  obtain ⟨place, hplace, hnode⟩ := exists_place_of_read hread
  rw [Disk.place] at hplace
  split at hplace
  next => cases hplace
  next =>
    rw [hp.segments_eq, follow_append_eq_ok_iff] at hplace
    obtain ⟨outer, hfollow, hlast⟩ := hplace
    obtain ⟨next, hstep, hend⟩ := follow_cons_eq_ok_iff.1 hlast
    cases hend
    exact ⟨outer, place, hfollow, directory_of_step hstep, hstep, hnode⟩

/-- A named path starts where its directory does. -/
lemma start_of_isBelow (hp : p.IsBelow directory name) (hne : directory.bytes ≠ []) :
    disk.start p = disk.start directory := by
  obtain ⟨b, bs, hbytes⟩ := List.exists_cons_of_ne_nil hne
  rw [start, start, Path.isAbsolute, Path.isAbsolute, hp.bytes, hbytes]
  rfl

/-- The directory of a file that is there need not be made. -/
lemma makeDirectories_of_read (hp : p.IsBelow directory name) (hne : directory.bytes ≠ [])
    (hread : disk.read p = .ok content) : disk.makeDirectories directory = .ok disk := by
  obtain ⟨outer, place, hfollow, hdirectory, -, -⟩ := exists_directory_of_read hp hread
  rw [makeDirectories, ← start_of_isBelow hp hne]
  exact makeAlong_eq_self hfollow hdirectory

/-- A file below a directory is written there by its name. -/
lemma target_of_isBelow (hp : p.IsBelow directory name) :
    target p = (directory.segments, name, false) := by
  have hlast : p.bytes.getLast? ≠ some Path.slash := by
    rw [hp.bytes, List.getLast?_append_of_ne_nil _ (by simp), List.getLast?_cons_of_ne_nil hp.name.ne_nil]
    exact hp.name.getLast?_ne
  rw [target, hp.segments_eq, List.reverse_append, List.reverse_singleton, List.singleton_append,
    List.dropWhile_cons_of_neg (by simpa using hp.name.ne_nil)]
  simp [hlast]

/-- **A file that is there can be written.** -/
theorem writable_of_read (hp : p.IsBelow directory name) (hread : disk.read p = .ok content) :
    ∃ place, disk.Writable p place := by
  obtain ⟨outer, place, hfollow, -, hstep, hnode⟩ := exists_directory_of_read hp hread
  have htarget := target_of_isBelow hp
  refine ⟨place, ?_, ?_, ⟨outer, ?_, ?_⟩, ?_⟩
  · rw [hp.bytes]
    simp
  · rw [htarget]
  · rw [htarget]
    exact hfollow
  · rw [htarget]
    exact hstep
  · rw [hnode]
    exact nofun

end Disk

end Screening
