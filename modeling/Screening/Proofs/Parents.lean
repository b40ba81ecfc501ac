/-
Parents, and where paths lead.

A path starts from its base and has segments behind it. Its last segment lies in its parent, which
has the same base and the segments before the last one, without the idle ones at their end. A name
joined to such a path lies in it as well, and wherever the path leads, the joined path leads to the
name there.

* `Path.split_unsplit`: segments between slashes.
* `Path.LiesIn`: a path that consists of a last segment in a directory.
* `Path.exists_parent?`, `Path.IsTrimmed.liesIn_join`: a path in its parent, a name in a parent.
* `Path.LiesIn.parent?_eq`, `Path.LiesIn.lead_eq`: the parent of such a path, and where it leads.
-/
import Screening.Proofs.Paths

namespace Screening

/-! ### Following segments -/

/-- The place after one more segment, where the segments before it lead to a directory. -/
def Place.after (place : Place) (segment : Path.Segment) : Place :=
  if Path.isIdle segment then place
  else if segment = [Path.dot, Path.dot] then place.dropLast
  else place ++ [segment]

namespace Place

variable {place : Place} {segment : Path.Segment}

lemma after_of_isIdle (h : Path.isIdle segment = true) : after place segment = place :=
  if_pos h

lemma after_of_name (h : Path.isIdle segment = false) (hup : segment ≠ [Path.dot, Path.dot]) :
    after place segment = place ++ [segment] := by
  rw [after, if_neg (by simp [h]), if_neg hup]

end Place

namespace Path

/-- Where a path leads from a place. -/
def lead (p : Path) (place : Place) : Place :=
  p.segments.foldl Place.after place

end Path

/-- A path that can be followed leads where its segments lead. -/
lemma Disk.eq_lead_of_place {disk : Disk} {p : Path} {place : Place}
    (h : disk.place p = .ok place) : place = p.lead (disk.start p) := by
  rw [Disk.place] at h
  split at h
  next => cases h
  next =>
    rw [Path.lead]
    generalize disk.start p = start at h ⊢
    generalize p.segments = segments at h ⊢
    induction segments generalizing start with
    | nil =>
      cases h
      rfl
    | cons segment segments ih =>
      obtain ⟨next, hstep, h⟩ := follow_cons_eq_ok_iff.1 h
      rw [step, directory_of_step hstep] at hstep
      cases hstep
      exact ih _ h

namespace Path

/-! ### Segments between slashes -/

/-- No segment has a slash in it. -/
lemma slash_notMem_of_mem_split {bs : List UInt8} {segment : Segment} (h : segment ∈ split bs) :
    slash ∉ segment := by
  induction bs generalizing segment with
  | nil =>
    rw [split, List.mem_singleton] at h
    simp [h]
  | cons b bs ih =>
    rw [split] at h
    split at h
    next =>
      rcases List.mem_cons.1 h with rfl | h
      · exact List.not_mem_nil
      · exact ih h
    next hb =>
      obtain ⟨first, rest, hsplit⟩ := List.exists_cons_of_ne_nil (split_ne_nil bs)
      rw [hsplit] at h ih
      rcases List.mem_cons.1 h with rfl | h
      · rw [List.mem_cons, not_or]
        exact ⟨Ne.symm hb, ih List.mem_cons_self⟩
      · exact ih (List.mem_cons_of_mem _ h)

/-- What has no slash in it is one segment. -/
lemma split_of_slash_notMem {segment : Segment} (h : slash ∉ segment) :
    split segment = [segment] := by
  induction segment with
  | nil => rfl
  | cons b segment ih =>
    rw [List.mem_cons, not_or] at h
    rw [split, if_neg (Ne.symm h.1), ih h.2]

/-- Segments are found again between the slashes that were put there. -/
lemma split_unsplit {segments : List Segment} (hne : segments ≠ [])
    (h : ∀ segment ∈ segments, slash ∉ segment) : split (unsplit segments) = segments := by
  induction segments with
  | nil => exact absurd rfl hne
  | cons segment segments ih =>
    have hsegment := split_of_slash_notMem (h segment List.mem_cons_self)
    cases segments with
    | nil => exact hsegment
    | cons next segments =>
      rw [unsplit_cons (by simp), split_append_slash, hsegment,
        ih (by simp) fun s hs => h s (List.mem_cons_of_mem _ hs)]
      rfl

/-- A path that ends in a segment that leads somewhere. -/
lemma endsInName_of_unsplit {p : Path} {front : List UInt8} {segments : List Segment}
    {last : Segment} (h : IsName last) (hbytes : p.bytes = front ++ unsplit (segments ++ [last])) :
    p.EndsInName := by
  by_cases hsegments : segments = []
  · subst hsegments
    exact ⟨front, last, h, hbytes⟩
  · rw [unsplit_append hsegments (by simp)] at hbytes
    exact ⟨front ++ unsplit segments ++ [slash], last, h, by rw [hbytes]; simp [unsplit]⟩

/-! ### The base of a path -/

variable {p directory : Path} {last name : Segment}

lemma isAbsolute_eq_true_iff : p.isAbsolute = true ↔ p.base = [slash] := by
  rcases base_cases p with ⟨hbase, _, h⟩ | ⟨hbase, h | ⟨_, h⟩⟩ | ⟨hbase, h⟩
  · simp [hbase, isAbsolute, h]
  · simp [hbase, isAbsolute, h, dot, slash]
  · simp [hbase, isAbsolute, h, dot, slash]
  · simp [hbase, h]

/-- The base alone is the base of itself. -/
lemma base_base (p : Path) : base ⟨p.base⟩ = p.base := by
  rcases base_cases p with ⟨hbase, -⟩ | ⟨hbase, -⟩ | ⟨hbase, -⟩ <;> rw [hbase] <;> rfl

/-! ### The segments behind the base -/

lemma isIdle_of_dropWhile_eq {segments before : List Segment}
    (h : segments.dropWhile isIdle = last :: before) : isIdle last = false := by
  have hhead := List.head?_dropWhile_not isIdle segments
  rw [h] at hhead
  simpa using hhead

/-- The last segment leads somewhere. -/
lemma isIdle_of_backward_eq {before : List Segment} (h : p.backward = last :: before) :
    isIdle last = false :=
  isIdle_of_dropWhile_eq h

lemma slash_notMem_of_mem_backward (h : last ∈ p.backward) : slash ∉ last :=
  slash_notMem_of_mem_split (List.mem_reverse.1 ((List.dropWhile_suffix _).subset h))

/-- Idle segments at the end lead nowhere else. -/
lemma foldr_after_dropWhile (backward : List Segment) (place : Place) :
    (backward.dropWhile isIdle).foldr (fun segment place => Place.after place segment) place =
      backward.foldr (fun segment place => Place.after place segment) place := by
  induction backward with
  | nil => rfl
  | cons segment backward ih =>
    by_cases hidle : isIdle segment = true
    · rw [List.dropWhile_cons_of_pos hidle, ih, List.foldr_cons, Place.after_of_isIdle hidle]
    · rw [List.dropWhile_cons_of_neg hidle]

/-- A path leads where the segments behind its base do. -/
lemma lead_eq (p : Path) (place : Place) :
    p.lead place = p.backward.foldr (fun segment place => Place.after place segment) place := by
  have hdrop : p.lead place = (split (p.bytes.drop p.base.length)).foldl Place.after place := by
    rw [lead, segments]
    rcases base_cases p with ⟨hbase, rest, h⟩ | ⟨hbase, h | ⟨rest, h⟩⟩ | ⟨hbase, -⟩
    · rw [hbase, h]
      rfl
    · rw [hbase, h]
      rfl
    · rw [hbase, h]
      rfl
    · rw [hbase]
      rfl
  rw [hdrop, backward, foldr_after_dropWhile, List.foldr_reverse]

/-! ### Segments in directories -/

/-- A path of segments and their slashes only: no idle segments at its end, and no slash. -/
def IsTrimmed (p : Path) : Prop :=
  p.bytes = p.base ++ unsplit p.backward.reverse

/-- A path that consists of the segments of another one and a last segment. There may be idle ones
between these. -/
structure LiesIn (p directory : Path) (last : Segment) : Prop where
  base : p.base = directory.base
  backward : ∃ before, p.backward = last :: before ∧ before.dropWhile isIdle = directory.backward

/-- The parent of such a path is the directory. -/
lemma LiesIn.parent?_eq (h : p.LiesIn directory last) (hd : directory.IsTrimmed) :
    p.parent? = some directory := by
  obtain ⟨before, hbackward, hbefore⟩ := h.backward
  rw [parent?, hbackward]
  dsimp only
  rw [hbefore, h.base, ← hd]

/-- Its name is the last segment. -/
lemma LiesIn.name?_eq (h : p.LiesIn directory last) :
    p.name? = if last = [dot, dot] then none else some last := by
  obtain ⟨before, hbackward, -⟩ := h.backward
  rw [name?, hbackward]

lemma LiesIn.isIdle_eq (h : p.LiesIn directory last) : isIdle last = false := by
  obtain ⟨before, hbackward, -⟩ := h.backward
  exact isIdle_of_backward_eq hbackward

/-- It leads one step from where the directory leads. -/
lemma LiesIn.lead_eq (h : p.LiesIn directory last) (place : Place) :
    p.lead place = (directory.lead place).after last := by
  obtain ⟨before, hbackward, hbefore⟩ := h.backward
  rw [Path.lead_eq, Path.lead_eq, hbackward, List.foldr_cons, ← hbefore, foldr_after_dropWhile]

/-- It starts where the directory does. -/
lemma LiesIn.start_eq (h : p.LiesIn directory last) (disk : Disk) :
    disk.start p = disk.start directory := by
  have habsolute : p.isAbsolute = directory.isAbsolute := by
    rw [Bool.eq_iff_iff, isAbsolute_eq_true_iff, isAbsolute_eq_true_iff, h.base]
  rw [Disk.start, Disk.start, habsolute]

/-- Before the last segment and idle ones stand a slash and the segments of the parent. -/
lemma exists_bytes_eq {before : List Segment} (h : p.backward = last :: before)
    (hne : before.dropWhile isIdle ≠ []) :
    ∃ behind, p.bytes = p.base ++ unsplit (before.dropWhile isIdle).reverse ++ slash :: behind := by
  have hsplit : split (p.bytes.drop p.base.length) = (before.dropWhile isIdle).reverse ++
      ((split (p.bytes.drop p.base.length)).reverse.takeWhile isIdle ++
        last :: before.takeWhile isIdle).reverse := by
    rw [← List.reverse_append, List.append_assoc, List.cons_append,
      List.takeWhile_append_dropWhile, ← h, backward, List.takeWhile_append_dropWhile,
      List.reverse_reverse]
  have hunsplit := congrArg (p.base ++ unsplit ·) hsplit
  rw [unsplit_split, base_append_drop, unsplit_append (by simpa using hne) (by simp),
    ← List.append_assoc] at hunsplit
  exact ⟨_, hunsplit⟩

/-- What stands before the last segment has the base of the path and the segments before that one. -/
lemma parts_of_parent {before : List Segment} (h : p.backward = last :: before) :
    base ⟨p.base ++ unsplit (before.dropWhile isIdle).reverse⟩ = p.base ∧
      backward ⟨p.base ++ unsplit (before.dropWhile isIdle).reverse⟩ = before.dropWhile isIdle := by
  cases hinner : before.dropWhile isIdle with
  | nil =>
    have hbytes : p.base ++ unsplit [].reverse = p.base := List.append_nil _
    rw [hbytes, backward, base_base, List.drop_length]
    exact ⟨rfl, rfl⟩
  | cons segment inner =>
    have hsegment : isIdle segment = false := isIdle_of_dropWhile_eq hinner
    have hmem : ∀ s ∈ (segment :: inner).reverse, s ∈ p.backward := by
      intro s hs
      rw [h, List.mem_cons]
      rw [List.mem_reverse, ← hinner] at hs
      exact .inr ((List.dropWhile_suffix _).subset hs)
    have hslash : ∀ s ∈ (segment :: inner).reverse, slash ∉ s :=
      fun s hs => slash_notMem_of_mem_backward (hmem s hs)
    have hne : EndsInName ⟨p.base ++ unsplit (segment :: inner).reverse⟩ :=
      endsInName_of_unsplit ⟨split_of_slash_notMem (hslash segment (by simp)), hsegment⟩
        (by rw [List.reverse_cons])
    obtain ⟨behind, hbehind⟩ := exists_bytes_eq h (by rw [hinner]; simp)
    rw [hinner] at hbehind
    have hbase := base_of_append_slash hbehind hne.ne_nil
    refine ⟨hbase.symm, ?_⟩
    rw [backward, ← hbase, List.drop_left, split_unsplit (by simp) hslash, List.reverse_reverse,
      List.dropWhile_cons_of_neg (by simp [hsegment])]

/-- **A path lies in its parent.** -/
theorem exists_parent? {before : List Segment} (h : p.backward = last :: before) :
    ∃ directory, p.parent? = some directory ∧ p.LiesIn directory last ∧ directory.IsTrimmed := by
  obtain ⟨hbase, hbackward⟩ := parts_of_parent h
  refine ⟨⟨p.base ++ unsplit (before.dropWhile isIdle).reverse⟩, ?_,
    ⟨hbase.symm, before, h, hbackward.symm⟩, ?_⟩
  · rw [parent?, h]
  · rw [IsTrimmed, hbase, hbackward]

/-- A trimmed path that is empty or ends in a slash is nothing but its base. -/
lemma IsTrimmed.eq_of_getLast? (hd : directory.IsTrimmed)
    (h : directory.bytes = [] ∨ directory.bytes.getLast? = some slash) :
    directory.bytes = [] ∨ directory.bytes = [slash] := by
  cases hbackward : directory.backward with
  | nil =>
    have hbytes : directory.bytes = directory.base := by
      rw [IsTrimmed, hbackward] at hd
      exact hd.trans (List.append_nil _)
    rcases base_cases directory with ⟨hbase, -⟩ | ⟨hbase, -⟩ | ⟨hbase, -⟩
    · exact .inr (hbytes.trans hbase)
    · rw [hbytes, hbase] at h
      exact absurd h (by decide)
    · exact .inl (hbytes.trans hbase)
  | cons last before =>
    have hlast : IsName last :=
      ⟨split_of_slash_notMem (slash_notMem_of_mem_backward (by rw [hbackward]; simp)),
        isIdle_of_backward_eq hbackward⟩
    have hends : directory.EndsInName := by
      rw [IsTrimmed, hbackward, List.reverse_cons] at hd
      exact endsInName_of_unsplit hlast hd
    exact absurd h (not_or.2 ⟨hends.ne_nil, hends.getLast?_ne⟩)

/-- A name alone has no base. -/
lemma IsName.base_eq (h : IsName name) : base ⟨name⟩ = [] := by
  have hleads := h.leads
  rw [isIdle, Bool.or_eq_false_iff, decide_eq_false_iff_not, decide_eq_false_iff_not] at hleads
  rw [base, segments, h.whole]
  dsimp only
  rw [if_neg hleads.2, if_neg (by simp)]

/-- A name behind a path and a slash lies in the path. -/
lemma IsBelow.liesIn (h : p.IsBelow directory name) (hne : directory.bytes ≠ []) :
    p.LiesIn directory name := by
  have hbase : p.base = directory.base := base_of_append_slash h.bytes hne
  have hdrop : p.bytes.drop directory.base.length =
      directory.bytes.drop directory.base.length ++ slash :: name := by
    rw [h.bytes]
    nth_rewrite 1 [← base_append_drop directory]
    rw [List.append_assoc, List.drop_left]
  refine ⟨hbase, (split (directory.bytes.drop directory.base.length)).reverse, ?_, rfl⟩
  rw [backward, hbase, hdrop, split_append_slash, h.name.whole, List.reverse_append,
    List.reverse_singleton, List.singleton_append,
    List.dropWhile_cons_of_neg (by simp [h.name.leads])]

/-- **A name joined to a path lies in it.** -/
theorem IsTrimmed.liesIn_join (hd : directory.IsTrimmed) (h : IsName name) :
    (directory.join ⟨name⟩).LiesIn directory name := by
  have hrelative : isAbsolute ⟨name⟩ = false := IsName.isAbsolute_eq h
  rw [join, if_neg (by simp [hrelative])]
  split
  next hend =>
    have hname : (split name).reverse.dropWhile isIdle = [name] := by
      rw [h.whole]
      exact List.dropWhile_cons_of_neg (by simp [h.leads])
    obtain ⟨bytes⟩ := directory
    rcases hd.eq_of_getLast? hend with rfl | rfl
    · refine ⟨h.base_eq, [], ?_, rfl⟩
      rw [List.nil_append, backward, h.base_eq]
      exact hname
    · have hbase : base ⟨slash :: name⟩ = [slash] := by
        rw [base, segments, split, if_pos rfl]
        dsimp only
        rw [if_neg (by simp), if_pos ⟨rfl, split_ne_nil name⟩]
      refine ⟨hbase, [], ?_, rfl⟩
      rw [List.singleton_append, backward, hbase]
      exact hname
  next hend =>
    exact IsBelow.liesIn ⟨rfl, h⟩ (not_or.1 hend).1

end Path

end Screening
