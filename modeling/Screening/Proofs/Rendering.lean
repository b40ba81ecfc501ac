/-
Fields that are written into a text and read back.

A list of values is written as fields: each value behind the key, ASCII letters in either case, with
an equals sign between the two and a bar at the end. The scan finds each of these fields at its own
beginning and leaves it at its own bar, whatever the key is made of and whatever else than bars the
values hold, so the values come back in their order, trimmed and without blank ones. What was extracted
from any text is of this kind already, so writing it and extracting again changes nothing.

* `Field.render`: the text of a list of fields.
* `Field.extract_render_append`: what is extracted from fields in front of a text.
* `Field.of_mem_extract`: what is known of an extracted value.
* `Field.extract_render`: values that are written are extracted, and extracted values stay.
-/
import Screening.Proofs.Division

namespace Screening.Field

open Text (trim trim_trim)

/-! ### Rendered fields -/

/-- A field that is to be written: a key and a value. -/
structure Rendered where
  key : String
  value : String

/-- The text of a field. -/
def Rendered.text (field : Rendered) : String :=
  field.key ++ "=" ++ field.value ++ "|"

/-- The text of several fields, one behind the other. -/
def render (fields : List Rendered) : String :=
  String.join (fields.map Rendered.text)

/-- Two texts that are the same but for the case of ASCII letters. -/
def SameKey (key written : String) : Prop :=
  List.Forall₂ SameLetter key.toList written.toList

/-- A field has a key in some case, and no bar in its value. -/
structure Rendered.Has (field : Rendered) (key : String) : Prop where
  key : SameKey key field.key
  value : '|' ∉ field.value.toList

/-- The values of fields as they are extracted: trimmed, without blank ones. -/
def trimmedValues (fields : List Rendered) : List String :=
  (fields.map fun field => trim field.value).filter (· ≠ "")

variable {key text : String} {fields : List Rendered}

lemma sameKey_refl (key : String) : SameKey key key :=
  List.forall₂_same.2 fun _ _ => .inl rfl

/-- Keys are the same exactly if they have the same lower case. -/
lemma sameKey_iff {written : String} :
    SameKey key written ↔ written.toList.map Char.toLower = key.toList.map Char.toLower := by
  have hletter : SameLetter = fun k c => k.toLower = c.toLower := by
    funext k c
    exact propext (toLower_eq_toLower_iff.symm.trans eq_comm)
  rw [SameKey, hletter, eq_comm, ← List.forall₂_eq_eq_eq, List.forall₂_map_left_iff,
    List.forall₂_map_right_iff]

instance (key written : String) : Decidable (SameKey key written) :=
  decidable_of_iff _ sameKey_iff.symm

/-! ### What is extracted from rendered fields -/

/-- A rendered field is one that the scan finds. -/
def Rendered.found (field : Rendered) : Found :=
  ⟨[], field.key.toList, field.value.toList⟩

lemma Rendered.Has.found {field : Rendered} (h : field.Has key) : field.found.Has key.toList :=
  ⟨h.key, h.value⟩

lemma Rendered.toList_text (field : Rendered) : field.text.toList = field.found.text := by
  simp [text, Found.text, found]

lemma toList_render_cons (field : Rendered) (fields : List Rendered) :
    (render (field :: fields)).toList = field.found.text ++ (render fields).toList := by
  rw [render, List.map_cons, String.toList_join, List.flatMap_cons, Rendered.toList_text, render,
    String.toList_join]

/-- The scan takes the values of rendered fields one by one, and goes on with what follows them. -/
lemma values_render_append (h : ∀ field ∈ fields, field.Has key) (rest : List Char) :
    values key.toList ((render fields).toList ++ rest) =
      (fields.map fun field => field.value.toList) ++ values key.toList rest := by
  induction fields with
  | nil => rfl
  | cons field fields ih =>
    have hfield : field.found.Has key.toList := (h field List.mem_cons_self).found
    have hfields : ∀ other ∈ fields, other.Has key := fun other hother =>
      h other (List.mem_cons_of_mem field hother)
    calc values key.toList ((render (field :: fields)).toList ++ rest)
        = values key.toList (field.found.text ++ ((render fields).toList ++ rest)) := by
          rw [toList_render_cons, List.append_assoc]
      _ = field.value.toList :: values key.toList ((render fields).toList ++ rest) :=
          values_field hfield _
      _ = field.value.toList :: ((fields.map fun field => field.value.toList) ++
            values key.toList rest) := by rw [ih hfields]

/-- **Fields in front of a text.** Their values are extracted, and then those of the text. -/
theorem extract_render_append (hkey : key ≠ "") (h : ∀ field ∈ fields, field.Has key)
    (text : String) :
    extract (render fields ++ text) key = trimmedValues fields ++ extract text key := by
  rw [extract, if_neg hkey, String.toList_append, values_render_append h, List.map_append,
    List.filter_append, extract, if_neg hkey, trimmedValues, List.map_map]
  simp only [Function.comp_def, String.ofList_toList]

/-- From rendered fields their values are extracted. -/
lemma extract_render_of_has (hkey : key ≠ "") (h : ∀ field ∈ fields, field.Has key) :
    extract (render fields) key = trimmedValues fields := by
  have hempty : extract "" key = [] := by
    rw [extract, if_neg hkey, String.toList_empty, values, List.map_nil, List.filter_nil]
  calc extract (render fields) key
      = extract (render fields ++ "") key := by rw [String.append_empty]
    _ = trimmedValues fields ++ extract "" key := extract_render_append hkey h ""
    _ = trimmedValues fields := by rw [hempty, List.append_nil]

/-! ### What is known of an extracted value -/

/-- A value that the scan takes holds no bar. -/
lemma bar_not_mem_of_mem_values {key text value : List Char} (h : value ∈ values key text) :
    '|' ∉ value := by
  obtain ⟨fields, last, hdivides⟩ := exists_divides key text
  rw [hdivides.values_eq] at h
  obtain ⟨field, hfield, rfl⟩ := List.mem_map.1 h
  exact (hdivides.has field hfield).value

/-- An extracted value is not blank, is trimmed, and holds no bar. -/
lemma of_mem_extract {value : String} (h : value ∈ extract text key) :
    value ≠ "" ∧ trim value = value ∧ '|' ∉ value.toList := by
  rw [extract] at h
  split at h
  · exact absurd h List.not_mem_nil
  · obtain ⟨hmem, hne⟩ := List.mem_filter.1 h
    obtain ⟨found, hfound, rfl⟩ := List.mem_map.1 hmem
    refine ⟨of_decide_eq_true hne, trim_trim _, fun hbar => ?_⟩
    have hbar' : '|' ∈ (String.ofList found).toList := (Text.trim_infix _).subset hbar
    rw [String.toList_ofList] at hbar'
    exact bar_not_mem_of_mem_values hfound hbar'

/-! ### Extracted values that are rendered -/

/-- Nothing is lost of fields whose values were extracted. -/
lemma trimmedValues_eq_extract (hvalues : fields.map Rendered.value = extract text key) :
    trimmedValues fields = extract text key := by
  have htrim : fields.map (fun field => trim field.value) = fields.map Rendered.value := by
    refine List.map_congr_left fun field hfield => ?_
    exact (of_mem_extract (hvalues ▸ List.mem_map_of_mem hfield)).2.1
  rw [trimmedValues, htrim, hvalues, List.filter_eq_self]
  intro value hvalue
  exact decide_eq_true (of_mem_extract hvalue).1

/-- Extracted values are extracted again from fields that hold them. -/
lemma extract_render_of_values (hkey : key ≠ "")
    (hvalues : fields.map Rendered.value = extract text key)
    (hkeys : ∀ field ∈ fields, SameKey key field.key) :
    extract (render fields) key = extract text key := by
  have hhas : ∀ field ∈ fields, field.Has key := by
    intro field hfield
    exact ⟨hkeys field hfield, (of_mem_extract (hvalues ▸ List.mem_map_of_mem hfield)).2.2⟩
  rw [extract_render_of_has hkey hhas, trimmedValues_eq_extract hvalues]

/-- **Values that are written are extracted.** From fields of a key that is not empty the values come
back in their order, trimmed and without blank ones. What was extracted from any text comes back as it
is, in whatever case the key is written in front of each value. -/
theorem extract_render (key : String) (hkey : key ≠ "") :
    (∀ fields : List Rendered, (∀ field ∈ fields, field.Has key) →
      extract (render fields) key = trimmedValues fields) ∧
    (∀ (text : String) (fields : List Rendered), fields.map Rendered.value = extract text key →
      (∀ field ∈ fields, SameKey key field.key) →
      extract (render fields) key = extract text key) ∧
    ∀ text : String,
      extract (render ((extract text key).map fun value => ⟨key, value⟩)) key = extract text key := by
  refine ⟨fun fields => extract_render_of_has hkey,
    fun text fields => extract_render_of_values hkey, fun text => ?_⟩
  refine extract_render_of_values hkey ?_ ?_
  · rw [List.map_map]
    exact List.map_id _
  · intro field hfield
    obtain ⟨value, -, rfl⟩ := List.mem_map.1 hfield
    exact sameKey_refl key

/-- Fields of a key that overlaps itself and holds an equals sign: one value has a field without its
bar inside, one is blank and one is empty. -/
def nestedFields : List Rendered :=
  [⟨"K=k", " K=k=1\n"⟩, ⟨"k=K", " \t"⟩, ⟨"k=k", ""⟩, ⟨"k=k", "=k"⟩]

/-- The values of nested fields come back, and so do those of a text with gaps between its fields. -/
theorem extract_render_nested :
    "k=k" ≠ "" ∧ (∀ field ∈ nestedFields, field.Has "k=k") ∧
      extract (render nestedFields) "k=k" = trimmedValues nestedFields ∧
      trimmedValues nestedFields = ["K=k=1", "=k"] ∧
      extract "x k=k=k=1|k k=k=k=K= a|k=k=b" "k=k" = ["k=1", "k=K= a"] ∧
      extract (render [⟨"K=k", "k=1"⟩, ⟨"k=K", "k=K= a"⟩]) "k=k" = ["k=1", "k=K= a"] := by
  have hkey : "k=k" ≠ "" := by decide
  have hnested : ∀ field ∈ nestedFields, field.Has "k=k" := by
    have h : ∀ field ∈ nestedFields, SameKey "k=k" field.key ∧ '|' ∉ field.value.toList := by decide
    exact fun field hfield => ⟨(h field hfield).1, (h field hfield).2⟩
  have htext : extract "x k=k=k=1|k k=k=k=K= a|k=k=b" "k=k" = ["k=1", "k=K= a"] := by decide +kernel
  have hagain := (extract_render "k=k" hkey).2.1 "x k=k=k=1|k k=k=k=K= a|k=k=b"
    [⟨"K=k", "k=1"⟩, ⟨"k=K", "k=K= a"⟩] (by rw [htext]; rfl) (by decide)
  exact ⟨hkey, hnested, (extract_render "k=k" hkey).1 nestedFields hnested, by decide, htext,
    hagain.trans htext⟩

end Screening.Field
