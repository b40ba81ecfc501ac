/-
Readers of typed JSON values.

A reader takes a value of one type off a text, or says at which byte it cannot. Records are read
from objects, whose members may come in any order and may be absent or unknown, and from lists,
which give the fields in order and may end early; a known member may not occur twice.

* `Reader.string`, `Reader.list`, `Reader.record`: the readers.
* `Reader.parse`: the value of a whole text.
-/
import Screening.Json.Skip

namespace Screening.Json

/-- A reader takes at least one character off the text. -/
structure Reader (α : Type) where
  read : List Char → Except Fault (α × List Char)
  shorter : ∀ {cs : List Char} {a : α} {rest : List Char},
    read cs = .ok (a, rest) → rest.length < cs.length

/-! ### Values of another type -/

/-- The fault of a value that is not of the expected type. A scalar is read first, and its own
fault comes before that of its type; of a list or an object only the bracket is looked at. -/
def wrongType (expected : String) (cs : List Char) : Fault :=
  match cs with
  | [] => .at .endInValue []
  | c :: r =>
    if c = '[' then found .sequence cs
    else if c.toNat = 0x7B then found .map cs
    else if c = '"' then after ((readString r).map fun (s, rest) => (.string (String.ofList s), rest))
    else if c = 'n' then after ((readWord "ull".toList r).map (.null, ·))
    else if c = 't' then after ((readWord "rue".toList r).map (.boolean true, ·))
    else if c = 'f' then after ((readWord "alse".toList r).map (.boolean false, ·))
    else if c = '-' then after (readNumber true r)
    else if c.isDigit then after (readNumber false cs)
    else .at .expectedValue cs
where
  found (value : Found) (rest : List Char) : Fault :=
    .before (.invalidType value expected) rest
  after (scalar : Except Fault (Found × List Char)) : Fault :=
    match scalar with
    | .error e => e
    | .ok (value, rest) => found value rest

/-! ### Strings -/

/-- Reads a string after white space. -/
def readText (cs : List Char) : Except Fault (String × List Char) :=
  match skipSpace cs with
  | '"' :: r => (readString r).map fun (s, rest) => (String.ofList s, rest)
  | r => .error (wrongType "a string" r)

theorem length_readText_lt {cs rest : List Char} {s : String} (h : readText cs = .ok (s, rest)) :
    rest.length < cs.length := by
  rw [readText] at h
  split at h
  next r hr =>
    have := length_lt_of_skipSpace hr
    cases hq : readString r with
    | error e => simp [hq, Except.map] at h
    | ok p =>
      simp only [hq, Except.map, Except.ok.injEq, Prod.mk.injEq] at h
      have hp : readString r = .ok (p.1, rest) := by rw [hq, ← h.2]
      have := length_readString_lt hp
      omega
  · cases h

/-- The reader of a string. -/
def Reader.string : Reader String :=
  ⟨readText, length_readText_lt⟩

/-! ### Lists -/

/-- What comes next inside of brackets: the closing bracket with the text after it, or the text
that an element or a key starts. -/
inductive Next where
  | close (rest : List Char)
  | item (rest : List Char)

/-- Looks for the next element of a list. -/
def nextElement (first : Bool) (cs : List Char) : Except Fault Next :=
  match skipSpace cs with
  | [] => .error (.at .endInList [])
  | c :: r =>
    if c = ']' then .ok (.close r)
    else if first then .ok (.item (c :: r))
    else if c = ',' then
      match skipSpace r with
      | [] => .error (.at .endInValue [])
      | d :: r' => if d = ']' then .error (.at .trailingComma (d :: r')) else .ok (.item (d :: r'))
    else .error (.at .expectedListCommaOrEnd (c :: r))

theorem length_nextElement_le {first : Bool} {cs : List Char} {next : Next}
    (h : nextElement first cs = .ok next) :
    match next with
    | .close rest => rest.length < cs.length
    | .item rest => rest.length ≤ cs.length := by
  rw [nextElement] at h
  split at h
  · cases h
  next c r hr =>
    have hlt := length_lt_of_skipSpace hr
    split at h
    · cases h; simp only; omega
    split at h
    · cases h; simp only [List.length_cons]; omega
    split at h
    · split at h
      · cases h
      next d r' hr' =>
        have hlt' := length_lt_of_skipSpace hr'
        split at h
        · cases h
        · cases h; simp only [List.length_cons]; omega
    · cases h

/-- Reads the elements of a list up to and with its closing bracket. -/
def readElements {α : Type} (item : Reader α) (first : Bool) (cs : List Char) :
    Except Fault (List α × List Char) :=
  match hn : nextElement first cs with
  | .error e => .error e
  | .ok (.close rest) => .ok ([], rest)
  | .ok (.item r) =>
    match hi : item.read r with
    | .error e => .error e
    | .ok (a, rest) =>
      have : rest.length < cs.length := Nat.lt_of_lt_of_le (item.shorter hi) (length_nextElement_le hn)
      (readElements item false rest).map fun (as, rest) => (a :: as, rest)
termination_by cs.length

theorem length_readElements_lt {α : Type} {item : Reader α} {first : Bool} {cs rest : List Char}
    {as : List α} (h : readElements item first cs = .ok (as, rest)) : rest.length < cs.length := by
  fun_induction readElements item first cs generalizing as with
  | case1 => cases h
  | case2 first cs rest' hn => cases h; exact length_nextElement_le hn
  | case3 => cases h
  | case4 first cs r hn a rest' hi hlt ih =>
    cases hr : readElements item false rest' with
    | error e => simp [hr, Except.map] at h
    | ok p =>
      simp only [hr, Except.map, Except.ok.injEq, Prod.mk.injEq] at h
      have hp : readElements item false rest' = .ok (p.1, rest) := by rw [hr, ← h.2]
      have := ih hp
      omega

/-- Reads a list after white space. -/
def readList {α : Type} (item : Reader α) (cs : List Char) : Except Fault (List α × List Char) :=
  match skipSpace cs with
  | '[' :: r => readElements item true r
  | r => .error (wrongType "a sequence" r)

theorem length_readList_lt {α : Type} {item : Reader α} {cs rest : List Char} {as : List α}
    (h : readList item cs = .ok (as, rest)) : rest.length < cs.length := by
  rw [readList] at h
  split at h
  next r hr => exact Nat.lt_trans (length_readElements_lt h) (length_lt_of_skipSpace hr)
  · cases h

/-- The reader of a list. -/
def Reader.list {α : Type} (item : Reader α) : Reader (List α) :=
  ⟨readList item, length_readList_lt⟩

/-- The reader of what a function makes of a value. -/
def Reader.map {α β : Type} (f : α → β) (reader : Reader α) : Reader β where
  read cs := (reader.read cs).map fun (a, rest) => (f a, rest)
  shorter {cs b rest} h := by
    cases hr : reader.read cs with
    | error e => simp [hr, Except.map] at h
    | ok p =>
      simp only [hr, Except.map, Except.ok.injEq, Prod.mk.injEq] at h
      exact reader.shorter (a := p.1) (by rw [hr, ← h.2])

/-! ### Records -/

/-- A field of a record: its name, and a reader of how it changes the record. -/
structure Field (σ : Type) where
  name : String
  reader : Reader (σ → σ)

/-- Closes a list whose elements were all wanted. -/
def closeList (cs : List Char) : Except Fault (List Char) :=
  match skipSpace cs with
  | [] => .error (.at .endInList [])
  | c :: r =>
    if c = ']' then .ok r
    else if c = ',' then
      match skipSpace r with
      | d :: r' =>
        if d = ']' then .error (.at .trailingComma (d :: r'))
        else .error (.at .trailingCharacters (d :: r'))
      | [] => .error (.at .trailingCharacters [])
    else .error (.at .trailingCharacters (c :: r))

theorem length_closeList_lt {cs rest : List Char} (h : closeList cs = .ok rest) :
    rest.length < cs.length := by
  rw [closeList] at h
  split at h
  · cases h
  next c r hr =>
    split at h
    · cases h; exact length_lt_of_skipSpace hr
    split at h
    · split at h
      · split at h <;> cases h
      · cases h
    · cases h

/-- Reads the fields of a record in order from the elements of a list, up to and with its closing
bracket. Fields that the list does not reach stay as they are. -/
def readInOrder {σ : Type} (fields : List (Field σ)) (first : Bool) (record : σ) (cs : List Char) :
    Except Fault (σ × List Char) :=
  match fields with
  | [] => (closeList cs).map (record, ·)
  | field :: fields =>
    match nextElement first cs with
    | .error e => .error e
    | .ok (.close rest) => .ok (record, rest)
    | .ok (.item r) =>
      match field.reader.read r with
      | .error e => .error e
      | .ok (put, rest) => readInOrder fields false (put record) rest

theorem length_readInOrder_lt {σ : Type} {fields : List (Field σ)} {first : Bool}
    {record record' : σ} {cs rest : List Char}
    (h : readInOrder fields first record cs = .ok (record', rest)) : rest.length < cs.length := by
  induction fields generalizing first record cs with
  | nil =>
    rw [readInOrder] at h
    cases hc : closeList cs with
    | error e => simp [hc, Except.map] at h
    | ok r =>
      simp only [hc, Except.map, Except.ok.injEq, Prod.mk.injEq] at h
      exact length_closeList_lt (by rw [hc, h.2])
  | cons field fields ih =>
    rw [readInOrder] at h
    split at h
    · cases h
    next rest' hn => cases h; exact length_nextElement_le hn
    next r hn =>
      have hle : r.length ≤ cs.length := length_nextElement_le hn
      split at h
      · cases h
      next put rest' hf =>
        have := field.reader.shorter hf
        have := ih h
        omega

/-- Looks for the next member of an object: the text after the opening quote of its key. -/
def nextMember (first : Bool) (cs : List Char) : Except Fault Next :=
  match skipSpace cs with
  | [] => .error (.at .endInObject [])
  | c :: r =>
    if c.toNat = 0x7D then .ok (.close r)
    else if first then
      if c = '"' then .ok (.item r) else .error (.at .keyNotString (c :: r))
    else if c = ',' then
      match skipSpace r with
      | [] => .error (.at .endInValue [])
      | d :: r' =>
        if d = '"' then .ok (.item r')
        else if d.toNat = 0x7D then .error (.at .trailingComma (d :: r'))
        else .error (.at .keyNotString (d :: r'))
    else .error (.at .expectedObjectCommaOrEnd (c :: r))

theorem length_nextMember_lt {first : Bool} {cs : List Char} {next : Next}
    (h : nextMember first cs = .ok next) :
    match next with
    | .close rest | .item rest => rest.length < cs.length := by
  rw [nextMember] at h
  split at h
  · cases h
  next c r hr =>
    have hlt := length_lt_of_skipSpace hr
    split at h
    · cases h; simp only; omega
    split at h
    · split at h
      · cases h; simp only; omega
      · cases h
    split at h
    · split at h
      · cases h
      next d r' hr' =>
        have hlt' := length_lt_of_skipSpace hr'
        split at h
        · cases h; simp only; omega
        · split at h <;> cases h
    · cases h

/-- The fault of a key that came before. It is reported where the object could be closed: after
the white space that follows the key, and after the closing bracket if that is next. -/
def repeatedKey (name : String) (cs : List Char) : Fault :=
  match skipSpace cs with
  | [] => .before (.duplicateField name) []
  | c :: r => .before (.duplicateField name) (if c.toNat = 0x7D then r else c :: r)

/-- A record under construction, with the names of the fields that were given so far. -/
structure Partial (σ : Type) where
  record : σ
  seen : List String

/-- Reads the value of a member after its key. The value of an unknown member is passed over. -/
def readValueOf {σ : Type} (fields : List (Field σ)) (state : Partial σ) (key : String)
    (cs : List Char) : Except Fault (Partial σ × List Char) :=
  match fields.find? (·.name == key) with
  | none =>
    match skipColon cs with
    | .error e => .error e
    | .ok r => (skipValue r).map (state, ·)
  | some field =>
    if state.seen.contains key then .error (repeatedKey key cs)
    else
      match skipColon cs with
      | .error e => .error e
      | .ok r =>
        (field.reader.read r).map fun (put, rest) => (⟨put state.record, key :: state.seen⟩, rest)

theorem length_readValueOf_lt {σ : Type} {fields : List (Field σ)} {state state' : Partial σ}
    {key : String} {cs rest : List Char}
    (h : readValueOf fields state key cs = .ok (state', rest)) : rest.length < cs.length := by
  rw [readValueOf] at h
  split at h
  · split at h
    · cases h
    next r hc =>
      have := length_skipColon_lt hc
      cases hv : skipValue r with
      | error e => simp [hv, Except.map] at h
      | ok r' =>
        simp only [hv, Except.map, Except.ok.injEq, Prod.mk.injEq] at h
        have := length_skipValue_lt hv
        rw [h.2] at this; omega
  next field _ =>
    split at h
    · cases h
    · split at h
      · cases h
      next r hc =>
        have := length_skipColon_lt hc
        cases hv : field.reader.read r with
        | error e => simp [hv, Except.map] at h
        | ok p =>
          simp only [hv, Except.map, Except.ok.injEq, Prod.mk.injEq] at h
          have hp : field.reader.read r = .ok (p.1, rest) := by rw [hv, ← h.2]
          have := field.reader.shorter hp
          omega

/-- Reads the members of an object up to and with its closing bracket. -/
def readMembers {σ : Type} (fields : List (Field σ)) (first : Bool) (state : Partial σ)
    (cs : List Char) : Except Fault (σ × List Char) :=
  match hn : nextMember first cs with
  | .error e => .error e
  | .ok (.close rest) => .ok (state.record, rest)
  | .ok (.item r) =>
    match hk : readString r with
    | .error e => .error e
    | .ok (key, r') =>
      match hv : readValueOf fields state (String.ofList key) r' with
      | .error e => .error e
      | .ok (state', rest) =>
        have : rest.length < cs.length := by
          have h₁ : r.length < cs.length := length_nextMember_lt hn
          have h₂ := length_readString_lt hk
          have h₃ := length_readValueOf_lt hv
          omega
        readMembers fields false state' rest
termination_by cs.length

theorem length_readMembers_lt {σ : Type} {fields : List (Field σ)} {first : Bool}
    {state : Partial σ} {record : σ} {cs rest : List Char}
    (h : readMembers fields first state cs = .ok (record, rest)) : rest.length < cs.length := by
  fun_induction readMembers fields first state cs with
  | case1 => cases h
  | case2 first state cs rest' hn => cases h; exact length_nextMember_lt hn
  | case3 => cases h
  | case4 => cases h
  | case5 first state cs r hn key r' hk state' rest' hv hlt ih => have := ih h; omega

/-- Reads a record after white space, from an object or a list. -/
def readRecord {σ : Type} (name : String) (fields : List (Field σ)) (record : σ)
    (cs : List Char) : Except Fault (σ × List Char) :=
  match skipSpace cs with
  | [] => .error (.at .endInValue [])
  | c :: r =>
    if c = '[' then readInOrder fields true record r
    else if c.toNat = 0x7B then readMembers fields true ⟨record, []⟩ r
    else .error (wrongType ("struct " ++ name) (c :: r))

theorem length_readRecord_lt {σ : Type} {name : String} {fields : List (Field σ)}
    {record record' : σ} {cs rest : List Char}
    (h : readRecord name fields record cs = .ok (record', rest)) : rest.length < cs.length := by
  rw [readRecord] at h
  split at h
  · cases h
  next c r hr =>
    have hlt := length_lt_of_skipSpace hr
    split at h
    · exact Nat.lt_trans (length_readInOrder_lt h) hlt
    split at h
    · exact Nat.lt_trans (length_readMembers_lt h) hlt
    · cases h

/-- The reader of a record of some fields, given what it is when no field is. -/
def Reader.record {σ : Type} (name : String) (fields : List (Field σ)) (record : σ) : Reader σ :=
  ⟨readRecord name fields record, length_readRecord_lt⟩

/-! ### Whole texts -/

/-- Reads a value that only white space may follow. -/
def Reader.readAll {α : Type} (reader : Reader α) (cs : List Char) : Except Fault α :=
  match reader.read cs with
  | .error e => .error e
  | .ok (a, rest) =>
    match skipSpace rest with
    | [] => .ok a
    | r => .error (.at .trailingCharacters r)

/-- The value of a whole text, or the error with its line and column. -/
def Reader.parse {α : Type} (reader : Reader α) (text : String) : Except Error α :=
  (reader.readAll text.toList).mapError (Fault.locate text.toList)

end Screening.Json
