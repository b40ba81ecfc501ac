/-
The files that a run sees and leaves behind.

Below the root there are directories and files, each at a place: the names that lead to it. A file
holds bytes or a workbook, whose bytes are no text. A path leads to a place segment by segment, and
each segment but the last has to be a directory.

* `Disk.find`: what a path leads to.
* `Disk.readText`, `Disk.write`, `Disk.makeDirectories`: the operations of a run, and their faults.
-/
import Screening.Files.Path
import Screening.Sheet.Workbook

namespace Screening

/-! ### Faults -/

/-- What can be wrong with reading or writing a file. -/
inductive IoError where
  | notFound
  | alreadyExists
  | notDirectory
  | isDirectory
  | notText
  deriving DecidableEq

/-- The wording of a fault. -/
def IoError.message : IoError → String
  | notFound => "No such file or directory (os error 2)"
  | alreadyExists => "File exists (os error 17)"
  | notDirectory => "Not a directory (os error 20)"
  | isDirectory => "Is a directory (os error 21)"
  | notText => "stream did not contain valid UTF-8"

/-! ### Files and directories -/

/-- What a file holds. -/
inductive Content where
  | bytes (bs : List UInt8)
  | workbook (w : Workbook)
  deriving DecidableEq

/-- The content of a file that holds a text. -/
def Content.ofString (s : String) : Content :=
  .bytes (Utf8.ofString s)

/-- What is at a place. -/
inductive Node where
  | directory
  | file (content : Content)
  deriving DecidableEq

/-- The names that lead from the root to a file or a directory. -/
abbrev Place := List Path.Segment

/-- The directories and files at their places, the latest first, and the directory that relative
paths start from. -/
structure Disk where
  nodes : List (Place × Node)
  current : Place
  deriving DecidableEq

namespace Disk

/-- What is at a place. The root is a directory. -/
def node? (disk : Disk) (place : Place) : Option Node :=
  if place = [] then some .directory else disk.nodes.lookup place

/-- The disk with something at a place. -/
def set (disk : Disk) (place : Place) (node : Node) : Disk :=
  { disk with nodes := (place, node) :: disk.nodes }

/-- What is at a place after something was put at one. -/
theorem node?_set {disk : Disk} {place other : Place} {node : Node} (h : place ≠ []) :
    (disk.set place node).node? other = if other = place then some node else disk.node? other := by
  rw [node?, node?, set]
  by_cases hp : other = place
  · subst hp
    rw [if_neg h, if_pos rfl, List.lookup_cons_self]
  · rw [if_neg hp, List.lookup_cons, beq_eq_false_iff_ne.2 hp]

/-! ### Following paths -/

/-- The place after one more segment of a path, which has to lie in a directory. -/
def step (disk : Disk) (place : Place) (segment : Path.Segment) : Except IoError Place :=
  match disk.node? place with
  | none => .error .notFound
  | some (.file _) => .error .notDirectory
  | some .directory =>
    .ok
      (if Path.isIdle segment then place
      else if segment = [Path.dot, Path.dot] then place.dropLast
      else place ++ [segment])

/-- The place that some segments lead to. -/
def follow (disk : Disk) (segments : List Path.Segment) (place : Place) : Except IoError Place :=
  segments.foldlM disk.step place

/-- The place that a path starts from. -/
def start (disk : Disk) (p : Path) : Place :=
  if p.isAbsolute then [] else disk.current

/-- The place that a path leads to, whether something is there or not. -/
def place (disk : Disk) (p : Path) : Except IoError Place :=
  if p.bytes = [] then .error .notFound else disk.follow p.segments (disk.start p)

/-- What a path leads to. -/
def find (disk : Disk) (p : Path) : Except IoError Node :=
  match disk.place p with
  | .error e => .error e
  | .ok place => (disk.node? place).elim (.error .notFound) .ok

/-- Whether a path leads to a file or a directory. -/
def contains (disk : Disk) (p : Path) : Bool :=
  (disk.find p).isOk

/-! ### Reading and writing -/

/-- The content of a file. -/
def read (disk : Disk) (p : Path) : Except IoError Content :=
  match disk.find p with
  | .error e => .error e
  | .ok .directory => .error .isDirectory
  | .ok (.file content) => .ok content

/-- The text that a file holds. -/
def readText (disk : Disk) (p : Path) : Except IoError String :=
  match disk.read p with
  | .error e => .error e
  | .ok (.workbook _) => .error .notText
  | .ok (.bytes bs) => (Utf8.decode? bs).elim (.error .notText) fun cs => .ok (String.ofList cs)

/-- The segments that lead to where a path can be written, and the last one; a path that ends in a
slash names a directory. -/
def target (p : Path) : List Path.Segment × Path.Segment × Bool :=
  match p.segments.reverse.dropWhile (· = []) with
  | last :: before => (before.reverse, last, p.bytes.getLast? = some Path.slash)
  | [] => ([], [], true)

/-- The disk with a file at a path, new or in place of the one there. -/
def write (disk : Disk) (p : Path) (content : Content) : Except IoError Disk :=
  if p.bytes = [] then .error .notFound
  else
    let (before, last, slashed) := target p
    match disk.follow before (disk.start p) with
    | .error e => .error e
    | .ok directory =>
      match disk.step directory last with
      | .error e => .error e
      | .ok place =>
        if slashed ∨ disk.node? place = some .directory then .error .isDirectory
        else .ok (disk.set place (.file content))

/-- Makes the directories that are missing along some segments. -/
def makeAlong (disk : Disk) (place : Place) : List Path.Segment → Except IoError Disk
  | [] =>
    match disk.node? place with
    | some (.file _) => .error .alreadyExists
    | _ => .ok disk
  | segment :: segments =>
    match disk.step place segment with
    | .error e => .error e
    | .ok next =>
      let disk := if disk.node? next = none then disk.set next .directory else disk
      disk.makeAlong next segments

/-- Makes a directory, and those that it lies in, where they are missing. -/
def makeDirectories (disk : Disk) (p : Path) : Except IoError Disk :=
  disk.makeAlong (disk.start p) p.segments

end Disk

end Screening
