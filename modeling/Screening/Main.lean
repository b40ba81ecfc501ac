/-
The program.

The files that a command names are looked up along their paths, the command is run on them, and what
it leaves behind is written. Workbooks are files of their text form.
-/
import Screening.Run
import Screening.Sheet.Plain

namespace Screening

/-- The path of a place, for the machine. -/
def Place.machinePath (place : Place) : String :=
  "/" ++ (Path.mk (Path.unsplit place)).text

/-- What the machine has at a place. What exists and cannot be read as a file is a directory. -/
def Place.look (place : Place) (asWorkbook : Bool) : IO (Option Node) := do
  try
    let bytes := (← IO.FS.readBinFile place.machinePath).toList
    let text? := (Utf8.decode? bytes).map String.ofList
    match if asWorkbook then text?.bind Workbook.ofJson? else none with
    | some workbook => return some (.file (.workbook workbook))
    | none => return some (.file (.bytes bytes))
  catch
    | .noFileOrDirectory .. => return none
    | _ => return some .directory

/-- A disk with what the machine has along a path. -/
def Disk.withPath (disk : Disk) (p : Path) (asWorkbook : Bool) : IO Disk :=
  p.waypoints.foldlM
    (fun disk (place : Place) => do
      match ← place.look asWorkbook with
      | some node => return disk.set place node
      | none => return disk)
    disk

/-- The paths that a command names beside its input. -/
def Command.paths : Command → List Path
  | .process request => request.config.toList ++ request.destination?.toList
  | .config _ => []

/-- The input of a command. -/
def Command.inputs : Command → List Path
  | .process request => [request.input]
  | .config _ => []

/-- The bytes of a content. -/
def Content.toBytes : Content → List UInt8
  | .bytes bs => bs
  | .workbook w => Utf8.ofString w.toJson

/-- Puts on the machine what is at a place. -/
def Place.store (place : Place) (node : Node) : IO Unit :=
  match node with
  | .directory => IO.FS.createDirAll place.machinePath
  | .file content => IO.FS.writeBinFile place.machinePath (ByteArray.mk content.toBytes.toArray)

end Screening

open Screening in
/-- Runs the program on the machine. -/
def main (arguments : List String) : IO UInt32 := do
  let current := Path.ofString (← IO.currentDir).toString
  let home := Path.ofString ((← IO.getEnv "HOME").getD "/")
  let command? := (Invocation.ofArguments arguments).toOption.map (·.command)
  let start : Disk := ⟨[], current.waypoints.getLastD []⟩
  let disk ← (settingsFile home :: command?.elim [] Command.paths).foldlM
    (fun disk p => disk.withPath (current.join p) false) start
  let disk ← (command?.elim [] Command.inputs).foldlM
    (fun disk p => disk.withPath (current.join p) true) disk
  let outcome := run arguments disk home
  let changes := outcome.disk.nodes.take (outcome.disk.nodes.length - disk.nodes.length)
  changes.reverse.forM fun (place, node) => place.store node
  IO.print outcome.stdout
  IO.eprint outcome.stderr
  return outcome.code.toUInt32
