/-
Settings and criteria in files.

Settings are kept in one file, and where it is missing they are the initial ones. The criteria of a
run are those of the settings, or of a file given in their place, with the entries given for the run.

* `Settings.load`, `Settings.save`: settings from a file and into one.
* `Settings.resolve`: the criteria of a run.
-/
import Screening.Error
import Screening.Settings

namespace Screening

namespace Settings

/-- The settings that a file holds; a missing one holds the initial settings. -/
def load (disk : Disk) (p : Path) : Except Error Settings :=
  if disk.contains p then do
    let text ← (disk.readText p).mapError .io
    (ofJson text).mapError .settings
  else .ok .initial

/-- The disk with the settings in a file, whose directory is made if it is missing. -/
def save (settings : Settings) (disk : Disk) (p : Path) : Except Error Disk := do
  let disk ← (p.parent?.elim (.ok disk) disk.makeDirectories).mapError .io
  (disk.write p (.ofString settings.toJson)).mapError .io

end Settings

/-- The criteria that a file holds. -/
def Criteria.load (disk : Disk) (p : Path) : Except Error Criteria :=
  if disk.contains p then do
    let text ← (disk.readText p).mapError .io
    (ofJson text).mapError .criteria
  else .error (.fileNotFound p)

/-- The criteria of a run: those of a file if one is given, else those of the settings, and the
entries given for the run. -/
def Settings.resolve (settings : Settings) (disk : Disk) (override : Option Path)
    (keywords codes : List String) : Except Error Criteria :=
  let criteria := override.elim (.ok settings.criteria) (Criteria.load disk)
  criteria.map (·.extended keywords codes)

end Screening
