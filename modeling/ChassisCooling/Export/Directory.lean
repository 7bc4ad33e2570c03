import ChassisCooling.Export.Row
import ChassisCooling.Files.Tree

/-!
# Export directories

Rows are added to one file for each zone, `<directory>/<zone>.cooling.csv`.

* `Export.zonePath`: the file of a zone.
* `Export.appendRows`: adds rows; the directory and the file are made if need be.
-/

namespace ChassisCooling.Export

open Files (Tree)

def fileSuffix : String := ".cooling.csv"

def zonePath (directory zone : String) : String := Files.Path.join directory (zone ++ fileSuffix)

/-- Adds rows to the file of a zone. Without rows nothing is done. -/
def appendRows (directory zone : String) (rows : List Row) (t : Tree) :
    Except Error Unit × Tree :=
  if rows.isEmpty then (.ok (), t)
  else
    let path := zonePath directory zone
    match t.createDirectories directory with
    | (.error failure, t) => (.error (.exportFailed path failure), t)
    | (.ok (), t) =>
      match t.appendText path (csvText rows) with
      | .ok t => (.ok (), t)
      | .error failure => (.error (.exportFailed path failure), t)

end ChassisCooling.Export
