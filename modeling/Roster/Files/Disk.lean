import Roster.Files.Path
import Roster.Users.Database

/-!
# Disks

All that the program needs to know of a disk is what stands at an absolute path: nothing, a directory or a file. A file holds bytes or a database.
-/

namespace Roster

open Text

inductive Content
  | bytes (data : List UInt8)
  | database (db : Database)

inductive Item
  | directory
  | file (content : Content)

/-- What stands at each absolute path. -/
abbrev Disk := Text → Option Item

namespace Disk

def holds (disk : Disk) (path : Text) : Bool := (disk path).isSome

/-- The text at a path, if a file in UTF-8 is there. -/
def readText? (disk : Disk) (path : Text) : Option Text :=
  match disk path with
  | some (.file (.bytes data)) => (String.fromUTF8? (ByteArray.mk data.toArray)).map String.toList
  | _ => none

end Disk

end Roster
