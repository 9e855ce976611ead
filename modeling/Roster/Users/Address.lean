import Roster.Files.Disk
import Roster.Text.Percent

/-!
# Addresses of databases

An address is `sqlite:` or `sqlite://` and a path, perhaps with a query that says how the database is to be opened. A database that does not exist is created, and one in memory is always new.
-/

namespace Roster

open Text

structure Address where
  path : Text
  inMemory : Bool
  readOnly : Bool
  /-- Nobody changes the file, this program included. -/
  immutable : Bool
  /-- The part of the operating system that is to be used, if it is not the usual one. -/
  system : Option Text
deriving DecidableEq, Repr

namespace Address

/-- Why a text is no address. -/
inductive Fault
  | otherScheme
  | unknownValue (name value : Text)
  | unknownName (name : Text)
  | notText (fault : Utf8.Fault)
deriving DecidableEq, Repr

/-- A character between double quotes. One that cannot be seen is escaped. -/
def visible (c : Char) : Text :=
  if c = '"' then ['\\', '"']
  else if c = '\\' then ['\\', '\\']
  else if c = '\n' then ['\\', 'n']
  else if c = '\r' then ['\\', 'r']
  else if c = '\t' then ['\\', 't']
  else if c.toNat = 0 then ['\\', '0']
  else if c.toNat < 32 ∨ 127 ≤ c.toNat ∧ c.toNat < 160 ∨ isBlank c ∧ c ≠ ' ' then
    ['\\', 'u', '\x7b'] ++ Nat.toDigits 16 c.toNat ++ ['\x7d']
  else [c]

def Fault.message : Fault → Text
  | .otherScheme => "expected a sqlite: URL".toList
  | .unknownValue name value =>
    "error with configuration: unknown value \"".toList ++ value.flatMap visible ++ "\" for `".toList ++ name ++
      "`".toList
  | .unknownName name =>
    "error with configuration: unknown query parameter `".toList ++ name ++
      "` while parsing connection URL".toList
  | .notText fault => "error with configuration: ".toList ++ fault.message

def scheme : Text := "sqlite:".toList

/-- Drops a text from the front as often as it stands there. -/
def dropAll (front : Text) (s : Text) : Text :=
  match front, s with
  | [], s => s
  | _ :: _, [] => []
  | c :: front, d :: s =>
    if c = d ∧ front.isPrefixOf s then dropAll (c :: front) (s.drop front.length) else d :: s
termination_by s.length
decreasing_by
  rw [List.length_drop, List.length_cons]
  omega

/-- Follows one field of the query. -/
def follow (a : Address) (field : Text × Text) : Except Fault Address :=
  let (name, value) := field
  let unknown : Except Fault Address := .error (.unknownValue name value)
  if name = "mode".toList then
    if value = "ro".toList then .ok { a with readOnly := true }
    else if value = "rw".toList ∨ value = "rwc".toList then .ok a
    else if value = "memory".toList then .ok { a with inMemory := true }
    else unknown
  else if name = "cache".toList then
    if value = "private".toList ∨ value = "shared".toList then .ok a else unknown
  else if name = "immutable".toList then
    if value = "true".toList ∨ value = "1".toList then .ok { a with immutable := true }
    else if value = "false".toList ∨ value = "0".toList then .ok { a with immutable := false }
    else unknown
  else if name = "vfs".toList then .ok { a with system := some value }
  else .error (.unknownName name)

def memoryPath : Text := ":memory:".toList

/-- Reads an address. -/
def read (s : Text) : Except Fault Address := do
  if !scheme.isPrefixOf s then throw .otherScheme
  let (location, query) := Path.splitQuery (dropAll scheme (dropAll Path.urlScheme s))
  let path ←
    if location = memoryPath then pure location
    else (ofBytes (percentDecode (toBytes location))).mapError .notText
  (formFields (query.drop 1)).foldlM follow
    ⟨path, path.isEmpty || path == memoryPath, false, false, none⟩

end Address

/-- Why a database cannot be opened. -/
inductive OpeningError
  | invalidAddress (address : Text) (fault : Address.Fault)
  /-- A file stands there that is no database. -/
  | notADatabase
  /-- There is a directory, or no directory to create the file in. -/
  | unreachable
  /-- The schema cannot be put in force in a database that may only be read. -/
  | readOnly
  /-- There is no such part of the operating system. -/
  | unknownSystem (name : Text)
deriving DecidableEq, Repr

namespace OpeningError

def databaseMessage (code : Nat) (detail : Text) : Text :=
  let cause := "(code: ".toList ++ Text.ofNat code ++ ") ".toList ++ detail
  let answer := "error returned from database: ".toList ++ cause
  "Database error: ".toList ++ answer ++ ": ".toList ++ answer ++ ": ".toList ++ cause

/-- What failed, followed by its causes. -/
def message : OpeningError → Text
  | .invalidAddress address fault =>
    "Invalid database URL '".toList ++ address ++ "': ".toList ++ fault.message
  | .notADatabase => databaseMessage 26 "file is not a database".toList
  | .unreachable => databaseMessage 14 "unable to open database file".toList
  | .readOnly => databaseMessage 8 "attempt to write a readonly database".toList
  | .unknownSystem name => databaseMessage 1 ("no such vfs: ".toList ++ name)

end OpeningError

namespace Address

/-- The parts of the operating system that may be named. -/
def systems : List Text :=
  ["unix".toList, "unix-none".toList, "unix-dotfile".toList, "unix-excl".toList, "memdb".toList]

/-- The database that a file holds. An empty file is an empty database. -/
def decode : Content → Except OpeningError Database
  | .database db => .ok db
  | .bytes [] => .ok .empty
  | .bytes (_ :: _) => .error .notADatabase

/-- The database at an absolute path. -/
def openFile (disk : Disk) (path : Text) : Except OpeningError Database :=
  match disk path with
  | some (.file content) => decode content
  | some .directory => .error .unreachable
  | none =>
    match disk (Path.directory path) with
    | some .directory => .ok .empty
    | _ => .error .unreachable

/-- Opens the database at an address. -/
def open? (disk : Disk) (working : Text) (a : Address) : Except OpeningError Database := do
  if let some name := a.system then
    if !systems.contains name then throw (.unknownSystem name)
  if a.inMemory then return .empty
  let path := Path.join working a.path
  if a.readOnly && (disk path).isNone then throw .unreachable
  let db ← openFile disk path
  if a.readOnly || a.immutable then throw .readOnly
  return db

end Address

/-- Opens the database that a text is the address of. -/
def Database.open? (disk : Disk) (working : Text) (s : Text) : Except OpeningError Database := do
  let address ← (Address.read s).mapError (.invalidAddress s)
  address.open? disk working

end Roster
