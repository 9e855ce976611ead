import Roster.Files.Disk
import Roster.Settings.File

/-!
# Settings

The settings in force come from four places. The command line and the environment win over the local file or the one named on the command line, that one wins over the profile, and the profile over the defaults; each field is looked up on its own. The result is checked before anything is done with it.
-/

namespace Roster

open Text

structure Settings where
  collation : Text
  maxLength : Nat
  url : Text
  defaultPageSize : UInt32
  maxPageSize : UInt32
deriving DecidableEq, Repr

namespace Settings

/-- What the command line and the environment say. -/
structure Overrides where
  config : Option Text
  collation : Option Text
  maxFilterLength : Option Nat
  databaseUrl : Option Text
deriving DecidableEq, Repr

inductive Error
  | notFound (path : Text)
  | unreadableFile (path : Text)
  | malformedFile (path : Text)
  | invalidCollation (name : Text)
  | zeroLength
  | zeroPageSize
  | pageSizes (default maximum : UInt32)
deriving DecidableEq, Repr

def Error.message : Error → Text
  | .notFound path => "Config file not found: ".toList ++ path
  | .unreadableFile path => "Failed to read config file: ".toList ++ path
  | .malformedFile path => "Failed to parse config file: ".toList ++ path
  | .invalidCollation name =>
    "Invalid collation '".toList ++ name ++ "': only letters, digits and '_' are allowed".toList
  | .zeroLength => "filter.max_length must be greater than 0".toList
  | .zeroPageSize => "pagination page sizes must be greater than 0".toList
  | .pageSizes default maximum =>
    "pagination.default_page_size (".toList ++ ofNat default.toNat ++
      ") exceeds pagination.max_page_size (".toList ++ ofNat maximum.toNat ++ [')']

/-! ### Defaults -/

def defaultCollation : Text := "NOCASE".toList

def defaultMaxLength : Nat := 4096

def defaultUrl : Text := "sqlite://usermanagement.db".toList

def fileName : Text := "usermanagement.json".toList

def profileDirectory : Text := ".usermanagement".toList

/-- The compiler's options where nothing is said. -/
def defaultOptions : Filter.Options := ⟨defaultCollation, defaultMaxLength⟩

/-! ### Resolution -/

/-- A collation is written into SQL, so it must be a plain name. -/
def isCollation (name : Text) : Bool :=
  !name.isEmpty && name.all fun c => c.isAlphanum || c == '_'

/-- The settings in force, given those of the files. -/
def ofFile (places : Places) (overrides : Overrides) (file : File) : Except Error Settings :=
  let filter := file.filter.getD .empty
  let database := file.database.getD .empty
  let page := file.page.getD .empty
  let collation := (overrides.collation.or filter.collation).getD defaultCollation
  let maxLength := (overrides.maxFilterLength.or filter.maxLength).getD defaultMaxLength
  let url := ((overrides.databaseUrl.or database.url).map (Path.expandUrl places)).getD defaultUrl
  let maxPageSize := page.maxSize.getD Page.maxSize
  let defaultPageSize := page.defaultSize.getD Page.defaultSize
  if !isCollation collation then .error (.invalidCollation collation)
  else if maxLength = 0 then .error .zeroLength
  else if maxPageSize = 0 ∨ defaultPageSize = 0 then .error .zeroPageSize
  else if maxPageSize < defaultPageSize then .error (.pageSizes defaultPageSize maxPageSize)
  else .ok ⟨collation, maxLength, url, defaultPageSize, maxPageSize⟩

/-- The settings in force, given the profile and the file that is laid over it. -/
def resolve (places : Places) (overrides : Overrides) (profile overlay : Option File) : Except Error Settings :=
  ofFile places overrides
    ((File.empty.overriddenBy (profile.getD .empty)).overriddenBy (overlay.getD .empty))

/-! ### Loading -/

def profilePath (places : Places) : Text :=
  Path.join (Path.join places.home profileDirectory) fileName

/-- Reads the file at `path`, which users know as `shown`. -/
def loadFile (disk : Disk) (shown path : Text) : Except Error File :=
  match disk.readText? path with
  | none => .error (.unreadableFile shown)
  | some s => (File.ofJson s).mapError fun _ => .malformedFile shown

/-- Reads the file at `path` if there is anything. -/
def loadIfThere (disk : Disk) (shown path : Text) : Except Error (Option File) :=
  if disk.holds path then (loadFile disk shown path).map some else .ok none

/-- Reads the file that is laid over the profile. One that is named must be there. -/
def loadOverlay (disk : Disk) (places : Places) (overrides : Overrides) : Except Error (Option File) :=
  match overrides.config with
  | some config =>
    let path := Path.expand places config
    if disk.holds path then (loadFile disk path path).map some else .error (.notFound path)
  | none => loadIfThere disk fileName (Path.join places.working fileName)

def load (disk : Disk) (places : Places) (overrides : Overrides) : Except Error Settings := do
  let path := profilePath places
  let profile ← loadIfThere disk path path
  let overlay ← loadOverlay disk places overrides
  resolve places overrides profile overlay

def compilerOptions (settings : Settings) : Filter.Options := ⟨settings.collation, settings.maxLength⟩

end Settings

end Roster
