import Roster.CommandLine.Invocation
import Roster.Environment.File
import Roster.Inspection
import Roster.Records
import Roster.Users.Address

/-!
# The program

The program reads variables from a file, reads its arguments, puts the settings in force and follows the command. What it writes and how it ends is settled by what surrounds it: nothing else is looked at.
-/

namespace Roster

open Text
open CommandLine (Command Invocation Refusal)

/-- All that the program sees. -/
structure Surroundings where
  arguments : List Text
  environment : Environment
  /-- The working directory. -/
  working : Text
  /-- The home directory of the user's account. -/
  account : Text
  disk : Disk

/-- How the program ends. -/
structure Outcome where
  exitCode : UInt32
  /-- What is written to standard output. -/
  output : Text
  /-- What is written to standard error. -/
  errors : Text
deriving DecidableEq, Repr

namespace Program

/-- Why a command fails. -/
inductive Failure
  | settings (error : Settings.Error)
  | inspection (error : Inspection.Error)
  | opening (url : Text) (error : OpeningError)
  | listing (error : ServiceError)
deriving DecidableEq, Repr

def Failure.message : Failure → Text
  | .settings e => e.message
  | .inspection e => e.message
  | .opening url e => "Failed to open database ".toList ++ url ++ ": ".toList ++ e.message
  | .listing e => e.display

/-- The environment in which the arguments are read. -/
def environment (s : Surroundings) : Environment :=
  s.environment.load s.disk (Path.ancestors s.working)

/-- The home directory is that of the account unless a variable names another. -/
def places (s : Surroundings) : Places :=
  match environment s "HOME".toList with
  | some (c :: home) => ⟨s.working, c :: home⟩
  | _ => ⟨s.working, s.account⟩

/-- The page that the command line asks for. -/
def requestedPage (settings : Settings) (page pageSize : Option UInt32) : Page :=
  (Page.ofRequest page (some (pageSize.getD settings.defaultPageSize))).clamped settings.maxPageSize

/-- Follows a command; the result is JSON. -/
def follow (disk : Disk) (working : Text) (settings : Settings) : Command → Except Failure Json.Value
  | .compile filter sort validate =>
    ((Inspection.compile settings.compilerOptions filter sort validate).mapError .inspection).map
      Inspection.toJson
  | .listUsers filter sort page pageSize => do
    let db ← (Database.open? disk working settings.url).mapError (.opening settings.url)
    let request := ⟨filter.getD [], sort.getD [], requestedPage settings page pageSize⟩
    let listing ← (db.list settings.compilerOptions request).mapError .listing
    return listing.toJson

def perform (s : Surroundings) (invocation : Invocation) : Except Failure Json.Value := do
  let settings ← (Settings.load s.disk (places s) invocation.overrides).mapError .settings
  follow s.disk s.working settings invocation.command

/-! ### What is looked at -/

/-- The paths of the database and of the directory that it stands in. -/
def databasePaths (working url : Text) : List Text :=
  match Address.read url with
  | .ok address =>
    let path := Path.join working address.path
    [path, Path.directory path]
  | .error _ => []

/-- The paths of the settings, and those of the database as soon as the settings are known. -/
def settingsPaths (s : Surroundings) : List Text :=
  match Invocation.read (environment s) s.arguments with
  | .error _ => []
  | .ok invocation =>
    let overlay := match invocation.overrides.config with
      | some config => Path.expand (places s) config
      | none => Path.join s.working Settings.fileName
    let database := match Settings.load s.disk (places s) invocation.overrides with
      | .ok settings => databasePaths s.working settings.url
      | .error _ => []
    Settings.profilePath (places s) :: overlay :: database

/-- The paths that are looked at, as far as the disk lets them be known: first the file of variables, then the settings, then the database. -/
def paths (s : Surroundings) : List Text :=
  (Path.ancestors s.working).map (fun directory => Path.join directory Environment.fileName) ++ settingsPaths s

/-- The variables that are looked at. -/
def variableNames (s : Surroundings) : List Text :=
  "HOME".toList :: CommandLine.Setting.all.map CommandLine.Setting.variableName ++
    match Environment.nearest? s.disk (Path.ancestors s.working) with
    | some data => Environment.mentioned (ofBytesLossy data)
    | none => []

/-! ### Running -/

def versionLine : Text := "usermanagement 0.1.0\n".toList

def run (s : Surroundings) : Outcome :=
  match Invocation.read (environment s) s.arguments with
  | .error .displayVersion => ⟨0, versionLine, []⟩
  | .error refusal => ⟨refusal.exitCode, [], []⟩
  | .ok invocation =>
    match perform s invocation with
    | .ok value => ⟨0, Json.pretty 0 value ++ ['\n'], []⟩
    | .error failure => ⟨1, [], "\nError: ".toList ++ failure.message ++ "\n\n".toList⟩

end Program

end Roster
