import Roster.CommandLine.Reading
import Roster.Environment.Basic
import Roster.Settings.Resolve

/-!
# Invocations

An invocation is a command to be run, with what the command line and the environment say about settings. A setting may be given at every level, and the innermost counts. Where it is not given, the variable of the environment is looked at, and must be readable, even if the setting is given at another level.
-/

namespace Roster.CommandLine

open Text

inductive Command
  /-- Show a compiled filter and, if there is one, the sort order. -/
  | compile (filter : Text) (sort : Option Text) (validate : Bool)
  /-- Show a page of the stored users. -/
  | listUsers (filter sort : Option Text) (page pageSize : Option UInt32)
deriving DecidableEq, Repr

structure Invocation where
  command : Command
  overrides : Settings.Overrides
deriving DecidableEq, Repr

/-! ### One level -/

/-- Refuses unreadable variables of the settings that are not given. -/
def Entered.checkVariables (environment : Environment) (e : Entered) : Except Refusal Unit :=
  Setting.all.forM fun s =>
    match e.has s.argument, environment s.variableName with
    | false, some value => s.form.check value
    | _, _ => .ok ()

/-- Settles all that was given at a level. -/
def Entered.close (environment : Environment) (e : Entered) : Except Refusal Entered := do
  let e ← e.settle
  e.checkVariables environment
  return e

/-- There is neither an argument nor a variable. -/
def Entered.isBare (environment : Environment) (e : Entered) : Bool :=
  e.given.isEmpty && Setting.all.all fun s => (environment s.variableName).isNone

/-- The command of the innermost level. -/
def Entered.finish (environment : Environment) (e : Entered) : Except Refusal Command :=
  match e.level with
  | .compile =>
    match e.value? .filter with
    | some filter => .ok (.compile filter (e.value? .sort) (e.has .validate))
    | none => .error .missingOperand
  | .list =>
    .ok (.listUsers (e.value? .filter) (e.value? .sort) ((e.value? .page).bind readCount?)
      ((e.value? .pageSize).bind readCount?))
  | _ => .error (if e.isBare environment then .displayHelpOnMissingCommand else .missingCommand)

/-! ### All levels -/

/-- What is said about a setting, given the levels from the innermost on. -/
def settingValue? (environment : Environment) (levels : List Entered) (s : Setting) : Option Text :=
  (levels.findSome? fun e => e.value? s.argument).or (environment s.variableName)

/-- What is said about the setting of an argument. -/
def argumentValue? (environment : Environment) (levels : List Entered) (argument : Argument) : Option Text :=
  (Setting.all.find? (·.argument == argument)).bind (settingValue? environment levels)

def overrides (environment : Environment) (levels : List Entered) : Settings.Overrides where
  config := argumentValue? environment levels .config
  collation := argumentValue? environment levels .collation
  maxFilterLength := (argumentValue? environment levels .maxFilterLength).bind readSize?
  databaseUrl := argumentValue? environment levels .databaseUrl

/-- The invocation that has been read. -/
def Progress.finish (environment : Environment) : Progress → Except Refusal Invocation
  | .explaining _ => .error .displayHelp
  | .reading current outer => do
    let current ← current.close environment
    let command ← current.finish environment
    let outer ← outer.mapM (Entered.close environment)
    return ⟨command, overrides environment (current :: outer)⟩

/-- Reads the arguments of the program. -/
def Invocation.read (environment : Environment) (arguments : List Text) : Except Refusal Invocation := do
  let progress ← arguments.foldlM Progress.step .start
  progress.finish environment

end Roster.CommandLine
