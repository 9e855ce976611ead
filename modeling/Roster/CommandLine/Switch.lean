import Roster.Text.Number

/-!
# Switches

A switch is an argument with a name: two dashes and a word, or a dash and a letter. It asks for help or for the version, states that something holds, or takes a value. What may be given has one name of its own, wherever on the command line it stands.
-/

namespace Roster.CommandLine

open Text

/-- Why the arguments do not name a command to be run. -/
inductive Refusal
  | displayHelp
  | displayVersion
  /-- A command is missing, and nothing else was given. -/
  | displayHelpOnMissingCommand
  | missingCommand
  | missingOperand
  | unknownCommand
  | unknownArgument
  /-- A switch has no value, or an empty one where that means nothing. -/
  | invalidValue
  /-- A value cannot be read. -/
  | unreadableValue
  /-- A switch is given twice to one command. -/
  | repeated
  /-- A switch that takes no value is given one. -/
  | needlessValue
deriving DecidableEq, Repr

/-- Help and version were asked for; all else is a mistake. -/
def Refusal.exitCode : Refusal → UInt32
  | .displayHelp => 0
  | .displayVersion => 0
  | _ => 2

/-- What can be given. -/
inductive Argument
  | config
  | collation
  | maxFilterLength
  | databaseUrl
  | filter
  | sort
  | validate
  | page
  | pageSize
deriving DecidableEq, Repr

/-- What a value looks like. -/
inductive Form
  | text
  /-- Text that is not empty. -/
  | path
  /-- A whole number of 64 bits. -/
  | size
  /-- A whole number of 32 bits. -/
  | count
deriving DecidableEq, Repr

/-- A whole number of 64 bits after at most one plus sign. -/
def readSize? (s : Text) : Option Nat := toNatBelow? UInt64.size s

/-- A whole number of 32 bits after at most one sign. -/
def readCount? (s : Text) : Option UInt32 :=
  match toInt? s with
  | some n => if 0 ≤ n ∧ n < UInt32.size then some (UInt32.ofNat n.toNat) else none
  | none => none

/-- Refuses a value that does not have the form. -/
def Form.check (form : Form) (value : Text) : Except Refusal Unit :=
  match form with
  | .text => .ok ()
  | .path => if value.isEmpty then .error .invalidValue else .ok ()
  | .size => if (readSize? value).isSome then .ok () else .error .unreadableValue
  | .count => if (readCount? value).isSome then .ok () else .error .unreadableValue

/-- What a switch does. -/
inductive Effect
  | help
  | version
  | states (argument : Argument)
  | takes (argument : Argument) (form : Form)
deriving DecidableEq, Repr

/-- The switch is followed by a value. -/
def Effect.takesValue : Effect → Bool
  | .takes _ _ => true
  | _ => false

structure Switch where
  long : Text
  short : Option Char
  effect : Effect
deriving DecidableEq, Repr

/-- A setting that every command takes, and the variable of the environment that stands in for it. -/
structure Setting where
  argument : Argument
  form : Form
  long : Text
  short : Option Char
  variableName : Text
deriving DecidableEq, Repr

namespace Setting

def switch (s : Setting) : Switch := ⟨s.long, s.short, .takes s.argument s.form⟩

def all : List Setting :=
  [⟨.config, .path, "config".toList, some 'c', "USERMANAGEMENT_CONFIG".toList⟩,
   ⟨.collation, .text, "collation".toList, none, "USERMANAGEMENT_FILTER_COLLATION".toList⟩,
   ⟨.maxFilterLength, .size, "max-filter-length".toList, none, "USERMANAGEMENT_FILTER_MAX_LENGTH".toList⟩,
   ⟨.databaseUrl, .text, "database-url".toList, none, "USERMANAGEMENT_DATABASE_URL".toList⟩]

end Setting

end Roster.CommandLine
