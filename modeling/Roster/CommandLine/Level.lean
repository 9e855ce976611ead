import Roster.CommandLine.Switch

/-!
# Levels of commands

The program has commands within commands. Each of them is a level with switches of its own; the settings and the switch for help are there at every level. A level that has further commands also has one that explains them.
-/

namespace Roster.CommandLine

open Text

inductive Level
  | program
  | compile
  | users
  | list
  | help
deriving DecidableEq, Repr

namespace Level

/-- The commands of a level, by name. -/
def commands : Level → List (Text × Level)
  | .program => [("compile".toList, .compile), ("users".toList, .users), ("help".toList, .help)]
  | .users => [("list".toList, .list), ("help".toList, .help)]
  | .compile => []
  | .list => []
  | .help => []

def command? (level : Level) (name : Text) : Option Level := level.commands.lookup name

/-- The switches of one level only. -/
def ownSwitches : Level → List Switch
  | .program => [⟨"version".toList, some 'V', .version⟩]
  | .compile =>
    [⟨"sort".toList, none, .takes .sort .text⟩, ⟨"validate".toList, none, .states .validate⟩]
  | .list =>
    [⟨"filter".toList, some 'f', .takes .filter .text⟩, ⟨"sort".toList, some 's', .takes .sort .text⟩,
     ⟨"page".toList, none, .takes .page .count⟩, ⟨"page-size".toList, none, .takes .pageSize .count⟩]
  | .users => []
  | .help => []

def switches (level : Level) : List Switch :=
  level.ownSwitches ++ Setting.all.map Setting.switch ++ [⟨"help".toList, some 'h', .help⟩]

def long? (level : Level) (name : Text) : Option Switch := level.switches.find? (·.long == name)

def short? (level : Level) (c : Char) : Option Switch := level.switches.find? (·.short == some c)

/-- The argument that stands without a name. -/
def operand? : Level → Option Argument
  | .compile => some .filter
  | _ => none

end Level

end Roster.CommandLine
