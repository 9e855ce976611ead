import Roster.CommandLine.Level

/-!
# Reading arguments

The arguments are read one word at a time. What a switch says is settled late: a value that is a word of its own is looked at when the next switch or the next plain word comes, and a command's own switches when the commands within it have been read to the end. So of several mistakes it is not always the first that is told.
-/

namespace Roster.CommandLine

open Text

/-- A switch or plain word that is not settled yet. -/
structure Pending where
  argument : Argument
  form : Form
  /-- What was given; nothing if the value must still come. -/
  value : Option Text
deriving DecidableEq, Repr

/-- A level that has been entered, and what was given there. -/
structure Entered where
  level : Level
  /-- What has been settled, last first. A switch without a value stands with an empty text. -/
  given : List (Argument × Text)
  pending : Option Pending
  /-- Two dashes have been read, so that all further words are plain. -/
  plainOnly : Bool
  /-- The place of the operand has been filled. -/
  operandTaken : Bool
deriving DecidableEq, Repr

namespace Entered

def enter (level : Level) : Entered := ⟨level, [], none, false, false⟩

def value? (e : Entered) (argument : Argument) : Option Text := e.given.lookup argument

def has (e : Entered) (argument : Argument) : Bool := (e.value? argument).isSome

/-! ### Settling -/

/-- Takes note of an argument, once. -/
def note (e : Entered) (argument : Argument) (value : Text) : Except Refusal Entered :=
  if e.has argument then .error .repeated else .ok { e with given := (argument, value) :: e.given }

/-- Takes note of an argument with a value. -/
def noteValue (e : Entered) (argument : Argument) (form : Form) (value : Text) : Except Refusal Entered := do
  let e ← e.note argument value
  form.check value
  return e

/-- Settles what is pending. -/
def settle (e : Entered) : Except Refusal Entered :=
  match e.pending with
  | none => .ok e
  | some ⟨_, _, none⟩ => .error .invalidValue
  | some ⟨argument, form, some value⟩ => ({ e with pending := none } : Entered).noteValue argument form value

/-! ### Switches -/

/-- Follows a switch, which comes with a value, or takes none, or has it in the next word. -/
def follow (e : Entered) (effect : Effect) (value : Option Text) : Except Refusal Entered := do
  let e ← e.settle
  match effect, value with
  | .help, _ => .error .displayHelp
  | .version, _ => .error .displayVersion
  | .states argument, _ => e.note argument []
  | .takes argument form, some value => e.noteValue argument form value
  | .takes argument form, none => return { e with pending := some ⟨argument, form, none⟩ }

/-- Reads a switch of a whole word, given without its dashes. The value may follow an equals sign. -/
def readLong (e : Entered) (s : Text) : Except Refusal Entered :=
  let name := s.takeWhile (· != '=')
  let value := (s.dropWhile (· != '=')).tail?
  match e.level.long? name with
  | none => .error .unknownArgument
  | some switch =>
    if value.isSome && !switch.effect.takesValue then .error .needlessValue
    else e.follow switch.effect value

/-- The value that stands in one word with the letter of its switch; an equals sign before it is dropped. -/
def attached : Text → Option Text
  | [] => none
  | '=' :: value => some value
  | value => some value

/-- Reads a run of letters, each a switch of its own. The rest of the run is the value of a switch that takes one. -/
def readShort (e : Entered) : Text → Except Refusal Entered
  | [] => .ok e
  | c :: rest =>
    match e.level.short? c with
    | none => .error .unknownArgument
    | some switch =>
      if switch.effect.takesValue then e.follow switch.effect (attached rest)
      else do readShort (← e.follow switch.effect none) rest

/-! ### Words -/

/-- Reads a word that has no place among the switches. -/
def readOperand (e : Entered) (word : Text) : Except Refusal Entered :=
  match e.level.operand?, e.operandTaken with
  | some argument, false => do
    let e ← e.settle
    return { e with pending := some ⟨argument, .text, some word⟩, operandTaken := true }
  | _, _ =>
    if e.level.commands.isEmpty || e.plainOnly && (e.level.command? word).isSome then .error .unknownArgument
    else .error .unknownCommand

/-- Reads a word that is no switch: the value that is waited for, or an operand. -/
def readPlain (e : Entered) (word : Text) : Except Refusal Entered :=
  match e.pending with
  | some ⟨argument, form, none⟩ => .ok { e with pending := some ⟨argument, form, some word⟩ }
  | _ => e.readOperand word

/-- Reads a word that is not the name of a command. -/
def read (e : Entered) (word : Text) : Except Refusal Entered :=
  if e.plainOnly then e.readOperand word
  else
    match word with
    | ['-', '-'] => .ok { e with plainOnly := true }
    | '-' :: '-' :: s => e.readLong s
    | '-' :: c :: s => e.readShort (c :: s)
    | word => e.readPlain word

/-- The value of a switch must come next. -/
def isWaiting (e : Entered) : Bool :=
  match e.pending with
  | some ⟨_, _, none⟩ => true
  | _ => false

/-- The command that a word names here, where a command may stand. -/
def command? (e : Entered) (word : Text) : Option Level :=
  if e.plainOnly || e.isWaiting then none else e.level.command? word

end Entered

/-! ### All words -/

/-- How far the arguments have been read. -/
inductive Progress
  /-- Arguments of a level are read; the levels around it are still to be settled, innermost first. -/
  | reading (current : Entered) (outer : List Entered)
  /-- The level is the one to be explained. -/
  | explaining (level : Level)
deriving DecidableEq, Repr

namespace Progress

def start : Progress := .reading (.enter .program) []

def step (progress : Progress) (word : Text) : Except Refusal Progress :=
  match progress with
  | .explaining level =>
    match level.command? word with
    | some next => .ok (.explaining next)
    | none => .error .unknownCommand
  | .reading current outer =>
    match current.command? word with
    | some .help => .ok (.explaining current.level)
    | some next => .ok (.reading (.enter next) (current :: outer))
    | none => do return .reading (← current.read word) outer

end Progress

end Roster.CommandLine
