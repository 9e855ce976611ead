import Roster.Environment.Basic
import Roster.Files.Disk
import Roster.Text.Utf8

/-!
# Files of variables

A file named `.env` sets variables, one in a line: `NAME=value`, perhaps after the word `export`. Values may be quoted, and then go on over several lines; `$NAME` and `${NAME}` stand for variables outside single quotes, and a number sign after a blank begins a comment. The first faulty line ends the file: what stands before it is in force.
-/

namespace Roster.Environment

open Text

/-! ### Lines -/

/-- Where in a line a reader stands. -/
inductive Spot
  | word
  | blank
  | escape
  | weak
  | weakEscape
  | strong
  | strongEscape
deriving DecidableEq, Repr

/-- The spot after one more character; there is none after the sign that begins a comment. -/
def Spot.after (spot : Spot) (c : Char) : Option Spot :=
  let fresh : Spot :=
    if c = '\\' then .escape else if c = '"' then .weak else if c = '\'' then .strong else .word
  match spot with
  | .word => some (if isBlank c && c != '\n' && c != '\r' then .blank else fresh)
  | .blank => if c = '#' then none else some fresh
  | .escape => some .word
  | .weak => some (if c = '\\' then .weakEscape else if c = '"' then .word else .weak)
  | .weakEscape => some .weak
  | .strong => some (if c = '\\' then .strongEscape else if c = '\'' then .word else .strong)
  | .strongEscape => some .strong

/-- The spot at the end of a line, or the text that a comment cuts short. -/
def Spot.afterAll (spot : Spot) : Text → Text ⊕ Spot
  | [] => .inr spot
  | c :: rest =>
    match spot.after c with
    | none => .inl []
    | some next =>
      match next.afterAll rest with
      | .inl before => .inl (c :: before)
      | .inr last => .inr last

/-- The lines of a file, each with the newline that ends it. -/
def byteLines : List UInt8 → List (List UInt8)
  | [] => []
  | b :: rest =>
    if b = 10 then [b] :: byteLines rest
    else match byteLines rest with
      | [] => [[b]]
      | line :: lines => (b :: line) :: lines

/-- The lines that stand before the first one that is not UTF-8. -/
def readable : List (List UInt8) → List Text
  | [] => []
  | line :: rest =>
    match ofBytes line with
    | .ok s => s :: readable rest
    | .error _ => []

/-- A line without the newline at its end. -/
def dropNewline (line : Text) : Text :=
  match line.reverse with
  | '\n' :: '\r' :: rest => rest.reverse
  | '\n' :: rest => rest.reverse
  | _ => line

/-- Joins the lines that belong together, given what has been joined so far. What is still open at the end is dropped. -/
def logicalLines (sofar : Text) (spot : Spot) : List Text → List Text
  | [] => []
  | line :: rest =>
    if sofar.isEmpty && (trimStart line).head? == some '#' then logicalLines [] .word rest
    else
      match spot.afterAll line with
      | .inl before => (sofar ++ before) :: logicalLines [] .word rest
      | .inr .word => (sofar ++ dropNewline line) :: logicalLines [] .word rest
      | .inr next => logicalLines (sofar ++ line) next rest

/-! ### Values -/

/-- How the next character of a value is to be taken; a flag says whether the place is in double quotes. -/
inductive Mode
  | plain (quoted : Bool)
  | strong
  | escape (quoted : Bool)
  /-- After a dollar sign, with the name so far. -/
  | name (quoted : Bool) (name : Text)
  /-- After a dollar sign and a brace, with the name so far. -/
  | braced (quoted : Bool) (name : Text)
  /-- After the value. -/
  | done
deriving DecidableEq, Repr

/-- The character that is meant by one after a backslash. -/
def escaped? (c : Char) : Option Char :=
  if c = 'n' then some '\n' else if ['\\', '\'', '"', '$', ' '].contains c then some c else none

/-- Reads a value. -/
def readValue (environment : Environment) : Mode → Text → Option Text
  | .plain false, [] => some []
  | .escape false, [] => some []
  | .name false name, [] => some ((environment name).getD [])
  | .done, [] => some []
  | _, [] => none
  | .plain quoted, c :: rest =>
    if c = '$' then readValue environment (.name quoted []) rest
    else if c = '"' then readValue environment (.plain !quoted) rest
    else if c = '\\' then readValue environment (.escape quoted) rest
    else if c = '\'' && !quoted then readValue environment .strong rest
    else if (c = ' ' || c = '\t') && !quoted then readValue environment .done rest
    else (readValue environment (.plain quoted) rest).map (c :: ·)
  | .strong, c :: rest =>
    if c = '\'' then readValue environment (.plain false) rest
    else (readValue environment .strong rest).map (c :: ·)
  | .escape quoted, c :: rest => do
    let meant ← escaped? c
    return meant :: (← readValue environment (.plain quoted) rest)
  | .name quoted name, c :: rest =>
    if isAlphanumeric c then readValue environment (.name quoted (name ++ [c])) rest
    else if c = '{' ∧ name = [] then readValue environment (.braced quoted []) rest
    else
      let value := (environment name).getD []
      if c = '$' then (readValue environment (.name quoted []) rest).map (value ++ ·)
      else (readValue environment (.plain quoted) rest).map fun s => value ++ c :: s
  | .braced quoted name, c :: rest =>
    if c = '}' then (readValue environment (.plain quoted) rest).map ((environment name).getD [] ++ ·)
    else readValue environment (.braced quoted (name ++ [c])) rest
  | .done, c :: rest =>
    if c = '#' then some [] else if c = ' ' || c = '\t' then readValue environment .done rest else none

/-! ### Assignments -/

/-- A name and what follows it. -/
def readName (s : Text) : Option (Text × Text) :=
  match s with
  | c :: _ =>
    if c.isAlpha || c == '_' then
      some (s.span fun c => c.isAlphanum || c == '_' || c == '.')
    else none
  | [] => none

/-- What follows an equals sign, perhaps after blanks. -/
def afterEquals? (s : Text) : Option Text :=
  match trimStart s with
  | '=' :: rest => some (trimStart rest)
  | _ => none

/-- The name that a line sets and the text of its value. The word `export` may be the name or stand before it. -/
def readTarget (s : Text) : Option (Text × Text) := do
  let (name, rest) ← readName s
  match afterEquals? rest with
  | some value => return (name, value)
  | none =>
    if name = "export".toList then
      let (name, rest) ← readName (trimStart rest)
      return (name, ← afterEquals? rest)
    else none

inductive Assignment
  | blank
  | sets (name value : Text)
  | faulty
deriving DecidableEq, Repr

/-- There is nothing, or a comment. -/
def isVoid (s : Text) : Bool := s.isEmpty || s.head? == some '#'

def readLine (environment : Environment) (line : Text) : Assignment :=
  let s := trim line
  if isVoid s then .blank
  else
    match readTarget s with
    | none => .faulty
    | some (name, value) =>
      if isVoid value then .sets name []
      else match readValue environment (.plain false) value with
        | some value => .sets name value
        | none => .faulty

/-- The environment with the variables of some lines. -/
def readLines (environment : Environment) : List Text → Environment
  | [] => environment
  | line :: rest =>
    match readLine environment line with
    | .blank => readLines environment rest
    | .sets name value => readLines (environment.provide name value) rest
    | .faulty => environment

/-! ### Files -/

def fileName : Text := ".env".toList

/-- The bytes that may stand before the text of a file. -/
def mark : List UInt8 := [0xEF, 0xBB, 0xBF]

/-- The environment with the variables of a file. -/
def readFile (environment : Environment) (data : List UInt8) : Environment :=
  let data := if mark.isPrefixOf data then data.drop mark.length else data
  readLines environment (logicalLines [] .word (readable (byteLines data)))

/-- The bytes of the nearest file, looked for in the directories from the working directory upwards. -/
def nearest? (disk : Disk) (directories : List Text) : Option (List UInt8) :=
  directories.findSome? fun directory =>
    match disk (Path.join directory fileName) with
    | some (.file (.bytes data)) => some data
    | _ => none

/-- All texts in a file that may be names of variables. -/
def mentioned (s : Text) : List Text :=
  let signs := ['$', '{', '}', '=', ' ', '\t', '\n', '\r']
  (cut (fun c => !isAlphanumeric c) s ++ cut signs.contains s).filter fun name => !name.isEmpty

/-- The environment with the variables of the nearest file, if there is one. -/
def load (disk : Disk) (directories : List Text) (environment : Environment) : Environment :=
  match nearest? disk directories with
  | some data => environment.readFile data
  | none => environment

end Roster.Environment
