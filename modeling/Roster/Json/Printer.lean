import Roster.Json.Value
import Roster.Text.Number

/-!
# Printing JSON

A value is printed without any blanks, or over several lines with two blanks for each level. In a string only quotes, backslashes and the control characters below U+0020 are escaped.
-/

namespace Roster.Json

open Text

/-- A character as it stands inside a string. -/
def escape (c : Char) : Text :=
  if c = '"' then ['\\', '"']
  else if c = '\\' then ['\\', '\\']
  else if c = '\n' then ['\\', 'n']
  else if c = '\r' then ['\\', 'r']
  else if c = '\t' then ['\\', 't']
  else if c.toNat = 8 then ['\\', 'b']
  else if c.toNat = 12 then ['\\', 'f']
  else if c.toNat < 32 then
    "\\u00".toList ++ [Nat.digitChar (c.toNat / 16), Nat.digitChar (c.toNat % 16)]
  else [c]

def quote (s : Text) : Text := '"' :: s.flatMap escape ++ ['"']

def Number.render : Number → Text
  | .whole n => ofInt n
  | .decimal d => ofInt d.mantissa ++ 'e' :: ofInt d.exponent

/-! ### On one line -/

mutual

def compact : Value → Text
  | .null => "null".toList
  | .bool true => "true".toList
  | .bool false => "false".toList
  | .number n => n.render
  | .string s => quote s
  | .array items => '[' :: compactItems items ++ [']']
  | .object fields => '{' :: compactFields fields ++ ['}']

def compactItems : List Value → Text
  | [] => []
  | [v] => compact v
  | v :: w :: rest => compact v ++ ',' :: compactItems (w :: rest)

def compactFields : List (Text × Value) → Text
  | [] => []
  | [(k, v)] => quote k ++ ':' :: compact v
  | (k, v) :: f :: rest => quote k ++ ':' :: compact v ++ ',' :: compactFields (f :: rest)

end

/-! ### Over several lines -/

/-- A new line of the given depth. -/
def newline (depth : Nat) : Text := '\n' :: List.replicate (2 * depth) ' '

mutual

/-- A value whose own line has the given depth. -/
def pretty (depth : Nat) : Value → Text
  | .null => "null".toList
  | .bool true => "true".toList
  | .bool false => "false".toList
  | .number n => n.render
  | .string s => quote s
  | .array [] => "[]".toList
  | .array (v :: rest) => '[' :: prettyItems (depth + 1) (v :: rest) ++ newline depth ++ [']']
  | .object [] => ['{', '}']
  | .object (f :: rest) => '{' :: prettyFields (depth + 1) (f :: rest) ++ newline depth ++ ['}']

def prettyItems (depth : Nat) : List Value → Text
  | [] => []
  | [v] => newline depth ++ pretty depth v
  | v :: w :: rest => newline depth ++ pretty depth v ++ ',' :: prettyItems depth (w :: rest)

def prettyFields (depth : Nat) : List (Text × Value) → Text
  | [] => []
  | [(k, v)] => newline depth ++ quote k ++ ": ".toList ++ pretty depth v
  | (k, v) :: f :: rest =>
    newline depth ++ quote k ++ ": ".toList ++ pretty depth v ++ ',' :: prettyFields depth (f :: rest)

end

end Roster.Json
