import Roster.Json.Lexeme

/-!
# Documents

A JSON text is read into a tree in which each fault stands at the place where it is met. Nothing after a fault is in the tree, so the first fault that a walk of the tree finds is the first one of the text. What is done with the tree decides which faults matter: a value of the wrong form is refused at its first character, before any fault inside it.
-/

namespace Roster.Json

open Text

inductive Node
  | null
  | bool (value : Bool)
  | string (scalar : Scalar Text)
  | number (scalar : Scalar Number)
  /-- The items of an array, and the fault that ends them unless a bracket does. -/
  | array (items : List Node) (ending : Option Fault)
  /-- The fields of an object, and the fault that ends them unless a brace does. -/
  | object (fields : List (Scalar Text × Node)) (ending : Option Fault)
  /-- There is no value where one should be. -/
  | fault (fault : Fault)

/-- An array or object that is not closed yet. Its items and fields are held in reverse. -/
inductive Frame
  | array (items : List Node)
  | object (fields : List (Scalar Text × Node))
  /-- An object whose last key has no value yet. -/
  | field (fields : List (Scalar Text × Node)) (key : Scalar Text)

/-- What the next lexeme may be. -/
inductive Expect
  | value
  /-- A value or a closing bracket. -/
  | firstItem
  /-- A comma or a closing bracket. -/
  | afterItem
  /-- A key or a closing brace. -/
  | firstKey
  | key
  | colon
  /-- A comma or a closing brace. -/
  | afterField
deriving DecidableEq

/-- The frame with one more value. -/
def Frame.add (v : Node) : Frame → Frame
  | .array items => .array (v :: items)
  | .object fields => .object fields
  | .field fields key => .object ((key, v) :: fields)

/-- What comes after a value of the frame. -/
def Frame.next : Frame → Expect
  | .array _ => .afterItem
  | _ => .afterField

def Frame.close (ending : Option Fault) : Frame → Node
  | .array items => .array items.reverse ending
  | .object fields => .object fields.reverse ending
  | .field fields key => .object ((key, .fault (ending.getD .truncated)) :: fields).reverse ending

/-- The root of the tree in which `v` is the last value of the innermost frame. -/
def root (ending : Option Fault) (v : Node) : List Frame → Node
  | [] => v
  | frame :: outer => root ending ((frame.add v).close ending) outer

/-- The tree of a text that ends in a fault. -/
def abandon (fault : Fault) (expect : Expect) (stack : List Frame) : Node :=
  if expect = .value then root (some fault) (.fault fault) stack
  else match stack with
    | [] => .fault fault
    | frame :: outer => root (some fault) (frame.close (some fault)) outer

/-- The tree that is built so far. -/
inductive Progress
  | finished (root : Node)
  | more (stack : List Frame) (expect : Expect)

/-- Puts a complete value into the innermost frame. -/
def deliver (v : Node) : List Frame → Progress
  | [] => .finished v
  | frame :: outer => .more (frame.add v :: outer) frame.next

/-- Closes the innermost frame. -/
def closeFrame : List Frame → Progress
  | [] => .finished (.fault .malformed)
  | frame :: outer => deliver (frame.close none) outer

/-- The innermost frame now has a key that waits for its value. -/
def setKey (key : Scalar Text) : List Frame → List Frame
  | .object fields :: outer => .field fields key :: outer
  | stack => stack

def step (stack : List Frame) (expect : Expect) (lexeme : Lexeme) : Progress :=
  match expect, lexeme with
  | _, .fault fault => .finished (abandon fault (if expect = .firstItem then .value else expect) stack)
  | .firstItem, .rightBracket => closeFrame stack
  | .value, .null | .firstItem, .null => deliver .null stack
  | .value, .bool b | .firstItem, .bool b => deliver (.bool b) stack
  | .value, .string s | .firstItem, .string s => deliver (.string s) stack
  | .value, .number n | .firstItem, .number n => deliver (.number n) stack
  | .value, .leftBracket | .firstItem, .leftBracket => .more (.array [] :: stack) .firstItem
  | .value, .leftBrace | .firstItem, .leftBrace => .more (.object [] :: stack) .firstKey
  | .value, _ | .firstItem, _ => .finished (abandon .malformed .value stack)
  | .afterItem, .comma => .more stack .value
  | .afterItem, .rightBracket => closeFrame stack
  | .firstKey, .rightBrace => closeFrame stack
  | .firstKey, .string key | .key, .string key => .more (setKey key stack) .colon
  | .colon, .colon => .more stack .value
  | .afterField, .comma => .more stack .key
  | .afterField, .rightBrace => closeFrame stack
  | _, _ => .finished (abandon .malformed expect stack)

/-- The tree, and the lexemes that follow it. -/
def build (stack : List Frame) (expect : Expect) : List Lexeme → Node × List Lexeme
  | [] => (abandon .truncated expect stack, [])
  | lexeme :: rest =>
    match step stack expect lexeme with
    | .finished root => (root, rest)
    | .more stack expect => build stack expect rest

structure Document where
  root : Node
  /-- Something follows the value. -/
  hasMore : Bool

def Document.ofText (s : Text) : Document :=
  let (root, rest) := build [] .value (lexemes s)
  ⟨root, !rest.isEmpty⟩

end Roster.Json
