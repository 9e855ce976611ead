import Roster.Json.Document

/-!
# Reading records from documents

A record is an object with known fields. It may also be written as the array of its fields in their order. Unknown fields are skipped unless the record collects them, and a known field may be given only once. The document is walked from left to right, and the first fault met is the answer; only then is it asked whether fields are missing and whether something follows the value.
-/

namespace Roster.Json

open Text

/-! ### Skipping a value -/

mutual

/-- The first fault that skipping a value meets. -/
def Node.skip : Node → Option Fault
  | .null => none
  | .bool _ => none
  | .string s => s.skipped
  | .number n => n.skipped
  | .array items ending => (skipItems items).or ending
  | .object fields ending => (skipFields fields).or ending
  | .fault f => some f

def skipItems : List Node → Option Fault
  | [] => none
  | v :: rest => v.skip.or (skipItems rest)

def skipFields : List (Scalar Text × Node) → Option Fault
  | [] => none
  | (key, v) :: rest => key.skipped.or (v.skip.or (skipFields rest))

end

/-! ### Values of any form -/

/-- The value, unless a fault ends it. -/
def endingIn {α : Type} (ending : Option Fault) (value : α) : Except Fault α :=
  match ending with
  | none => .ok value
  | some fault => .error fault

mutual

/-- A value with at most `room` levels of arrays and objects. -/
def Node.toValue (room : Nat) : Node → Except Fault Value
  | .null => .ok .null
  | .bool b => .ok (.bool b)
  | .string s => s.value.map .string
  | .number n => n.value.map .number
  | .array items ending =>
    if room = 0 then .error .malformed
    else do
      let items ← toItems (room - 1) items
      endingIn ending (.array items)
  | .object fields ending =>
    if room = 0 then .error .malformed
    else do
      let fields ← toFields (room - 1) [] fields
      endingIn ending (.object fields)
  | .fault f => .error f

def toItems (room : Nat) : List Node → Except Fault (List Value)
  | [] => .ok []
  | v :: rest => do
    let value ← v.toValue room
    let values ← toItems room rest
    return value :: values

/-- The fields, put one after another to those already read. -/
def toFields (room : Nat) (done : List (Text × Value)) :
    List (Scalar Text × Node) → Except Fault (List (Text × Value))
  | [] => .ok done
  | (key, v) :: rest => do
    let name ← key.value
    let value ← v.toValue room
    toFields room (put name value done) rest

end

/-! ### Values of one form -/

/-- The fault of a value that is of another form than the one asked for. A string or number is read before it is refused. -/
def Node.mismatch {α : Type} : Node → Except Fault α
  | .string s => s.value.bind fun _ => .error .wrongShape
  | .number n => n.value.bind fun _ => .error .wrongShape
  | .fault f => .error f
  | _ => .error .wrongShape

def Node.toText : Node → Except Fault Text
  | .string s => s.value
  | v => v.mismatch

def Node.toBool : Node → Except Fault Bool
  | .bool b => .ok b
  | v => v.mismatch

/-- A whole number below `bound`. -/
def Node.toNatBelow (bound : Nat) : Node → Except Fault Nat
  | .number n => do
    match ← n.value with
    | .whole k => if 0 ≤ k ∧ k < bound then .ok k.toNat else .error .wrongShape
    | .decimal _ => .error .wrongShape
  | v => v.mismatch

/-- The value, or nothing for null. -/
def Node.orNull {α : Type} (read : Node → Except Fault α) : Node → Except Fault (Option α)
  | .null => .ok none
  | v => (read v).map some

/-! ### Records -/

/-- Where a field may be left out. -/
inductive Absence
  | nowhere
  | inObjects
  | anywhere
deriving DecidableEq

/-- A field of a record that is read into a state of type `σ`. -/
structure Field (σ : Type) where
  name : Text
  read : Node → σ → Except Fault σ
  absence : Absence

/-- The form of a record: its fields in order, and what becomes of others. -/
structure Schema (σ : Type) where
  fields : List (Field σ)
  other : Text → Node → σ → Except Fault σ
  /-- The record may be written as an array. -/
  allowsArray : Bool

/-- Unknown fields are skipped. -/
def skipOther {σ : Type} (_ : Text) (v : Node) (state : σ) : Except Fault σ := endingIn v.skip state

variable {σ : Type}

namespace Schema

/-- Reads the fields of an object; `seen` are the known fields that came already. -/
def readObject (schema : Schema σ) (ending : Option Fault) (seen : List Text) (state : σ) :
    List (Scalar Text × Node) → Except Fault σ
  | [] => do
    let state ← endingIn ending state
    if schema.fields.all fun f => f.absence != .nowhere || seen.contains f.name then .ok state
    else .error .wrongShape
  | (key, v) :: rest => do
    let name ← key.value
    match schema.fields.find? (·.name == name) with
    | none =>
      let state ← schema.other name v state
      readObject schema ending seen state rest
    | some field =>
      if seen.contains name then .error .wrongShape
      else
        let state ← field.read v state
        readObject schema ending (name :: seen) state rest

/-- Reads the items of an array into the fields in their order. -/
def readArray (ending : Option Fault) (state : σ) : List (Field σ) → List Node → Except Fault σ
  | [], [] => endingIn ending state
  | [], _ :: _ => .error .malformed
  | fields, [] => do
    let state ← endingIn ending state
    if fields.all fun f => f.absence == .anywhere then .ok state else .error .wrongShape
  | field :: fields, v :: rest => do
    let state ← field.read v state
    readArray ending state fields rest

def read (schema : Schema σ) (initial : σ) : Node → Except Fault σ
  | .object fields ending => schema.readObject ending [] initial fields
  | .array items ending =>
    if schema.allowsArray then readArray ending initial schema.fields items else .error .wrongShape
  | v => v.mismatch

/-- Reads a text that is one record and nothing else. -/
def readText (schema : Schema σ) (initial : σ) (s : Text) : Except Fault σ := do
  let document := Document.ofText s
  let state ← schema.read initial document.root
  if document.hasMore then .error .malformed else .ok state

end Schema

end Roster.Json
