import Roster.Json.Value
import Roster.Text.Number

/-!
# The lexemes of a JSON text

A text is cut into punctuation, literals, strings and numbers. Faults are kept as lexemes, at the place where they are met, so that whoever reads the lexemes from left to right meets the first one first.

A string or number may be skipped instead of read, because it belongs to a field that nobody asked for. Skipping is the more lenient: escaped surrogates need not pair up, and a number may have any size.
-/

namespace Roster.Json

open Text

/-- Why a text cannot be read. -/
inductive Fault
  /-- The text ends too early. -/
  | truncated
  /-- The text is not JSON. -/
  | malformed
  /-- The text is JSON, but not of the form that was asked for. -/
  | wrongShape
deriving DecidableEq, Repr

/-- A string or number of a text: what reading it gives, and the fault that skipping it meets. -/
structure Scalar (α : Type) where
  value : Except Fault α
  skipped : Option Fault

inductive Lexeme
  | leftBrace
  | rightBrace
  | leftBracket
  | rightBracket
  | comma
  | colon
  | null
  | bool (value : Bool)
  | string (scalar : Scalar Text)
  | number (scalar : Scalar Number)
  | fault (fault : Fault)

/-- The characters that may stand between lexemes. -/
def isSpace (c : Char) : Bool := [' ', '\n', '\t', '\r'].contains c

/-! ### Strings -/

/-- A piece of a string: a character, or a code unit from a `\u` escape. -/
inductive Piece
  | char (c : Char)
  | unit (code : Nat)

def hexUnit? (a b c d : Char) : Option Nat := do
  let a ← hexDigit? a
  let b ← hexDigit? b
  let c ← hexDigit? c
  let d ← hexDigit? d
  return ((a * 16 + b) * 16 + c) * 16 + d

/-- The character that a backslash and a letter stand for. -/
def unescape? (c : Char) : Option Char :=
  match c with
  | '"' => some '"'
  | '\\' => some '\\'
  | '/' => some '/'
  | 'b' => some (Char.ofNat 8)
  | 'f' => some (Char.ofNat 12)
  | 'n' => some '\n'
  | 'r' => some '\r'
  | 't' => some '\t'
  | _ => none

/-- The inside of a string: its pieces, the fault that ends them unless a quote does, and what follows. -/
structure Inside where
  pieces : List Piece
  ending : Option Fault
  rest : Text

def Inside.push (piece : Piece) (s : Inside) : Inside := { s with pieces := piece :: s.pieces }

def Inside.stop (fault : Fault) : Inside := ⟨[], some fault, []⟩

def inside : Text → Inside
  | [] => .stop .truncated
  | '"' :: s => ⟨[], none, s⟩
  | '\\' :: 'u' :: a :: b :: c :: d :: s =>
    match hexUnit? a b c d with
    | some code => (inside s).push (.unit code)
    | none => .stop .malformed
  | '\\' :: 'u' :: s => .stop (if byteSize s < 4 then .truncated else .malformed)
  | ['\\'] => .stop .truncated
  | '\\' :: c :: s =>
    match unescape? c with
    | some d => (inside s).push (.char d)
    | none => .stop .malformed
  | c :: s => if c.toNat < 32 then .stop .malformed else (inside s).push (.char c)

def isHighSurrogate (code : Nat) : Bool := 0xD800 ≤ code && code < 0xDC00

def isLowSurrogate (code : Nat) : Bool := 0xDC00 ≤ code && code < 0xE000

/-- The text that the pieces make up. Surrogates must come in pairs, the high one first. -/
def assemble (ending : Option Fault) : List Piece → Except Fault Text
  | [] =>
    match ending with
    | none => .ok []
    | some fault => .error fault
  | .char c :: pieces => (assemble ending pieces).map (c :: ·)
  | .unit code :: pieces =>
    if isHighSurrogate code then
      match pieces with
      | [] => .error (ending.getD .malformed)
      | .unit low :: pieces =>
        if isLowSurrogate low then
          (assemble ending pieces).map (Char.ofNat (0x10000 + (code - 0xD800) * 0x400 + (low - 0xDC00)) :: ·)
        else .error .malformed
      | .char _ :: _ => .error .malformed
    else if isLowSurrogate code then .error .malformed
    else (assemble ending pieces).map (Char.ofNat code :: ·)

def Inside.scalar (s : Inside) : Scalar Text := ⟨assemble s.ending s.pieces, s.ending⟩

/-! ### Numbers -/

/-- A number whose text breaks off before the given rest. -/
def brokenNumber (rest : Text) : Scalar Number :=
  ⟨.error (if rest.isEmpty then .truncated else .malformed), some .malformed⟩

/-- The number of decimal digits, none for zero. -/
def magnitude (n : Nat) : Nat := if n = 0 then 0 else (ofNat n).length

/-- The decimal rounds to a finite floating-point number of 64 bits. -/
def Decimal.isFinite (d : Decimal) : Bool :=
  let n := d.mantissa.natAbs
  let bound := Nat.pow 2 1024 - Nat.pow 2 970
  if n = 0 then true
  else if d.exponent + magnitude n < 300 then true
  else if d.exponent + magnitude n > 320 then false
  else if 0 ≤ d.exponent then n * Nat.pow 10 d.exponent.toNat < bound
  else n < bound * Nat.pow 10 (-d.exponent).toNat

/-- The decimal without trailing zeros. -/
def Decimal.reduce (fuel : Nat) (d : Decimal) : Decimal :=
  match fuel with
  | 0 => d
  | fuel + 1 =>
    if d.mantissa % 10 = 0 ∧ d.exponent < 0 then Decimal.reduce fuel ⟨d.mantissa / 10, d.exponent + 1⟩ else d

/-- The number with the given sign, whole digits, and perhaps a fraction and an exponent. -/
def makeNumber (negative : Bool) (whole : Text) (fraction : Option Text) (exponent : Option Int) :
    Except Fault Number :=
  let digits := whole ++ fraction.getD []
  let n := Nat.ofDigitChars 10 digits 0
  let signed : Int := if negative then -n else n
  if fraction.isNone && exponent.isNone && !(negative && n == 0) &&
      decide (Int64.minValue.toInt ≤ signed) && decide (signed < UInt64.size) then .ok (.whole signed)
  else
    let d : Decimal := ⟨signed, exponent.getD 0 - (fraction.getD []).length⟩
    if d.isFinite then .ok (.decimal (d.reduce digits.length)) else .error .malformed

/-- Whether a minus comes next, and what follows the sign. -/
def sign (s : Text) : Bool × Text :=
  match s with
  | '-' :: rest => (true, rest)
  | '+' :: rest => (false, rest)
  | _ => (false, s)

/-- The exponent of a number, if one comes next; the inner value is missing if it has no digits. -/
def exponent? (s : Text) : Option (Option Int) × Text :=
  match s with
  | [] => (none, s)
  | e :: rest =>
    if e = 'e' ∨ e = 'E' then
      let value := (toNat? ((sign rest).2.takeWhile Char.isDigit)).map fun n =>
        if (sign rest).1 then -(n : Int) else n
      (some value, (sign rest).2.dropWhile Char.isDigit)
    else (none, s)

/-- The digits after a point, if a point comes next. -/
def fraction? (s : Text) : Option Text × Text :=
  match s with
  | '.' :: rest => (some (rest.takeWhile Char.isDigit), rest.dropWhile Char.isDigit)
  | _ => (none, s)

/-- The number after its sign, and what follows it. -/
def readNumber (negative : Bool) (s : Text) : Scalar Number × Text :=
  let whole := s.takeWhile Char.isDigit
  let afterWhole := s.dropWhile Char.isDigit
  let (fraction, afterFraction) := fraction? afterWhole
  let (exponent, rest) := exponent? afterFraction
  if whole.isEmpty then (brokenNumber s, [])
  else if whole.head? = some '0' ∧ 1 < whole.length then (⟨.error .malformed, some .malformed⟩, [])
  else if fraction = some [] then (brokenNumber afterFraction, [])
  else if exponent = some none then (brokenNumber rest, [])
  else (⟨makeNumber negative whole fraction (exponent.bind id), none⟩, rest)

/-! ### Lexemes -/

/-- Reads the rest of a literal word. -/
def literal (word : Lexeme) : Text → Text → Lexeme × Text
  | [], s => (word, s)
  | _ :: _, [] => (.fault .truncated, [])
  | c :: cs, d :: s => if c = d then literal word cs s else (.fault .malformed, [])

/-- The lexeme that starts with `c`, which is no space, and what follows it. After a fault nothing follows. -/
def Lexeme.first (c : Char) (s : Text) : Lexeme × Text :=
  match c with
  | '{' => (.leftBrace, s)
  | '}' => (.rightBrace, s)
  | '[' => (.leftBracket, s)
  | ']' => (.rightBracket, s)
  | ',' => (.comma, s)
  | ':' => (.colon, s)
  | 'n' => literal .null "ull".toList s
  | 't' => literal (.bool true) "rue".toList s
  | 'f' => literal (.bool false) "alse".toList s
  | '"' => (.string (inside s).scalar, (inside s).rest)
  | '-' => (readNumber true s).map .number id
  | c => if c.isDigit then (readNumber false (c :: s)).map .number id else (.fault .malformed, [])

theorem length_rest_inside (s : Text) : (inside s).rest.length ≤ s.length := by
  fun_induction inside s <;> simp_all [Inside.stop, Inside.push] <;> omega

private theorem length_dropWhile_digits (s : Text) : (s.dropWhile Char.isDigit).length ≤ s.length :=
  (List.dropWhile_sublist Char.isDigit).length_le

theorem length_sign (s : Text) : (sign s).2.length ≤ s.length := by
  unfold sign
  split <;> simp

theorem length_exponent? (s : Text) : (exponent? s).2.length ≤ s.length := by
  cases s with
  | nil => simp [exponent?]
  | cons e rest =>
    rw [exponent?]
    split
    · exact Nat.le_succ_of_le (Nat.le_trans (length_dropWhile_digits _) (length_sign rest))
    · exact Nat.le_refl _

theorem length_fraction? (s : Text) : (fraction? s).2.length ≤ s.length := by
  unfold fraction?
  split
  · exact Nat.le_succ_of_le (length_dropWhile_digits _)
  · exact Nat.le_refl _

theorem length_readNumber (negative : Bool) (s : Text) :
    (readNumber negative s).2.length ≤ (s.dropWhile Char.isDigit).length := by
  have h := Nat.le_trans (length_exponent? (fraction? (s.dropWhile Char.isDigit)).2)
    (length_fraction? (s.dropWhile Char.isDigit))
  unfold readNumber
  dsimp only
  repeat' split
  all_goals first | exact h | simp

theorem length_literal (word : Lexeme) (cs s : Text) : (literal word cs s).2.length ≤ s.length := by
  fun_induction literal word cs s with
  | case1 s => exact Nat.le_refl s.length
  | case2 c cs => exact Nat.le_refl 0
  | case3 c cs s ih => exact Nat.le_succ_of_le ih
  | case4 c cs d s hne => exact Nat.zero_le _

theorem Lexeme.length_first (c : Char) (s : Text) : (Lexeme.first c s).2.length ≤ s.length := by
  unfold Lexeme.first
  split
  case h_7 | h_8 | h_9 => exact length_literal _ _ _
  case h_10 => exact length_rest_inside s
  case h_11 => exact Nat.le_trans (length_readNumber true s) (length_dropWhile_digits s)
  case h_12 =>
    split
    · rename_i h
      have := length_readNumber false (c :: s)
      rw [List.dropWhile_cons, if_pos h] at this
      exact Nat.le_trans this (length_dropWhile_digits s)
    · simp
  all_goals exact Nat.le_refl _

/-- The lexemes of a text, up to the first fault. -/
def lexemes : Text → List Lexeme
  | [] => []
  | c :: s =>
    if isSpace c then lexemes s
    else
      have : (Lexeme.first c s).2.length < s.length + 1 := Nat.lt_succ_of_le (Lexeme.length_first c s)
      (Lexeme.first c s).1 :: lexemes (Lexeme.first c s).2
termination_by s => s.length

end Roster.Json
