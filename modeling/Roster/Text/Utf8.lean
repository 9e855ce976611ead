import Roster.Text.Basic

/-!
# Bytes as text

Bytes are cut into the characters that they encode in UTF-8 and into runs that encode none. Such a run is as long as the beginning of a character can be, so that the cut does not depend on who reads the bytes.
-/

namespace Roster.Text

def toBytes (s : Text) : List UInt8 := s.flatMap String.utf8EncodeChar

namespace Utf8

inductive Piece
  | char (c : Char)
  /-- Bytes that encode no character. -/
  | broken (size : Nat)
  /-- Bytes at the end that would begin a character. -/
  | unfinished (size : Nat)
deriving DecidableEq, Repr

/-- What the first byte of a character says. -/
structure Lead where
  /-- The part of the code point in the first byte. -/
  bits : Nat
  /-- The number of bytes that follow. -/
  more : Nat
  /-- The least and the greatest byte that may come next. -/
  low : UInt8
  high : UInt8

def lead? (b : UInt8) : Option Lead :=
  if b < 0x80 then some ⟨b.toNat, 0, 0x80, 0xBF⟩
  else if b < 0xC2 then none
  else if b < 0xE0 then some ⟨b.toNat % 32, 1, 0x80, 0xBF⟩
  else if b = 0xE0 then some ⟨b.toNat % 16, 2, 0xA0, 0xBF⟩
  else if b = 0xED then some ⟨b.toNat % 16, 2, 0x80, 0x9F⟩
  else if b < 0xF0 then some ⟨b.toNat % 16, 2, 0x80, 0xBF⟩
  else if b = 0xF0 then some ⟨b.toNat % 8, 3, 0x90, 0xBF⟩
  else if b < 0xF4 then some ⟨b.toNat % 8, 3, 0x80, 0xBF⟩
  else if b = 0xF4 then some ⟨b.toNat % 8, 3, 0x80, 0x8F⟩
  else none

/-- The number of bytes, at most `more`, that may follow in a character, if the first of them must be in a range. -/
def following (more : Nat) (low high : UInt8) : List UInt8 → Nat
  | [] => 0
  | b :: rest =>
    if 0 < more ∧ low ≤ b ∧ b ≤ high then following (more - 1) 0x80 0xBF rest + 1 else 0

def pieces : List UInt8 → List Piece
  | [] => []
  | b :: rest =>
    match lead? b with
    | none => .broken 1 :: pieces rest
    | some lead =>
      let count := following lead.more lead.low lead.high rest
      if count = lead.more then
        .char (Char.ofNat ((rest.take count).foldl (fun n b => n * 64 + b.toNat % 64) lead.bits)) ::
          pieces (rest.drop count)
      else if count = rest.length then [.unfinished (count + 1)]
      else .broken (count + 1) :: pieces (rest.drop count)
termination_by bytes => bytes.length
decreasing_by
  all_goals simp only [List.length_cons, List.length_drop]; omega

/-- What stands in the way of reading bytes as text. -/
structure Fault where
  position : Nat
  /-- The size of the run that encodes no character, if more bytes follow it. -/
  size : Option Nat
deriving DecidableEq, Repr

def Fault.message (f : Fault) : Text :=
  match f.size with
  | some size =>
    "invalid utf-8 sequence of ".toList ++ Nat.toDigits 10 size ++ " bytes from index ".toList ++
      Nat.toDigits 10 f.position
  | none => "incomplete utf-8 byte sequence from index ".toList ++ Nat.toDigits 10 f.position

/-- The text of pieces that stand at a position, if all of them are characters. -/
def readFrom (position : Nat) : List Piece → Except Fault Text
  | [] => .ok []
  | .char c :: rest => (readFrom (position + c.utf8Size) rest).map (c :: ·)
  | .broken size :: _ => .error ⟨position, some size⟩
  | .unfinished _ :: _ => .error ⟨position, none⟩

end Utf8

/-- The text that is encoded by bytes. -/
def ofBytes (bytes : List UInt8) : Except Utf8.Fault Text := Utf8.readFrom 0 (Utf8.pieces bytes)

/-- The text that is encoded by bytes, with U+FFFD in place of each run that encodes no character. -/
def ofBytesLossy (bytes : List UInt8) : Text :=
  (Utf8.pieces bytes).map fun
    | .char c => c
    | _ => Char.ofNat 0xFFFD

end Roster.Text
