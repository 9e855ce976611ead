import Roster.Text.Basic

/-!
# SOUNDEX codes

A code is an upper-case letter and three digits. It is computed from the UTF-8 bytes of a text, so a character outside ASCII counts as the bytes that it is made of, each without its highest bit. A text without ASCII letters has the code `?000`.
-/

namespace Roster.Sql

open Text

/-- The class of a letter; zero for vowels and for all that is no letter. -/
def soundClass (c : Char) : Nat :=
  let c := c.toLower
  if "bfpv".toList.contains c then 1
  else if "cgjkqsxz".toList.contains c then 2
  else if "dt".toList.contains c then 3
  else if c = 'l' then 4
  else if "mn".toList.contains c then 5
  else if c = 'r' then 6
  else 0

/-- The class of a byte. -/
def byteClass (b : UInt8) : Nat := soundClass (Char.ofNat (b.toNat % 128))

def isLetterByte (b : UInt8) : Bool := (Char.ofNat b.toNat).isAlpha && b.toNat < 128

/-- At most `room` digits for the bytes that follow one of the class `previous`. -/
def soundDigits (room previous : Nat) : List UInt8 → Text
  | [] => []
  | b :: rest =>
    match room with
    | 0 => []
    | room + 1 =>
      let current := byteClass b
      if current = 0 then soundDigits (room + 1) 0 rest
      else if current = previous then soundDigits (room + 1) previous rest
      else Nat.digitChar current :: soundDigits room current rest

/-- The code of a text. A database takes a null character for the end of the text, which is left out. -/
def soundex (s : Text) : Text :=
  match (s.flatMap String.utf8EncodeChar).dropWhile fun b => !isLetterByte b with
  | [] => "?000".toList
  | b :: rest =>
    let digits := soundDigits 3 (byteClass b) (b :: rest)
    (Char.ofNat b.toNat).toUpper :: digits ++ List.replicate (3 - digits.length) '0'

end Roster.Sql
