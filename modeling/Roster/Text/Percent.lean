import Roster.Text.Number
import Roster.Text.Utf8

/-!
# Percent signs

In an address a percent sign and two hexadecimal digits stand for a byte. A query is a list of names and values, as web forms send them.
-/

namespace Roster.Text

/-- The bytes of a text with percent signs. A sign without its two digits stands for itself. -/
def percentDecode : List UInt8 → List UInt8
  | [] => []
  | [a] => [a]
  | [a, b] => [a, b]
  | a :: b :: c :: rest =>
    match hexDigit? (Char.ofNat b.toNat), hexDigit? (Char.ofNat c.toNat) with
    | some high, some low =>
      if a = 37 then UInt8.ofNat (16 * high + low) :: percentDecode rest else a :: percentDecode (b :: c :: rest)
    | _, _ => a :: percentDecode (b :: c :: rest)

/-- A name or a value of a query, in which a plus sign is a blank. -/
def formDecode (s : Text) : Text :=
  ofBytesLossy (percentDecode (toBytes (s.map fun c => if c = '+' then ' ' else c)))

/-- The names and values of a query. -/
def formFields (s : Text) : List (Text × Text) :=
  ((cut (· == '&') s).filter fun field => !field.isEmpty).map fun field =>
    (formDecode (field.takeWhile (· != '=')), formDecode ((field.dropWhile (· != '=')).drop 1))

end Roster.Text
