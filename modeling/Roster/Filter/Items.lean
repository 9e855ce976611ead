import Roster.Filter.Literal
import Roster.Filter.Token

/-!
# List items

The inside of a bracketed list: items between commas, each a quoted run or a word. Commas and brackets inside quoted runs are text. The items are read from left to right, and the first fault is reported.
-/

namespace Roster.Filter

open Text

inductive ListFault
  | empty
  | nestedBrackets
  | unterminatedString
  | emptyItem
  /-- An item that is neither one quoted run nor one word; it is given without the blanks around it. -/
  | malformedItem (item : Text)
  /-- The operator compares with one value. -/
  | notTaken (symbol : Text)
deriving DecidableEq, Repr

def ListFault.message : ListFault → Text
  | .empty => "list is empty".toList
  | .nestedBrackets => "nested brackets are not allowed".toList
  | .unterminatedString => "unterminated string in list".toList
  | .emptyItem => "empty list item".toList
  | .malformedItem item => "malformed list item '".toList ++ item ++ ['\'']
  | .notTaken symbol => "operator '".toList ++ symbol ++ "' does not take a list".toList

namespace Items

/-- The value of the text between two commas. -/
def item (piece : Text) : Except ListFault Literal :=
  match trim piece with
  | [] => .error .emptyItem
  | c :: s =>
    if isQuote c then
      match untilQuote c s with
      | some (text, []) => .ok (.str text)
      | _ => .error (.malformedItem (c :: s))
    else if (c :: s).any fun d => isQuote d || isBlank d then .error (.malformedItem (c :: s))
    else .ok (.ofWord (c :: s))

/-- The items from the middle of a list on: `run` is the quoted run that is open, and `piece` what was read of the current item, in reverse. -/
def readFrom (run : Option Char) (piece : Text) : Text → Except ListFault (List Literal)
  | [] => if run.isSome then .error .unterminatedString else (item piece.reverse).map ([·])
  | c :: s =>
    if run.isNone && c == ',' then
      match item piece.reverse with
      | .error fault => .error fault
      | .ok value => (readFrom none [] s).map (value :: ·)
    else if run.isNone && (c == '[' || c == ']') then .error .nestedBrackets
    else readFrom (quoteAfter run c) (c :: piece) s

/-- The values of a list, given the raw text between its brackets. -/
def read (raw : Text) : Except ListFault (List Literal) :=
  if (trim raw).isEmpty then .error .empty else readFrom none [] raw

end Items

end Roster.Filter
