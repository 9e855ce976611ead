import Roster.Filter.Items

/-!
# Filter errors

What can be wrong with a filter, and the words in which it is told.
-/

namespace Roster.Filter

open Text

inductive ParseError
  | unknownOperator (symbol : Text) (position : Nat)
  | unexpectedEnd
  /-- A parenthesis without its partner, or one in the place of a value. -/
  | unbalancedParens (position : Nat)
  | invalidList (position : Nat) (fault : ListFault)
  | unexpectedToken (token : Token) (position : Nat)
deriving DecidableEq, Repr

private def atOffset (position : Nat) : Text := " at offset ".toList ++ ofNat position

def ParseError.message : ParseError → Text
  | .unknownOperator symbol position =>
    "Unknown operator '".toList ++ symbol ++ '\'' :: atOffset position
  | .unexpectedEnd => "Unexpected end of input".toList
  | .unbalancedParens position => "Unbalanced parentheses".toList ++ atOffset position
  | .invalidList position fault =>
    "Invalid list literal".toList ++ atOffset position ++ ": ".toList ++ fault.message
  | .unexpectedToken token position =>
    "Unexpected token '".toList ++ token.display ++ '\'' :: atOffset position

inductive Error
  /-- The filter has more bytes than allowed. -/
  | tooLong (length maximum : Nat)
  | scan (error : ScanError)
  | parse (error : ParseError)
  | columnNotAllowed (column : Text)
deriving DecidableEq, Repr

def Error.message : Error → Text
  | .tooLong length maximum =>
    "Filter is ".toList ++ ofNat length ++ " bytes, maximum is ".toList ++ ofNat maximum
  | .scan error => error.message
  | .parse error => error.message
  | .columnNotAllowed column => "Cannot filter by column: ".toList ++ column

end Roster.Filter
