import Roster.Text.Basic

/-!
# Names in SQL

A name is a run of letters, digits, underscores and dollar signs that begins with a letter or an underscore. The words that SQL keeps for itself are no names, in any case of their letters. Characters outside ASCII count as letters.
-/

namespace Roster.Sql

open Text

/-- The words that cannot be names. -/
def reserved : List Text :=
  ["ADD", "ALL", "ALTER", "AND", "AS", "AUTOINCREMENT", "BETWEEN", "CASE", "CHECK", "COLLATE", "COMMIT", "CONSTRAINT",
    "CREATE", "CROSS", "DEFAULT", "DEFERRABLE", "DELETE", "DISTINCT", "DROP", "ELSE", "ESCAPE", "EXCEPT", "EXISTS",
    "FOREIGN", "FROM", "FULL", "GROUP", "HAVING", "IN", "INDEX", "INDEXED", "INNER", "INSERT", "INTERSECT", "INTO", "IS",
    "ISNULL", "JOIN", "LEFT", "LIMIT", "NATURAL", "NOT", "NOTHING", "NOTNULL", "NULL", "ON", "OR", "ORDER", "OUTER",
    "PRIMARY", "REFERENCES", "RETURNING", "RIGHT", "SELECT", "SET", "TABLE", "THEN", "TO", "TRANSACTION", "UNION",
    "UNIQUE", "UPDATE", "USING", "VALUES", "WHEN", "WHERE"].map String.toList

/-- A character of a name. A name does not begin with a digit or a dollar sign. -/
def isIdentifierChar (c : Char) : Bool := c.isAlphanum || c == '_' || c == '$' || 127 < c.toNat

def isIdentifier (s : Text) : Bool :=
  s.all isIdentifierChar && s.head?.any (fun c => !c.isDigit && c != '$') && !reserved.any (sameIgnoringCase · s)

/-- Names of values and of hidden columns, and two words that expressions begin with. -/
def specialNames : List Text :=
  ["CAST", "CURRENT_DATE", "CURRENT_TIME", "CURRENT_TIMESTAMP", "FALSE", "OID", "RAISE", "ROWID", "TRUE", "_ROWID_"].map
    String.toList

/-- In an expression the name is that of a column or of nothing. -/
def isColumnIdentifier (s : Text) : Bool := isIdentifier s && !specialNames.any (sameIgnoringCase · s)

/-! ### Numbers -/

def isHexDigit (c : Char) : Bool := c.isDigit || "abcdef".toList.contains c.toLower

/-- A decimal number without a fraction. Its digits may be set apart by underscores. -/
def isDecimal (s : Text) : Bool :=
  match s.dropWhile fun c => c.isDigit || c == '_' with
  | [] => true
  | e :: d :: rest => e.toLower == 'e' && d.isDigit && rest.all fun c => c.isDigit || c == '_'
  | _ => false

/-- A word that begins with a digit is a number. -/
def isNumeral (s : Text) : Bool :=
  match s with
  | '0' :: x :: d :: rest =>
    if x.toLower = 'x' ∧ isHexDigit d = true then rest.all fun c => isHexDigit c || c == '_' else isDecimal s
  | _ => isDecimal s

end Roster.Sql
