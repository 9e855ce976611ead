import Roster.Filter.Literal
import Roster.Sql.Predicate

/-!
# Operators

Every filter symbol stands for a rule: how the comparison is written in SQL and how its value is prepared. Several symbols may share a rule.
-/

namespace Roster

open Text

namespace Filter

/-- Where a LIKE pattern looks for its text. -/
inductive Place
  | start
  | anywhere
deriving DecidableEq, Repr

inductive Rule
  | relation (relation : Relation)
  | like (negated : Bool) (place : Place)
  /-- Equality of SOUNDEX codes. -/
  | phonetic (negated : Bool)
  /-- Membership in a list of values. -/
  | member (negated : Bool)
  | connective (connective : Connective)
deriving DecidableEq, Repr

namespace Rule

def keyword : Rule → Text
  | .relation r => r.keyword
  | .like false _ => "LIKE".toList
  | .like true _ => "NOT LIKE".toList
  | .phonetic false => Relation.eq.keyword
  | .phonetic true => Relation.ne.keyword
  | .member false => "IN".toList
  | .member true => "NOT IN".toList
  | .connective c => c.keyword

/-- The value that is bound for a literal: LIKE patterns gain wildcards. -/
def prepare : Rule → Literal → Literal
  | .like _ .start, value => .str (value.asText ++ ['%'])
  | .like _ .anywhere, value => .str ('%' :: value.asText ++ ['%'])
  | _, value => value

/-- The comparison of a column with values that are already bound to placeholders. -/
def render (rule : Rule) (column : Text) (placeholders : List Text) (collation : Text) : Text :=
  let value := placeholders.head?.getD []
  match rule with
  | .relation _ => column ++ ' ' :: rule.keyword ++ ' ' :: value
  | .like _ _ => column ++ ' ' :: rule.keyword ++ ' ' :: value ++ " COLLATE ".toList ++ collation
  | .phonetic _ =>
    "SOUNDEX(".toList ++ column ++ ") ".toList ++ rule.keyword ++ " SOUNDEX(".toList ++ value ++ [')']
  | .member _ => column ++ ' ' :: rule.keyword ++ " (".toList ++ join ", ".toList placeholders ++ [')']
  | .connective _ => rule.keyword

def takesList : Rule → Bool
  | .member _ => true
  | _ => false

/-- The connective of a rule that joins conditions. -/
def connective? : Rule → Option Connective
  | .connective c => some c
  | _ => none

end Rule

structure Operator where
  symbol : Text
  rule : Rule
deriving DecidableEq, Repr

namespace Operator

/-- All operators, in the order in which they are listed to users. -/
def all : List Operator :=
  [⟨"==".toList, .relation .eq⟩,
   ⟨"!=".toList, .relation .ne⟩,
   ⟨">=".toList, .relation .ge⟩,
   ⟨"<=".toList, .relation .le⟩,
   ⟨">".toList, .relation .gt⟩,
   ⟨"<".toList, .relation .lt⟩,
   ⟨"_=".toList, .like false .start⟩,
   ⟨"!_=".toList, .like true .start⟩,
   ⟨"_-=".toList, .like false .anywhere⟩,
   ⟨"!_-=".toList, .like true .anywhere⟩,
   ⟨"@=".toList, .like false .anywhere⟩,
   ⟨"!@=".toList, .like true .anywhere⟩,
   ⟨"~~".toList, .phonetic false⟩,
   ⟨"!~~".toList, .phonetic true⟩,
   ⟨"^$".toList, .member false⟩,
   ⟨"!^$".toList, .member true⟩,
   ⟨"^^".toList, .member false⟩,
   ⟨"!^^".toList, .member true⟩,
   ⟨"&&".toList, .connective .and⟩,
   ⟨"||".toList, .connective .or⟩]

def find? (symbol : Text) : Option Operator := all.find? (·.symbol == symbol)

theorem symbol_of_find? {symbol : Text} {op : Operator} (h : find? symbol = some op) : op.symbol = symbol := by
  simpa using List.find?_some h

theorem mem_all_of_find? {symbol : Text} {op : Operator} (h : find? symbol = some op) : op ∈ all :=
  List.mem_of_find?_eq_some h

end Operator

end Filter

end Roster
