import Roster.Filter.Columns
import Roster.SortOrder

/-!
# Inspecting filters

A filter can be compiled to be looked at, with a sort order beside it. Its columns are checked only on request; those of the order always are, because they are written into SQL as they are.
-/

namespace Roster

open Text

structure Inspection where
  filter : Filter.Compiled
  /-- The order as SQL. -/
  order : Option Text

namespace Inspection

inductive Error
  | filter (error : Filter.Error)
  | columns (error : Filter.Error)
  | order (error : SortError)
deriving DecidableEq, Repr

/-- What was being done, and why it could not be done. -/
def Error.message : Error → Text
  | .filter e => "Failed to compile filter: ".toList ++ e.message
  | .columns e => "Filter references a column that cannot be filtered: ".toList ++ e.message
  | .order e => "Failed to parse sort order: ".toList ++ e.message

/-- Compiles a filter and a sort order. -/
def compile (options : Filter.Options) (filter : Text) (sort : Option Text) (validate : Bool) :
    Except Error Inspection := do
  let compiled ← (Filter.compile options filter).mapError .filter
  if validate then (compiled.checkColumns Filter.filterable).mapError .columns
  match sort with
  | none => return ⟨compiled, none⟩
  | some sort =>
    let order ← (SortOrder.parse SortOrder.sortable sort).mapError .order
    return ⟨compiled, order.toSql?⟩

end Inspection

end Roster
