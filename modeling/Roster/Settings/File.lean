import Roster.Records

/-!
# Settings files

A settings file is a JSON object with a section for filters, one for the database and one for pages. Sections and their fields may be left out. Fields outside the sections are kept, so that a user can be told about them.
-/

namespace Roster

open Text
open Json (Fault Node Schema Value)

namespace Settings

structure FilterSection where
  collation : Option Text
  maxLength : Option Nat
deriving DecidableEq, Repr

structure DatabaseSection where
  url : Option Text
deriving DecidableEq, Repr

structure PageSection where
  defaultSize : Option UInt32
  maxSize : Option UInt32
deriving DecidableEq, Repr

structure File where
  filter : Option FilterSection
  database : Option DatabaseSection
  page : Option PageSection
  /-- The fields that mean nothing, in the order in which they first came. -/
  extra : List (Text × Value)

namespace FilterSection

def empty : FilterSection := ⟨none, none⟩

def schema : Schema FilterSection where
  fields :=
    [⟨"collation".toList, fun v s => (v.orNull Node.toText).map fun t => { s with collation := t }, .inObjects⟩,
     ⟨"max_length".toList,
      fun v s => (v.orNull (Node.toNatBelow UInt64.size)).map fun n => { s with maxLength := n }, .inObjects⟩]
  other := Json.skipOther
  allowsArray := true

/-- This section where the other says nothing. -/
def overriddenBy (lower upper : FilterSection) : FilterSection :=
  ⟨upper.collation.or lower.collation, upper.maxLength.or lower.maxLength⟩

end FilterSection

namespace DatabaseSection

def empty : DatabaseSection := ⟨none⟩

def schema : Schema DatabaseSection where
  fields := [⟨"url".toList, fun v s => (v.orNull Node.toText).map fun t => { s with url := t }, .inObjects⟩]
  other := Json.skipOther
  allowsArray := true

def overriddenBy (lower upper : DatabaseSection) : DatabaseSection := ⟨upper.url.or lower.url⟩

end DatabaseSection

namespace PageSection

def empty : PageSection := ⟨none, none⟩

def schema : Schema PageSection where
  fields :=
    [⟨"default_page_size".toList,
      fun v s => (v.orNull Node.toUInt32).map fun n => { s with defaultSize := n }, .inObjects⟩,
     ⟨"max_page_size".toList,
      fun v s => (v.orNull Node.toUInt32).map fun n => { s with maxSize := n }, .inObjects⟩]
  other := Json.skipOther
  allowsArray := true

def overriddenBy (lower upper : PageSection) : PageSection :=
  ⟨upper.defaultSize.or lower.defaultSize, upper.maxSize.or lower.maxSize⟩

end PageSection

namespace File

def empty : File := ⟨none, none, none, []⟩

/-- The levels of arrays and objects that a field without meaning may have. -/
def extraRoom : Nat := 126

def schema : Schema File where
  fields :=
    [⟨"filter".toList,
      fun v f => (v.orNull (FilterSection.schema.read .empty)).map fun s => { f with filter := s }, .inObjects⟩,
     ⟨"database".toList,
      fun v f => (v.orNull (DatabaseSection.schema.read .empty)).map fun s => { f with database := s }, .inObjects⟩,
     ⟨"pagination".toList,
      fun v f => (v.orNull (PageSection.schema.read .empty)).map fun s => { f with page := s }, .inObjects⟩]
  other := fun name v f => (v.toValue extraRoom).map fun value => { f with extra := Json.put name value f.extra }
  allowsArray := false

def ofJson (s : Text) : Except Fault File := schema.readText .empty s

/-- The section of one file over that of another, where there are such sections. -/
def laidOver {σ : Type} (merge : σ → σ → σ) (lower upper : Option σ) : Option σ :=
  match lower, upper with
  | some a, some b => some (merge a b)
  | a, none => a
  | none, b => b

/-- The settings of both files; `upper` wins, field by field. -/
def overriddenBy (lower upper : File) : File where
  filter := laidOver FilterSection.overriddenBy lower.filter upper.filter
  database := laidOver DatabaseSection.overriddenBy lower.database upper.database
  page := laidOver PageSection.overriddenBy lower.page upper.page
  extra := lower.extra ++ upper.extra

end File

end Settings

end Roster
