import Roster.Files.Disk

/-!
# File trees

A disk that is given as a list of entries: directories, files, and links to directories, each under the names that lead to it from the root. A path is followed name by name, as an operating system does. What is passed on the way must be a directory, and so must what stands before a slash at the end; two dots lead to the directory above the one that was reached, wherever the path came from.
-/

namespace Roster

open Text

inductive Entry
  | directory
  | file (content : Content)
  /-- Another way to the directory with the given names. -/
  | link (target : List Text)

/-- Entries by the names that lead to them. The root is always there. -/
structure Tree where
  entries : List (List Text × Entry)

namespace Tree

def empty : Tree := ⟨[]⟩

def find? (tree : Tree) (names : List Text) : Option Entry :=
  (tree.entries.find? (·.1 == names)).map (·.2)

/-- The names of a path from the root. -/
def names (path : Text) : List Text := (cut (· == '/') path).filter fun name => !name.isEmpty

/-- All directories on the way to the given names, these left out. -/
def parents (names : List Text) : List (List Text) := (List.range names.length).map names.take

/-- The tree with one more entry, and with the directories that lead to it. -/
def add (path : Text) (entry : Entry) (tree : Tree) : Tree :=
  ⟨(names path, entry) :: tree.entries ++ (parents (names path)).map fun above => (above, .directory)⟩

/-- Where following a path has come to. -/
inductive Place
  | directory (names : List Text)
  | file (content : Content)

/-- Takes one step of a path. -/
def walk (tree : Tree) (place : Place) (name : Text) : Option Place :=
  match place with
  | .file _ => none
  | .directory names =>
    if name = [] ∨ name = ['.'] then some (.directory names)
    else if name = ['.', '.'] then some (.directory names.dropLast)
    else
      match tree.find? (names ++ [name]) with
      | some .directory => some (.directory (names ++ [name]))
      | some (.link target) => some (.directory target)
      | some (.file content) => some (.file content)
      | none => none

def Place.item : Place → Item
  | .directory _ => .directory
  | .file content => .file content

/-- The tree as a disk. -/
def disk (tree : Tree) : Disk := fun path =>
  ((cut (· == '/') path).foldlM tree.walk (.directory [])).map Place.item

end Tree

end Roster
