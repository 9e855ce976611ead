import Roster.Text.Basic

/-!
# Paths

Paths are texts with slashes. `~` and `~/…` stand for the home directory, and relative paths start at the working directory. Nothing is resolved or tidied up: dots and repeated slashes stay as they are.
-/

namespace Roster

open Text

/-- The directories that a path may start from; both are absolute. -/
structure Places where
  working : Text
  home : Text
deriving DecidableEq, Repr

namespace Path

def isAbsolute (path : Text) : Bool := path.head? == some '/'

/-- The path taken from `base`. An absolute path stands for itself, and an empty one leaves `base` with a slash at its end. -/
def join (base path : Text) : Text :=
  if isAbsolute path then path
  else if base.isEmpty || base.getLast? == some '/' then base ++ path
  else base ++ '/' :: path

/-- The directories that lead to an absolute path, itself first and the root last. -/
def ancestors (path : Text) : List Text :=
  let names := (cut (· == '/') path).filter fun name => !name.isEmpty
  ((List.range (names.length + 1)).map fun n => '/' :: Text.join ['/'] (names.take n)).reverse

/-- What stands before the last slash, with the slash; a path without slashes has no such part. -/
def directory (path : Text) : Text := (path.reverse.dropWhile (· != '/')).reverse

/-- The path without a leading `~`. -/
def expandHome (home : Text) (path : Text) : Text :=
  match path with
  | [] => ['.']
  | ['~'] => home
  | '~' :: '/' :: rest => join home rest
  | path => path

/-- The absolute form of a path that a user gave. -/
def expand (places : Places) (path : Text) : Text :=
  join places.working (expandHome places.home (trim path))

def urlScheme : Text := "sqlite://".toList

/-- The path and the query of an address, the query with its question mark. -/
def splitQuery (s : Text) : Text × Text := (s.takeWhile (· != '?'), s.dropWhile (· != '?'))

/-- The address of a database with a leading `~` of its path expanded. All other addresses stay as they are. -/
def expandUrl (places : Places) (url : Text) : Text :=
  match urlScheme.isPrefixOf? url with
  | none => url
  | some rest =>
    if rest = ['~'] ∨ ['~', '/'].isPrefixOf rest then
      urlScheme ++ expand places (splitQuery rest).1 ++ (splitQuery rest).2
    else url

end Path

end Roster
