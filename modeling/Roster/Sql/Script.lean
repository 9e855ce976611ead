import Roster.Sql.Lexeme
import Roster.Sql.Predicate.Reader

/-!
# Texts of several statements

A text is cut into statements at its semicolons. Comments, which are `-- …` up to the end of a line and `/* … */`, count as blanks. In quotes nothing ends a statement and nothing begins a comment.
-/

namespace Roster.Sql

open Text

/-- Where in a text reading stands. -/
inductive Region
  | code
  /-- In quotes that end at the character. -/
  | quoted (close : Char)
  | lineComment
  | blockComment
deriving DecidableEq, Repr

/-- The region after a character of code. -/
def Region.after (c : Char) : Region :=
  if c = '[' then .quoted ']' else if ['\'', '"', '`'].contains c then .quoted c else .code

/-- The statements of the rest of a text, of which the first continues `done`, which is given in reverse. -/
def statementsFrom : Region → Text → Text → List Text
  | _, done, [] => [done.reverse]
  | .code, done, '-' :: '-' :: s => statementsFrom .lineComment (' ' :: done) s
  | .code, done, '/' :: '*' :: s => statementsFrom .blockComment (' ' :: done) s
  | .code, done, ';' :: s => done.reverse :: statementsFrom .code [] s
  | .code, done, c :: s => statementsFrom (.after c) (c :: done) s
  | .quoted close, done, c :: s => statementsFrom (if c = close then .code else .quoted close) (c :: done) s
  | .lineComment, done, c :: s => statementsFrom (if c = '\n' then .code else .lineComment) done s
  | .blockComment, done, '*' :: '/' :: s => statementsFrom .code done s
  | .blockComment, done, _ :: s => statementsFrom .blockComment done s

def statements (s : Text) : List Text := statementsFrom .code [] s

/-- What is wrong with lexemes that must be the ones expected, in any case. -/
def mismatch? : List Lexeme → List Lexeme → Option Unreadable
  | [], [] => none
  | e :: expected, t :: ts =>
    if sameIgnoringCase e.text t.text then mismatch? expected ts else some (unreadable (t :: ts))
  | _, ts => some (unreadable ts)

end Roster.Sql
