import Roster.Text.Basic

/-!
# The lexemes of SQL

A statement is cut into parentheses, commas and words. A word is any run of other characters up to a blank, so operators and placeholders are words too.
-/

namespace Roster.Sql

open Text

inductive Lexeme
  | leftParen
  | rightParen
  | comma
  | word (text : Text)
deriving DecidableEq, Repr

/-- The lexemes of the rest of a text after a word, which is given in reverse and may be empty. -/
def endWord (word : Text) (rest : List Lexeme) : List Lexeme :=
  if word.isEmpty then rest else .word word.reverse :: rest

/-- The lexemes of a text that continues the given word. -/
def lexemesFrom (word : Text) : Text → List Lexeme
  | [] => endWord word []
  | c :: s =>
    if c = ' ' then endWord word (lexemesFrom [] s)
    else if c = '(' then endWord word (.leftParen :: lexemesFrom [] s)
    else if c = ')' then endWord word (.rightParen :: lexemesFrom [] s)
    else if c = ',' then endWord word (.comma :: lexemesFrom [] s)
    else lexemesFrom (c :: word) s

def lexemes (s : Text) : List Lexeme := lexemesFrom [] s

def Lexeme.text : Lexeme → Text
  | .leftParen => ['(']
  | .rightParen => [')']
  | .comma => [',']
  | .word s => s

end Roster.Sql
