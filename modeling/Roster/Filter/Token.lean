import Roster.Except
import Roster.Text.Number
import Roster.Text.Alphanumeric

/-!
# Filter tokens

Filter text is cut into words, quoted runs, operator symbols, parentheses and bracketed lists. Quoted runs and lists are taken whole, and a run of operator characters is one symbol (`==`, `!_-=`, `&&`). Each token carries the byte offset at which it starts.

Two characters are read by their neighbours: a `-` belongs to an operator only between operator characters, and an underscore belongs to a word only after a letter or digit and before the end of the word or another letter or digit. So `last_login` and `Name_` are words, while `Name_=x` has the operator `_=`.
-/

namespace Roster.Filter

open Text

inductive Token
  /-- Anything unquoted: a column name, a number, `true`, a timestamp. -/
  | word (text : Text)
  /-- A quoted run, without its quotes. -/
  | quoted (text : Text)
  | operator (symbol : Text)
  | leftParen
  | rightParen
  /-- The raw text between `[` and `]`. -/
  | list (raw : Text)
deriving DecidableEq, Repr

/-- The form of a token in messages. Quoted text is shown in double quotes, whichever quotes it had. -/
def Token.display : Token → Text
  | .word text => text
  | .quoted text => '"' :: text ++ ['"']
  | .operator symbol => symbol
  | .leftParen => ['(']
  | .rightParen => [')']
  | .list raw => '[' :: raw ++ [']']

/-- The number of bytes that a token takes up in the filter text. -/
def Token.extent : Token → Nat
  | .word text => byteSize text
  | .quoted text => byteSize text + 2
  | .operator symbol => byteSize symbol
  | .leftParen => 1
  | .rightParen => 1
  | .list raw => byteSize raw + 2

/-- A token and the offset of its first byte. -/
structure Located where
  token : Token
  offset : Nat
deriving DecidableEq, Repr

inductive ScanError
  | unterminatedString (offset : Nat)
  | unterminatedList (offset : Nat)
  | unexpectedCharacter (c : Char) (offset : Nat)
deriving DecidableEq, Repr

def ScanError.message : ScanError → Text
  | .unterminatedString offset => "Unterminated string starting at offset ".toList ++ ofNat offset
  | .unterminatedList offset => "Unterminated list starting at offset ".toList ++ ofNat offset
  | .unexpectedCharacter c offset =>
    "Unexpected character '".toList ++ [c] ++ "' at offset ".toList ++ ofNat offset

/-! ### Character classes -/

def isQuote (c : Char) : Bool := c == '"' || c == '\''

/-- The characters that make up operator symbols. A `-` joins them only from inside. -/
def isOperatorChar (c : Char) : Bool :=
  ['=', '<', '>', '!', '&', '|', '_', '@', '^', '~', '$', '#'].contains c

def isBracket (c : Char) : Bool := ['(', ')', '[', ']'].contains c

/-- The quoted run that is open after `c`, given the one that was open before it. -/
def quoteAfter (run : Option Char) (c : Char) : Option Char :=
  match run with
  | none => if isQuote c then some c else none
  | some quote => if c = quote then none else some quote

/-! ### Runs

Each function splits the text at the end of one construct: what belongs to it, and the rest. -/

/-- The text up to the next `quote`, and what follows that quote. -/
def untilQuote (quote : Char) : Text → Option (Text × Text)
  | [] => none
  | c :: s => if c = quote then some ([], s) else (untilQuote quote s).map (Prod.map (c :: ·) id)

/-- The text up to the first `]` outside quoted runs, and what follows it. The text starts at the offset `here`, in the list opened at `start`; `run` is the open quoted run and where it was opened. -/
def untilBracket (start : Nat) (run : Option (Char × Nat)) (here : Nat) :
    Text → Except ScanError (Text × Text)
  | [] =>
    match run with
    | none => .error (.unterminatedList start)
    | some (_, opened) => .error (.unterminatedString opened)
  | c :: s =>
    if c = ']' ∧ run = none then .ok ([], s)
    else
      let next := (quoteAfter (run.map Prod.fst) c).map fun quote => (quote, (run.map Prod.snd).getD here)
      (untilBracket start next (here + c.utf8Size) s).map (Prod.map (c :: ·) id)

/-- The text starts with a character that satisfies `p`. -/
def startsWith (p : Char → Bool) : Text → Bool
  | [] => false
  | c :: _ => p c

/-- What follows the first character of an operator symbol. -/
def operatorTail : Text → Text × Text
  | [] => ([], [])
  | c :: s =>
    if isOperatorChar c || (c == '-' && startsWith isOperatorChar s) then
      Prod.map (c :: ·) id (operatorTail s)
    else ([], c :: s)

/-- An underscore before this text may belong to a word. -/
def continuesWord : Text → Bool
  | [] => true
  | c :: _ => isAlphanumeric c || isBlank c || isBracket c

/-- A word whose last character so far is `last` ends before `c`, which is followed by `s`. -/
def endsWord (last c : Char) (s : Text) : Bool :=
  isBlank c || isBracket c || isQuote c ||
    (isOperatorChar c && !(c == '_' && isAlphanumeric last && continuesWord s))

/-- What follows the first character of a word, of which `last` is the last character so far. -/
def wordTail (last : Char) : Text → Text × Text
  | [] => ([], [])
  | c :: s =>
    if endsWord last c s then ([], c :: s)
    else Prod.map (c :: ·) id (wordTail c s)

/-! ### Scanning -/

/-- The token that starts with the character `c`, which is not blank, and what follows the token. -/
def Token.first (offset : Nat) (c : Char) (s : Text) : Except ScanError (Token × Text) :=
  if isQuote c then
    match untilQuote c s with
    | none => .error (.unterminatedString offset)
    | some (text, rest) => .ok (.quoted text, rest)
  else if c = '(' then .ok (.leftParen, s)
  else if c = ')' then .ok (.rightParen, s)
  else if c = '[' then
    (untilBracket offset none (offset + 1) s).map (Prod.map .list id)
  else if c = ']' then .error (.unexpectedCharacter c offset)
  else if isOperatorChar c then .ok ((operatorTail s).map (fun tail => .operator (c :: tail)) id)
  else .ok ((wordTail c s).map (fun tail => .word (c :: tail)) id)

theorem length_of_untilQuote {quote : Char} {s text rest : Text}
    (h : untilQuote quote s = some (text, rest)) : rest.length ≤ s.length := by
  fun_induction untilQuote quote s generalizing text rest with
  | case1 => simp at h
  | case2 s => simp_all
  | case3 c s hc ih =>
    obtain ⟨⟨x, y⟩, hxy, he⟩ := Option.map_eq_some_iff.1 h
    obtain ⟨rfl, rfl⟩ := Prod.mk.inj he
    exact Nat.le_succ_of_le (ih hxy)

theorem length_of_untilBracket {start here : Nat} {run : Option (Char × Nat)} {s raw rest : Text}
    (h : untilBracket start run here s = .ok (raw, rest)) : rest.length ≤ s.length := by
  induction s generalizing run here raw rest with
  | nil => cases run <;> simp [untilBracket] at h
  | cons c s ih =>
    rw [untilBracket] at h
    split at h
    · cases h
      simp
    · obtain ⟨⟨x, y⟩, hxy, he⟩ := except_map_eq_ok.1 h
      obtain ⟨rfl, rfl⟩ := Prod.mk.inj he
      exact Nat.le_succ_of_le (ih hxy)

theorem length_operatorTail (s : Text) : (operatorTail s).2.length ≤ s.length := by
  induction s with
  | nil => exact Nat.le_refl 0
  | cons c s ih =>
    rw [operatorTail]
    split
    · exact Nat.le_succ_of_le ih
    · exact Nat.le_refl _

theorem length_wordTail (last : Char) (s : Text) : (wordTail last s).2.length ≤ s.length := by
  induction s generalizing last with
  | nil => exact Nat.le_refl 0
  | cons c s ih =>
    rw [wordTail]
    split
    · exact Nat.le_refl _
    · exact Nat.le_succ_of_le (ih c)

theorem Token.length_of_first {offset : Nat} {c : Char} {s rest : Text} {token : Token}
    (h : Token.first offset c s = .ok (token, rest)) : rest.length ≤ s.length := by
  unfold Token.first at h
  split at h
  · split at h <;> cases h
    exact length_of_untilQuote ‹_›
  split at h
  · cases h; exact Nat.le_refl _
  split at h
  · cases h; exact Nat.le_refl _
  split at h
  · obtain ⟨⟨x, y⟩, hxy, he⟩ := except_map_eq_ok.1 h
    obtain ⟨rfl, rfl⟩ := Prod.mk.inj he
    exact length_of_untilBracket hxy
  split at h
  · cases h
  split at h <;> cases h
  · exact length_operatorTail s
  · exact length_wordTail c s

/-- The tokens of a text that starts at the offset `here`. -/
def scanFrom (here : Nat) : Text → Except ScanError (List Located)
  | [] => .ok []
  | c :: s =>
    if isBlank c then scanFrom (here + c.utf8Size) s
    else
      match h : Token.first here c s with
      | .error e => .error e
      | .ok (token, rest) =>
        have : rest.length < s.length + 1 := Nat.lt_succ_of_le (Token.length_of_first h)
        (scanFrom (here + token.extent) rest).map (⟨token, here⟩ :: ·)
termination_by s => s.length

/-- The tokens of a filter text, in order. -/
def scan (s : Text) : Except ScanError (List Located) := scanFrom 0 s

end Roster.Filter
