import Roster.Sql.Lexeme
import Roster.Text.Number

/-!
# Words of SQL

A text is cut at its separators, so the lexemes of a text can be found part by part. A text without separators is one word.
-/

namespace Roster.Sql

open Text

/-- The characters that no word contains. -/
def isSeparator (c : Char) : Bool := [' ', '(', ')', ','].contains c

/-- A text that is read as one word. -/
structure IsWord (s : Text) : Prop where
  ne_nil : s ≠ []
  not_separator : ∀ c ∈ s, isSeparator c = false

instance (s : Text) : Decidable (IsWord s) :=
  decidable_of_iff ((!s.isEmpty && s.all fun c => !isSeparator c) = true) <| by
    simp only [Bool.and_eq_true, Bool.not_eq_true', List.isEmpty_eq_false_iff, List.all_eq_true]
    exact ⟨fun h => ⟨h.1, h.2⟩, fun h => ⟨h.ne_nil, h.not_separator⟩⟩

theorem endWord_append (word : Text) (a b : List Lexeme) : endWord word (a ++ b) = endWord word a ++ b := by
  unfold endWord
  split <;> simp

/-- A separator ends the word before it. -/
theorem lexemesFrom_append {c : Char} (hc : isSeparator c = true) (word s t : Text) :
    lexemesFrom word (s ++ c :: t) = lexemesFrom word s ++ lexemes (c :: t) := by
  induction s generalizing word with
  | nil =>
    have hcases : c = ' ' ∨ c = '(' ∨ c = ')' ∨ c = ',' := by simpa [isSeparator] using hc
    rcases hcases with rfl | rfl | rfl | rfl <;> simp [lexemesFrom, lexemes, endWord] <;> split <;> rfl
  | cons d s ih =>
    simp only [List.cons_append, lexemesFrom, ih]
    repeat' split
    all_goals simp [← endWord_append]

theorem lexemes_append {c : Char} (hc : isSeparator c = true) (s t : Text) :
    lexemes (s ++ c :: t) = lexemes s ++ lexemes (c :: t) :=
  lexemesFrom_append hc [] s t

@[simp] theorem lexemes_nil : lexemes [] = [] := rfl

@[simp] theorem lexemes_blank (s : Text) : lexemes (' ' :: s) = lexemes s := rfl

/-- A text that ends in a blank ends a word. -/
theorem lexemes_append_of_getLast? {s : Text} (h : s.getLast? = some ' ') (t : Text) :
    lexemes (s ++ t) = lexemes s ++ lexemes t := by
  obtain ⟨init, rfl⟩ := List.getLast?_eq_some_iff.1 h
  rw [List.append_assoc, List.singleton_append, lexemes_append rfl, lexemes_append rfl, lexemes_blank, lexemes_blank,
    lexemes_nil, List.append_nil]

@[simp] theorem lexemes_leftParen (s : Text) : lexemes ('(' :: s) = .leftParen :: lexemes s := rfl

@[simp] theorem lexemes_rightParen (s : Text) : lexemes (')' :: s) = .rightParen :: lexemes s := rfl

@[simp] theorem lexemes_comma (s : Text) : lexemes (',' :: s) = .comma :: lexemes s := rfl

theorem lexemesFrom_of_not_separator {s : Text} (h : ∀ c ∈ s, isSeparator c = false) (word : Text) :
    lexemesFrom word s = endWord (s.reverse ++ word) [] := by
  induction s generalizing word with
  | nil => rfl
  | cons c s ih =>
    have hc : c ≠ ' ' ∧ c ≠ '(' ∧ c ≠ ')' ∧ c ≠ ',' := by simpa [isSeparator] using h c (by simp)
    rw [lexemesFrom, if_neg hc.1, if_neg hc.2.1, if_neg hc.2.2.1, if_neg hc.2.2.2,
      ih (fun d hd => h d (by simp [hd]))]
    simp

theorem IsWord.lexemes {s : Text} (h : IsWord s) : lexemes s = [.word s] := by
  rw [Sql.lexemes, lexemesFrom_of_not_separator h.not_separator, endWord]
  simp [h.ne_nil]

/-- A word before a separator. -/
theorem IsWord.lexemes_append {s : Text} (h : IsWord s) {c : Char} (hc : isSeparator c = true) (t : Text) :
    Sql.lexemes (s ++ c :: t) = .word s :: Sql.lexemes (c :: t) := by
  rw [Sql.lexemes_append hc, h.lexemes]
  rfl

theorem IsWord.lexemes_append_blank {s : Text} (h : IsWord s) (t : Text) :
    Sql.lexemes (s ++ ' ' :: t) = .word s :: Sql.lexemes t :=
  h.lexemes_append rfl t

theorem IsWord.lexemes_append_leftParen {s : Text} (h : IsWord s) (t : Text) :
    Sql.lexemes (s ++ '(' :: t) = .word s :: .leftParen :: Sql.lexemes t :=
  h.lexemes_append rfl t

theorem IsWord.lexemes_append_rightParen {s : Text} (h : IsWord s) (t : Text) :
    Sql.lexemes (s ++ ')' :: t) = .word s :: .rightParen :: Sql.lexemes t :=
  h.lexemes_append rfl t

theorem isWord_cons {c : Char} {s : Text} (hc : isSeparator c = false) (hs : ∀ d ∈ s, isSeparator d = false) :
    IsWord (c :: s) where
  ne_nil := by simp
  not_separator := by
    intro d hd
    rcases List.mem_cons.1 hd with rfl | hd
    · exact hc
    · exact hs d hd

/-- A class of characters that leaves out the four separators has none of them. -/
theorem not_separator_of_class {p : Char → Bool} (hp : ([' ', '(', ')', ','].all fun d => !p d) = true) {c : Char}
    (h : p c = true) : isSeparator c = false := by
  simp only [List.all_eq_true, Bool.not_eq_true'] at hp
  cases hc : isSeparator c with
  | false => rfl
  | true =>
    rw [hp c (by simpa [isSeparator] using hc)] at h
    exact absurd h (by decide)

theorem not_separator_of_isDigit {c : Char} (h : c.isDigit = true) : isSeparator c = false :=
  not_separator_of_class (by decide) h

/-- A number after a character that is no separator is a word. -/
theorem isWord_ofNat {c : Char} (hc : isSeparator c = false) (n : Nat) : IsWord (c :: ofNat n) :=
  isWord_cons hc fun _ hd => not_separator_of_isDigit (isDigit_of_mem_ofNat hd)

end Roster.Sql
