import Roster.Sql.Predicate.Reader

/-!
# The grammar of conditions

SQL's grammar of conditions, said without an algorithm: tests and conditions in parentheses are operands, operands are joined by AND to conjunctions, and conjunctions by OR to conditions, both from left to right. The reader of conditions follows it (`readOperand_of_parses`), so a sequence of lexemes has one reading at most. The grammar leaves open what stands for the name of a collation; the reader takes conditions that name all collations (`readCondition_of_parses`).
-/

namespace Roster.Sql

open Text

/-- The items of a list and the parenthesis that closes it. -/
def itemLexemes (first : Text) : List Text → List Lexeme
  | [] => [.word first, .rightParen]
  | next :: rest => .word first :: .comma :: itemLexemes next rest

/-- The word NOT, or nothing. -/
def notLexemes (negated : Bool) : List Lexeme := if negated then [.word "NOT".toList] else []

inductive IsTest : List Lexeme → Test → Prop
  | compare (left : Text) (r : Relation) (right : Text) :
    IsTest [.word left, .word r.keyword, .word right] (.compare (.ofWord left) r (.ofWord right))
  | like (negated : Bool) (subject pattern collation : Text) :
    IsTest
      (.word subject :: notLexemes negated ++
        [.word "LIKE".toList, .word pattern, .word "COLLATE".toList, .word collation])
      (.like negated (.ofWord subject) (.ofWord pattern))
  | phonetic (left : Text) (r : Relation) (right : Text) :
    IsTest
      [.word "SOUNDEX".toList, .leftParen, .word left, .rightParen, .word r.keyword,
        .word "SOUNDEX".toList, .leftParen, .word right, .rightParen]
      (.phonetic (.ofWord left) r (.ofWord right))
  | member (negated : Bool) (subject first : Text) (rest : List Text) :
    IsTest (.word subject :: notLexemes negated ++ .word "IN".toList :: .leftParen :: itemLexemes first rest)
      (.member negated (.ofWord subject) ((first :: rest).map .ofWord))

/-- How tightly a condition holds together. -/
inductive Rank
  | operand
  | conjunction
  | condition
deriving DecidableEq

/-- The lexemes are read as a condition of the rank. -/
inductive Parses : Rank → List Lexeme → Predicate → Prop
  | test {ts : List Lexeme} {t : Test} (h : IsTest ts t) : Parses .operand ts (.test t)
  | group {ts : List Lexeme} {p : Predicate} (h : Parses .condition ts p) :
    Parses .operand (.leftParen :: ts ++ [.rightParen]) p
  | operand {ts : List Lexeme} {p : Predicate} (h : Parses .operand ts p) : Parses .conjunction ts p
  | and {ts us : List Lexeme} {p q : Predicate} (left : Parses .conjunction ts p) (right : Parses .operand us q) :
    Parses .conjunction (ts ++ .word Connective.and.keyword :: us) (.join .and p q)
  | conjunction {ts : List Lexeme} {p : Predicate} (h : Parses .conjunction ts p) : Parses .condition ts p
  | or {ts us : List Lexeme} {p q : Predicate} (left : Parses .condition ts p)
    (right : Parses .conjunction us q) :
    Parses .condition (ts ++ .word Connective.or.keyword :: us) (.join .or p q)

/-! ### The reader follows the grammar -/

theorem items?_itemLexemes (first : Text) (rest : List Text) (ts : List Lexeme) :
    items? (itemLexemes first rest ++ ts) = some ((first :: rest).map .ofWord, ts) := by
  induction rest generalizing first with
  | nil => simp [itemLexemes, items?]
  | cons next rest ih => simp [itemLexemes, items?, ih]

theorem test?_of_isTest {ts : List Lexeme} {t : Test} (h : IsTest ts t) (rest : List Lexeme) :
    test? (ts ++ rest) = some (t, rest) := by
  cases h with
  | compare left r right =>
    have hnot : r.keyword ≠ ['N', 'O', 'T'] := by cases r <;> decide
    have hlike : r.keyword ≠ ['L', 'I', 'K', 'E'] := by cases r <;> decide
    simp [test?, testOf?, hnot, hlike]
  | like negated subject pattern collation =>
    cases negated <;> simp [test?, testOf?, notLexemes]
  | phonetic left r right => simp [test?]
  | member negated subject first rest =>
    cases negated <;> simp [test?, testOf?, notLexemes, items?_itemLexemes]

variable {outer : List Level} {level : Level} {ts rest : List Lexeme} {p : Predicate}

theorem readOperand_of_test? {t : Test} (h : test? ts = some (t, rest)) :
    readOperand outer level ts = readConnective outer (level.add (.test t)) rest := by
  rw [readOperand.eq_def]
  split
  · simp [test?] at h
  · split
    · simp_all
    · rename_i htest
      rw [h] at htest
      cases htest
      rfl

theorem readOperand_leftParen :
    readOperand outer level (.leftParen :: ts) = readOperand (level :: outer) .empty ts := by
  rw [readOperand.eq_def]

theorem readConnective_rightParen (h : level.value? = some p) (parent : Level) :
    readConnective (parent :: outer) level (.rightParen :: ts) = readConnective outer (parent.add p) ts := by
  rw [readConnective.eq_def]
  simp [h]

theorem readConnective_and :
    readConnective outer level (.word Connective.and.keyword :: ts) = readOperand outer level ts := by
  rw [readConnective.eq_def]
  simp

theorem readConnective_or :
    readConnective outer level (.word Connective.or.keyword :: ts) = readOperand outer level.alternative ts := by
  rw [readConnective.eq_def]
  simp [Connective.keyword]

theorem readConnective_nil : readConnective [] level [] = endOfCondition [] level [] := by
  rw [readConnective.eq_def]

/-- A condition ends before a word that joins nothing. -/
theorem readConnective_word {w : Text} (hand : w ≠ Connective.and.keyword) (hor : w ≠ Connective.or.keyword) :
    readConnective outer level (.word w :: ts) = endOfCondition outer level (.word w :: ts) := by
  rw [readConnective.eq_def]
  simp [hand, hor]

/-- What the reader does with lexemes of the rank. -/
def Rank.Reads (ts : List Lexeme) (p : Predicate) : Rank → Prop
  | .operand => ∀ outer level rest,
    readOperand outer level (ts ++ rest) = readConnective outer (level.add p) rest
  | .conjunction => ∀ outer alternatives rest,
    readOperand outer ⟨alternatives, none⟩ (ts ++ rest) = readConnective outer ⟨alternatives, some p⟩ rest
  | .condition => ∀ outer rest, ∃ level, level.value? = some p ∧
    readOperand outer .empty (ts ++ rest) = readConnective outer level rest

theorem Parses.reads {rank : Rank} (h : Parses rank ts p) : rank.Reads ts p := by
  -- By induction on the derivation: an operand is added to whatever level is being read, a conjunction starts an empty one.
  induction h with
  | test h =>
    intro outer level rest
    exact readOperand_of_test? (test?_of_isTest h rest)
  | @group ts p _ ih =>
    intro outer level rest
    obtain ⟨inner, hvalue, hread⟩ := ih (level :: outer) (.rightParen :: rest)
    rw [List.cons_append, List.cons_append, readOperand_leftParen, List.append_assoc, List.singleton_append, hread,
      readConnective_rightParen hvalue]
  | operand _ ih =>
    intro outer alternatives rest
    exact ih outer ⟨alternatives, none⟩ rest
  | @and ts us p q _ _ ihleft ihright =>
    intro outer alternatives rest
    rw [List.append_assoc, List.cons_append, ihleft, readConnective_and, ihright]
    rfl
  | conjunction _ ih =>
    intro outer rest
    exact ⟨⟨none, some _⟩, rfl, ih outer none rest⟩
  | @or ts us p q _ _ ihleft ihright =>
    intro outer rest
    obtain ⟨level, hvalue, hread⟩ := ihleft outer (.word Connective.or.keyword :: (us ++ rest))
    refine ⟨⟨some p, some q⟩, rfl, ?_⟩
    rw [List.append_assoc, List.cons_append, hread, readConnective_or, Level.alternative, hvalue, ihright]

/-- A condition is read whole if nothing follows it. -/
theorem readOperand_of_parses (h : Parses .condition ts p) : readOperand [] .empty ts = .ok (p, []) := by
  obtain ⟨level, hvalue, hread⟩ := h.reads [] []
  rw [List.append_nil] at hread
  rw [hread, readConnective_nil, endOfCondition]
  simp [hvalue]

/-- The reading of a condition is the one that the reader finds. -/
theorem Parses.eq_of_readOperand {q : Predicate} (h : Parses .condition ts p)
    (hread : readOperand [] .empty ts = .ok (q, [])) : p = q := by
  rw [readOperand_of_parses h] at hread
  cases hread
  rfl

theorem Parses.unique {q : Predicate} (h : Parses .condition ts p) (h' : Parses .condition ts q) : p = q :=
  h.eq_of_readOperand (readOperand_of_parses h')

/-! ### Collations -/

theorem nameFault?_eq_none : nameFault? ts = none ↔ ∃ name rest, ts = .word name :: rest ∧ isIdentifier name = true := by
  unfold nameFault?
  split
  · rename_i w rest
    cases hw : isIdentifier w with
    | true => simp [hw]
    | false =>
      simp only [Bool.false_eq_true, if_false, List.cons.injEq, Lexeme.word.injEq]
      constructor
      · intro h
        split at h <;> cases h
      · rintro ⟨_, _, ⟨rfl, -⟩, hname⟩
        rw [hw] at hname
        cases hname
  · rename_i hword
    simp only [reduceCtorEq, false_iff]
    rintro ⟨name, rest, rfl, -⟩
    exact hword name rest rfl

/-- All collations are given by names. -/
def NamesCollations (ts : List Lexeme) : Prop := collationFault? ts = none

theorem namesCollations_cons {t : Lexeme} :
    NamesCollations (t :: ts) ↔ (t = .word "COLLATE".toList → nameFault? ts = none) ∧ NamesCollations ts := by
  rw [NamesCollations, collationFault?]
  split
  · rename_i ht
    rw [Option.or_eq_none_iff]
    exact ⟨fun h => ⟨fun _ => h.1, h.2⟩, fun h => ⟨h.1 ht, h.2⟩⟩
  · rename_i ht
    exact ⟨fun h => ⟨fun ht' => absurd ht' ht, h⟩, And.right⟩

theorem namesCollations_of_not_mem (h : Lexeme.word "COLLATE".toList ∉ ts) : NamesCollations ts := by
  induction ts with
  | nil => rfl
  | cons t ts ih =>
    rw [List.mem_cons, not_or] at h
    exact namesCollations_cons.2 ⟨fun ht => absurd ht.symm h.1, ih h.2⟩

/-- What stands after COLLATE is in the same list. -/
theorem NamesCollations.append {us : List Lexeme} (h : NamesCollations ts) (h' : NamesCollations us) :
    NamesCollations (ts ++ us) := by
  induction ts with
  | nil => exact h'
  | cons t ts ih =>
    rw [namesCollations_cons] at h
    refine namesCollations_cons.2 ⟨fun ht => ?_, ih h.2⟩
    obtain ⟨name, rest, rfl, hname⟩ := nameFault?_eq_none.1 (h.1 ht)
    exact nameFault?_eq_none.2 ⟨name, rest ++ us, rfl, hname⟩

theorem readCondition_of_parses (h : Parses .condition ts p) (hnames : NamesCollations ts) :
    readCondition ts = .ok (p, []) := by
  rw [NamesCollations] at hnames
  simp only [readCondition, hnames, readOperand_of_parses h]

/-- A condition is read up to a word that joins nothing. -/
theorem readCondition_append {w : Text} (h : Parses .condition ts p) (hand : w ≠ Connective.and.keyword)
    (hor : w ≠ Connective.or.keyword) (hnames : NamesCollations (ts ++ .word w :: rest)) :
    readCondition (ts ++ .word w :: rest) = .ok (p, .word w :: rest) := by
  obtain ⟨level, hvalue, hread⟩ := h.reads [] (.word w :: rest)
  rw [NamesCollations] at hnames
  simp only [readCondition, hnames]
  rw [hread, readConnective_word hand hor, endOfCondition]
  simp [hvalue]

/-- A condition that does not name a collation is not read. -/
theorem exists_readCondition_eq_error (h : ¬NamesCollations ts) : ∃ fault, readCondition ts = .error fault := by
  obtain ⟨fault, hfault⟩ := Option.ne_none_iff_exists'.1 h
  exact ⟨fault, by simp only [readCondition, hfault]⟩

end Roster.Sql
