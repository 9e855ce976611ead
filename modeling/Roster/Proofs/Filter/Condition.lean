import Roster.Filter.Columns
import Roster.Proofs.Filter.Chain
import Roster.Proofs.Sql.Grammar
import Roster.Proofs.Sql.Word
import Roster.Settings.Resolve

/-!
# The condition of a tree

By SQL's grammar the text that is written for a tree is read as the tree itself: each comparison as a test and each connective as a join of all that is before it at its depth with the operand after it (`Chain.parses_render`). The parentheses that are added where the connective changes make up for the precedence of AND.
-/

namespace Roster.Filter

open Text Sql

/-! ### Words -/

theorem isWord_placeholder (n : Nat) : IsWord (placeholder n) :=
  isWord_cons rfl fun _ hc => (isWord_ofNat (c := 'p') rfl n).not_separator _ hc

theorem isWord_argument (n : Nat) : IsWord (argument n) := isWord_ofNat rfl n

theorem isWord_of_filterable {column : Text} (h : column ∈ filterable) : IsWord column := by
  have hall : ∀ s ∈ filterable, IsWord s := by decide
  exact hall column h

theorem isWord_of_isCollation {collation : Text} (h : Settings.isCollation collation = true) : IsWord collation := by
  simp only [Settings.isCollation, Bool.and_eq_true, Bool.not_eq_true', List.isEmpty_eq_false_iff,
    List.all_eq_true] at h
  have hclass : ([' ', '(', ')', ','].all fun d => !(d.isAlphanum || d == '_')) = true := by decide
  exact ⟨h.1, fun c hc => not_separator_of_class hclass (h.2 c hc)⟩

/-! ### The text of a comparison -/

namespace Rule

variable (column first collation : Text) (rest : List Text)

theorem render_relation (r : Relation) :
    (Rule.relation r).render column (first :: rest) collation = column ++ ' ' :: (r.keyword ++ ' ' :: first) := by
  show column ++ ' ' :: r.keyword ++ ' ' :: first = _
  simp only [List.append_assoc, List.cons_append]

theorem render_like (negated : Bool) (place : Place) :
    (Rule.like negated place).render column (first :: rest) collation =
      column ++ ' ' :: ((if negated then "NOT ".toList else []) ++
        ("LIKE".toList ++ ' ' :: (first ++ ' ' :: ("COLLATE".toList ++ ' ' :: collation)))) := by
  cases negated with
  | false =>
    show column ++ ' ' :: "LIKE".toList ++ ' ' :: first ++ " COLLATE ".toList ++ collation = _
    simp
  | true =>
    show column ++ ' ' :: "NOT LIKE".toList ++ ' ' :: first ++ " COLLATE ".toList ++ collation = _
    simp

theorem render_phonetic (negated : Bool) :
    (Rule.phonetic negated).render column (first :: rest) collation =
      "SOUNDEX".toList ++ '(' :: (column ++ ')' :: ' ' :: ((if negated then Relation.ne else .eq).keyword ++
        ' ' :: ("SOUNDEX".toList ++ '(' :: (first ++ [')'])))) := by
  cases negated with
  | false =>
    show "SOUNDEX(".toList ++ column ++ ") ".toList ++ Relation.eq.keyword ++ " SOUNDEX(".toList ++ first ++ [')'] = _
    simp
  | true =>
    show "SOUNDEX(".toList ++ column ++ ") ".toList ++ Relation.ne.keyword ++ " SOUNDEX(".toList ++ first ++ [')'] = _
    simp

theorem render_member (negated : Bool) (placeholders : List Text) :
    (Rule.member negated).render column placeholders collation =
      column ++ ' ' :: ((if negated then "NOT ".toList else []) ++
        ("IN".toList ++ ' ' :: '(' :: (join ", ".toList placeholders ++ [')']))) := by
  cases negated with
  | false =>
    show column ++ ' ' :: "IN".toList ++ " (".toList ++ join ", ".toList placeholders ++ [')'] = _
    simp
  | true =>
    show column ++ ' ' :: "NOT IN".toList ++ " (".toList ++ join ", ".toList placeholders ++ [')'] = _
    simp

end Rule

/-! ### Tests -/

/-- The test that the comparison of a column with placeholders is read as. A connective makes no comparison. -/
def Rule.test (rule : Rule) (column : Text) (placeholders : List Text) : Test :=
  let subject := Term.ofWord column
  let value := Term.ofWord (placeholders.head?.getD [])
  match rule with
  | .relation r => .compare subject r value
  | .like negated _ => .like negated subject value
  | .phonetic negated => .phonetic subject (if negated then .ne else .eq) value
  | .member negated => .member negated subject (placeholders.map .ofWord)
  | .connective _ => .member false subject []

theorem isWord_keyword (r : Relation) : IsWord r.keyword := by
  cases r <;> decide

theorem join_cons_cons (first next : Text) (rest : List Text) (t : Text) :
    join ", ".toList (first :: next :: rest) ++ t =
      first ++ ',' :: ' ' :: (join ", ".toList (next :: rest) ++ t) := by
  simp [join]

theorem lexemes_join {first : Text} {rest : List Text} (hfirst : IsWord first) (hrest : ∀ s ∈ rest, IsWord s) :
    lexemes (join ", ".toList (first :: rest) ++ [')']) = itemLexemes first rest := by
  induction rest generalizing first with
  | nil =>
    rw [join, hfirst.lexemes_append rfl]
    rfl
  | cons next rest ih =>
    rw [join_cons_cons, hfirst.lexemes_append rfl, lexemes_comma, lexemes_blank,
      ih (hrest next (by simp)) fun s hs => hrest s (by simp [hs]), itemLexemes]

theorem lexemes_notKeyword (negated : Bool) {keyword : Text} (h : IsWord keyword) (t : Text) :
    lexemes ((if negated then "NOT ".toList else []) ++ (keyword ++ ' ' :: t)) =
      notLexemes negated ++ .word keyword :: lexemes t := by
  have hnot : IsWord "NOT".toList := by decide
  cases negated with
  | false => exact h.lexemes_append_blank t
  | true =>
    have happend : "NOT ".toList ++ (keyword ++ ' ' :: t) = "NOT".toList ++ ' ' :: (keyword ++ ' ' :: t) := rfl
    rw [if_pos rfl, happend, hnot.lexemes_append_blank, h.lexemes_append_blank]
    rfl

/-- The lexemes of the comparison of a column with placeholders. -/
def Rule.lexemes (rule : Rule) (column first : Text) (rest : List Text) (collation : Text) : List Lexeme :=
  match rule with
  | .relation r => [.word column, .word r.keyword, .word first]
  | .like negated _ =>
    .word column :: notLexemes negated ++
      [.word "LIKE".toList, .word first, .word "COLLATE".toList, .word collation]
  | .phonetic negated =>
    [.word "SOUNDEX".toList, .leftParen, .word column, .rightParen,
      .word (if negated then Relation.ne else .eq).keyword, .word "SOUNDEX".toList, .leftParen, .word first, .rightParen]
  | .member negated =>
    .word column :: notLexemes negated ++ .word "IN".toList :: .leftParen :: itemLexemes first rest
  | .connective k => [.word k.keyword]

section

variable {rule : Rule} {column first collation : Text} {rest : List Text} (hrule : rule.connective? = none)
  (hcolumn : IsWord column) (hcollation : IsWord collation) (hfirst : IsWord first) (hrest : ∀ s ∈ rest, IsWord s)

include hrule hcolumn hcollation hfirst hrest

theorem Rule.lexemes_render :
    Sql.lexemes (rule.render column (first :: rest) collation) = rule.lexemes column first rest collation := by
  cases rule with
  | relation r =>
    rw [Rule.render_relation, hcolumn.lexemes_append_blank, (isWord_keyword r).lexemes_append_blank, hfirst.lexemes]
    rfl
  | like negated place =>
    have hlike : IsWord "LIKE".toList := by decide
    have hcollate : IsWord "COLLATE".toList := by decide
    rw [Rule.render_like, hcolumn.lexemes_append_blank, lexemes_notKeyword negated hlike,
      hfirst.lexemes_append_blank, hcollate.lexemes_append_blank, hcollation.lexemes]
    rfl
  | phonetic negated =>
    have hsoundex : IsWord "SOUNDEX".toList := by decide
    rw [Rule.render_phonetic, hsoundex.lexemes_append_leftParen, hcolumn.lexemes_append_rightParen, lexemes_blank,
      (isWord_keyword _).lexemes_append_blank, hsoundex.lexemes_append_leftParen, hfirst.lexemes_append_rightParen]
    rfl
  | member negated =>
    have hin : IsWord "IN".toList := by decide
    rw [Rule.render_member, hcolumn.lexemes_append_blank, lexemes_notKeyword negated hin, lexemes_leftParen,
      lexemes_join hfirst hrest]
    rfl
  | connective k => simp [Rule.connective?] at hrule

end

/-- What is written for a comparison is a test. -/
theorem isTest_render {rule : Rule} {column collation : Text} {placeholders : List Text}
    (hrule : rule.connective? = none) (hcolumn : IsWord column) (hcollation : IsWord collation)
    (hne : placeholders ≠ []) (hplaceholders : ∀ s ∈ placeholders, IsWord s) :
    IsTest (lexemes (rule.render column placeholders collation)) (rule.test column placeholders) := by
  obtain ⟨first, rest, rfl⟩ := List.exists_cons_of_ne_nil hne
  rw [List.forall_mem_cons] at hplaceholders
  rw [Rule.lexemes_render hrule hcolumn hcollation hplaceholders.1 hplaceholders.2]
  cases rule with
  | relation r => exact .compare column r first
  | like negated place => exact .like negated column first collation
  | phonetic negated => exact .phonetic column _ first
  | member negated => exact .member negated column first rest
  | connective k => simp [Rule.connective?] at hrule

theorem Items.readFrom_ne_nil {run : Option Char} {piece s : Text} {items : List Literal}
    (h : Items.readFrom run piece s = .ok items) : items ≠ [] := by
  fun_induction Items.readFrom run piece s generalizing items with
  | case1 => cases h
  | case2 =>
    obtain ⟨value, -, rfl⟩ := except_map_eq_ok.1 h
    simp
  | case3 => cases h
  | case4 =>
    obtain ⟨values, -, rfl⟩ := except_map_eq_ok.1 h
    simp
  | case5 => cases h
  | case6 _ _ _ _ _ _ ih => exact ih h

theorem Items.read_ne_nil {raw : Text} {items : List Literal} (h : Items.read raw = .ok items) : items ≠ [] := by
  unfold Items.read at h
  split at h
  · cases h
  · exact Items.readFrom_ne_nil h

/-- Every comparison takes a literal. -/
theorem Comparison.bound_ne_nil (c : Comparison) : c.bound ≠ [] := by
  rw [Comparison.bound, ne_eq, List.map_eq_nil_iff]
  rcases Rule.literals?_eq_some.1 c.literals?_eq with ⟨-, text, -, h⟩ | ⟨-, text, -, h⟩ | ⟨-, raw, -, h⟩
  · simp [h]
  · simp [h]
  · exact Items.read_ne_nil h

def Comparison.test (name : Nat → Text) (n : Nat) (c : Comparison) : Test :=
  c.operator.rule.test c.column ((List.range' n c.bound.length).map name)

/-! ### Trees -/

mutual

/-- The condition that a chain is read as, when placeholders are named by `name` and the first one has the index `n`. -/
def Chain.predicate (name : Nat → Text) (n : Nat) : Chain → Predicate
  | .single x => x.predicate name n
  | .join left connective right =>
    .join connective (left.predicate name n) (right.predicate name (n + (boundLiterals left.comparisons).length))

def Operand.predicate (name : Nat → Text) (n : Nat) : Operand → Predicate
  | .test c => .test (c.test name n)
  | .group inner => inner.predicate name n

end

/-- How tightly the text holds together that ends in the connective. -/
def rankOf : Option Connective → Rank
  | none => .operand
  | some .and => .conjunction
  | some .or => .condition

theorem isWord_connective (k : Connective) : IsWord k.keyword := by
  cases k <;> decide

theorem lexemes_writeLeft (last : Option Connective) (k : Connective) (left right : Text) :
    lexemes (writeLeft last k left ++ right) =
      (if last.any (· ≠ k) then .leftParen :: lexemes left ++ [.rightParen] else lexemes left) ++
        .word k.keyword :: lexemes right := by
  rw [writeLeft_append, lexemes_append rfl, lexemes_blank, (isWord_connective k).lexemes_append_blank]
  split
  · rw [lexemes_leftParen, lexemes_append rfl, lexemes_rightParen, lexemes_nil]
    rfl
  · rfl

/-- A text of any rank is a condition. -/
theorem parses_condition {rank : Rank} {ts : List Lexeme} {p : Predicate} (h : Parses rank ts p) :
    Parses .condition ts p := by
  cases rank with
  | operand => exact .conjunction (.operand h)
  | conjunction => exact .conjunction h
  | condition => exact h

/-- The parentheses around the left operand make up for the precedence of AND. -/
theorem parses_join {last : Option Connective} {k : Connective} {ts us : List Lexeme} {p q : Predicate}
    (hleft : Parses (rankOf last) ts p) (hright : Parses .operand us q) :
    Parses (rankOf (some k))
      ((if last.any (· ≠ k) then .leftParen :: ts ++ [.rightParen] else ts) ++ .word k.keyword :: us)
      (.join k p q) := by
  by_cases hwrap : last.any (· ≠ k) = true
  · rw [if_pos hwrap]
    have hgroup : Parses .operand (.leftParen :: ts ++ [.rightParen]) p := .group (parses_condition hleft)
    cases k with
    | and => exact .and (.operand hgroup) hright
    | or => exact .or (.conjunction (.operand hgroup)) (.operand hright)
  · rw [if_neg hwrap]
    cases last with
    | none =>
      cases k with
      | and => exact .and (.operand hleft) hright
      | or => exact .or (.conjunction (.operand hleft)) (.operand hright)
    | some k' =>
      have hk : k' = k := by simpa using hwrap
      subst hk
      cases k' with
      | and => exact .and hleft hright
      | or => exact .or hleft (.operand hright)

variable {name : Nat → Text} {collation : Text}

theorem Comparison.isTest_render {c : Comparison} (hname : ∀ k, IsWord (name k)) (hcollation : IsWord collation)
    (hcolumn : IsWord c.column) (n : Nat) :
    IsTest (lexemes (c.render name collation n)) (c.test name n) := by
  refine Filter.isTest_render c.operator.connective?_eq_none hcolumn hcollation ?_ ?_
  · simpa using c.bound_ne_nil
  · intro s hs
    obtain ⟨k, -, rfl⟩ := List.mem_map.1 hs
    exact hname k

mutual

/-- What is written for a chain is read as the chain. -/
theorem Chain.parses_render (hname : ∀ k, IsWord (name k)) (hcollation : IsWord collation) (e : Chain)
    (hcolumns : ∀ c ∈ e.comparisons, IsWord c.column) (n : Nat) :
    Parses (rankOf e.last?) (lexemes (e.render name collation n)) (e.predicate name n) := by
  match e with
  | .single x => exact x.parses_render hname hcollation hcolumns n
  | .join left connective right =>
    rw [Chain.forall_comparisons_join] at hcolumns
    have hleft := left.parses_render hname hcollation hcolumns.1 n
    have hright := right.parses_render hname hcollation hcolumns.2 (n + (boundLiterals left.comparisons).length)
    rw [Chain.render, lexemes_writeLeft]
    exact parses_join hleft hright

theorem Operand.parses_render (hname : ∀ k, IsWord (name k)) (hcollation : IsWord collation) (x : Operand)
    (hcolumns : ∀ c ∈ x.comparisons, IsWord c.column) (n : Nat) :
    Parses .operand (lexemes (x.render name collation n)) (x.predicate name n) := by
  match x with
  | .test c => exact .test (c.isTest_render hname hcollation (Operand.forall_comparisons_test.1 hcolumns) n)
  | .group inner =>
    have hinner := inner.parses_render hname hcollation hcolumns n
    rw [Operand.render, List.cons_append, lexemes_leftParen, lexemes_append rfl, lexemes_rightParen, lexemes_nil]
    exact .group (parses_condition hinner)

end

end Roster.Filter
