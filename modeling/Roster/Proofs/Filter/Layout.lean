import Roster.Proofs.Filter.Piece

/-!
# The layout of a condition

What is written for a tree, piece by piece: the pieces follow the tree as the text does, and whatever the placeholders are called, the texts of the pieces make up the text (`Chain.flatMap_text_pieces`). A property of pieces that holds of the comparisons, and that parentheses and connectives keep, holds of the whole (`Chain.pieces_induction`).
-/

namespace Roster.Filter

open Text Sql

def negation (negated : Bool) : List Piece := if negated then [.keyword .not, .blank] else []

/-- The items of a list. -/
def itemPieces : List Nat → List Piece
  | [] => []
  | [n] => [.placeholder n]
  | n :: m :: rest => .placeholder n :: .comma :: .blank :: itemPieces (m :: rest)

/-- A comparison of a column with placeholders; the connectives have none. -/
def Rule.pieces (rule : Rule) (column : Text) (indices : List Nat) (collation : Text) : List Piece :=
  let value := Piece.placeholder (indices.head?.getD 0)
  match rule with
  | .relation r => [.column column, .blank, .relation r, .blank, value]
  | .like negated _ =>
    .column column :: .blank :: (negation negated ++
      [.keyword .like, .blank, value, .blank, .keyword .collate, .blank, .collation collation])
  | .phonetic negated =>
    [.keyword .soundex, .leftParen, .column column, .rightParen, .blank, .relation (if negated then .ne else .eq),
      .blank, .keyword .soundex, .leftParen, value, .rightParen]
  | .member negated =>
    .column column :: .blank :: (negation negated ++
      .keyword .member :: .blank :: .leftParen :: (itemPieces indices ++ [.rightParen]))
  | .connective _ => []

def Comparison.pieces (collation : Text) (n : Nat) (c : Comparison) : List Piece :=
  c.operator.rule.pieces c.column (List.range' n c.bound.length) collation

def grouped (ps : List Piece) : List Piece := .leftParen :: (ps ++ [.rightParen])

def joined (k : Connective) (ps qs : List Piece) : List Piece :=
  ps ++ .blank :: .keyword (.connective k) :: .blank :: qs

mutual

def Chain.pieces (collation : Text) (n : Nat) : Chain → List Piece
  | .single x => x.pieces collation n
  | .join left k right =>
    joined k (if left.last?.any (· ≠ k) then grouped (left.pieces collation n) else left.pieces collation n)
      (right.pieces collation (n + (boundLiterals left.comparisons).length))

def Operand.pieces (collation : Text) (n : Nat) : Operand → List Piece
  | .test c => c.pieces collation n
  | .group inner => grouped (inner.pieces collation n)

end

mutual

theorem Chain.pieces_induction {collation : Text} {P : List Piece → Prop} (hgroup : ∀ ps, P ps → P (grouped ps))
    (hjoin : ∀ k ps qs, P ps → P qs → P (joined k ps qs)) (e : Chain)
    (htest : ∀ c ∈ e.comparisons, ∀ n, P (c.pieces collation n)) (n : Nat) : P (e.pieces collation n) := by
  match e with
  | .single x => exact x.pieces_induction hgroup hjoin htest n
  | .join left k right =>
    rw [Chain.forall_comparisons_join] at htest
    have hleft := left.pieces_induction hgroup hjoin htest.1 n
    have hright := right.pieces_induction hgroup hjoin htest.2 (n + (boundLiterals left.comparisons).length)
    rw [Chain.pieces]
    apply hjoin
    · split
      · exact hgroup _ hleft
      · exact hleft
    · exact hright

theorem Operand.pieces_induction {collation : Text} {P : List Piece → Prop} (hgroup : ∀ ps, P ps → P (grouped ps))
    (hjoin : ∀ k ps qs, P ps → P qs → P (joined k ps qs)) (x : Operand)
    (htest : ∀ c ∈ x.comparisons, ∀ n, P (c.pieces collation n)) (n : Nat) : P (x.pieces collation n) := by
  match x with
  | .test c => exact Operand.forall_comparisons_test.1 htest n
  | .group inner => exact hgroup _ (inner.pieces_induction hgroup hjoin htest n)

end

/-! ### The text -/

section

variable (name : Nat → Text)

theorem flatMap_text_negation (negated : Bool) :
    (negation negated).flatMap (Piece.text name) = if negated then "NOT ".toList else [] := by
  cases negated <;> rfl

theorem flatMap_text_itemPieces (indices : List Nat) :
    (itemPieces indices).flatMap (Piece.text name) = join ", ".toList (indices.map name) := by
  fun_induction itemPieces indices with
  | case1 => rfl
  | case2 n => simp [Piece.text, join]
  | case3 n m rest ih =>
    rw [List.flatMap_cons, List.flatMap_cons, List.flatMap_cons, ih]
    simp [Piece.text, join]

theorem Rule.flatMap_text_pieces {rule : Rule} (hrule : rule.connective? = none) (column : Text) {indices : List Nat}
    (hne : indices ≠ []) (collation : Text) :
    (rule.pieces column indices collation).flatMap (Piece.text name) =
      rule.render column (indices.map name) collation := by
  obtain ⟨n, rest, rfl⟩ := List.exists_cons_of_ne_nil hne
  cases rule with
  | relation r =>
    rw [List.map_cons, render_relation]
    simp [Rule.pieces, Piece.text]
  | like negated place =>
    rw [List.map_cons, render_like]
    simp [Rule.pieces, Piece.text, flatMap_text_negation]
  | phonetic negated =>
    rw [List.map_cons, render_phonetic]
    simp [Rule.pieces, Piece.text]
  | member negated =>
    rw [render_member]
    simp [Rule.pieces, Piece.text, flatMap_text_negation, flatMap_text_itemPieces]
  | connective k => simp [Rule.connective?] at hrule

theorem Comparison.flatMap_text_pieces (collation : Text) (c : Comparison) (n : Nat) :
    (c.pieces collation n).flatMap (Piece.text name) = c.render name collation n :=
  Rule.flatMap_text_pieces name c.operator.connective?_eq_none c.column (by simpa using c.bound_ne_nil) collation

theorem flatMap_text_grouped (ps : List Piece) :
    (grouped ps).flatMap (Piece.text name) = '(' :: (ps.flatMap (Piece.text name) ++ [')']) := by
  simp [grouped, Piece.text]

theorem flatMap_text_joined (k : Connective) (ps qs : List Piece) :
    (joined k ps qs).flatMap (Piece.text name) =
      ps.flatMap (Piece.text name) ++ ' ' :: (k.keyword ++ ' ' :: qs.flatMap (Piece.text name)) := by
  simp [joined, Piece.text]

mutual

theorem Chain.flatMap_text_pieces (collation : Text) (e : Chain) (n : Nat) :
    (e.pieces collation n).flatMap (Piece.text name) = e.render name collation n := by
  match e with
  | .single x => exact x.flatMap_text_pieces collation n
  | .join left k right =>
    rw [Chain.pieces, Chain.render, flatMap_text_joined, writeLeft_append, right.flatMap_text_pieces]
    split
    · rw [flatMap_text_grouped, left.flatMap_text_pieces]
    · rw [left.flatMap_text_pieces]

theorem Operand.flatMap_text_pieces (collation : Text) (x : Operand) (n : Nat) :
    (x.pieces collation n).flatMap (Piece.text name) = x.render name collation n := by
  match x with
  | .test c => exact c.flatMap_text_pieces name collation n
  | .group inner =>
    rw [Operand.pieces, Operand.render, flatMap_text_grouped, inner.flatMap_text_pieces]
    rfl

end

end

/-! ### The neighbours of a piece -/

theorem tidy_negation {ps : List Piece} (negated : Bool) (h : Tidy ps) : Tidy (negation negated ++ ps) := by
  cases negated with
  | false => exact h
  | true => exact (tidy_singleton (p := .keyword .not) nofun).append_blank h

theorem tidy_itemPieces (n : Nat) (rest : List Nat) : Tidy (itemPieces (n :: rest)) := by
  induction rest generalizing n with
  | nil => exact tidy_singleton nofun
  | cons m rest ih =>
    have hitem : Tidy [.placeholder n, .comma] :=
      ⟨.cons_cons ⟨.inr rfl, nofun⟩ (.singleton _), by simp, by simp, by simp⟩
    exact hitem.append_blank (ih m)

theorem Rule.tidy_pieces {rule : Rule} (hrule : rule.connective? = none) (column : Text) {indices : List Nat}
    (hne : indices ≠ []) (collation : Text) : Tidy (rule.pieces column indices collation) := by
  have hcolumn : Tidy [.column column] := tidy_singleton nofun
  have hvalue : Tidy [.placeholder (indices.head?.getD 0)] := tidy_singleton nofun
  cases rule with
  | relation r =>
    have hrelation : Tidy [.relation r] := tidy_singleton nofun
    exact hcolumn.append_blank (hrelation.append_blank hvalue)
  | like negated place =>
    have hlike : Tidy [.keyword .like] := tidy_singleton nofun
    have hcollate : Tidy [.keyword .collate] := tidy_singleton nofun
    have hname : Tidy [.collation collation] := tidy_singleton nofun
    have hpattern := hlike.append_blank (hvalue.append_blank (hcollate.append_blank hname))
    exact hcolumn.append_blank (tidy_negation negated hpattern)
  | phonetic negated =>
    have hrelation : Tidy [.relation (if negated then .ne else .eq)] := tidy_singleton nofun
    have hcode {ps : List Piece} (h : Tidy ps) : Tidy (.keyword .soundex :: grouped ps) :=
      h.group.cons nofun (.inr (by simp [Piece.isSeparator]))
    exact (hcode hcolumn).append_blank (hrelation.append_blank (hcode hvalue))
  | member negated =>
    obtain ⟨n, rest, rfl⟩ := List.exists_cons_of_ne_nil hne
    have hin : Tidy [.keyword .member] := tidy_singleton nofun
    have hlist := hin.append_blank (tidy_itemPieces n rest).group
    exact hcolumn.append_blank (tidy_negation negated hlist)
  | connective k => simp [Rule.connective?] at hrule

/-- The pieces of a condition may stand side by side. -/
theorem Chain.tidy_pieces (collation : Text) (e : Chain) (n : Nat) : Tidy (e.pieces collation n) := by
  refine e.pieces_induction (fun _ h => h.group) ?_ ?_ n
  · intro k ps qs hps hqs
    have hkeyword : Tidy [.keyword (.connective k)] := tidy_singleton nofun
    exact hps.append_blank (hkeyword.append_blank hqs)
  · intro c _ n
    exact Rule.tidy_pieces c.operator.connective?_eq_none c.column (by simpa using c.bound_ne_nil) collation

/-! ### Placeholders -/

theorem filterMap_index?_negation (negated : Bool) : (negation negated).filterMap Piece.index? = [] := by
  cases negated <;> rfl

theorem filterMap_index?_itemPieces (indices : List Nat) : (itemPieces indices).filterMap Piece.index? = indices := by
  fun_induction itemPieces indices with
  | case1 => rfl
  | case2 n => rfl
  | case3 n m rest ih => simp [List.filterMap_cons, Piece.index?, ih]

theorem Rule.filterMap_index?_pieces {rule : Rule} (hrule : rule.connective? = none) (column : Text)
    {indices : List Nat} (hone : rule.takesList = false → indices.length = 1) (collation : Text) :
    (rule.pieces column indices collation).filterMap Piece.index? = indices := by
  cases rule with
  | member negated => simp [Rule.pieces, List.filterMap_cons, Piece.index?, filterMap_index?_negation, filterMap_index?_itemPieces]
  | connective k => simp [Rule.connective?] at hrule
  | _ =>
    obtain ⟨n, rfl⟩ := List.length_eq_one_iff.1 (hone rfl)
    simp [Rule.pieces, List.filterMap_cons, Piece.index?, filterMap_index?_negation]

theorem Comparison.length_bound {c : Comparison} (h : c.operator.rule.takesList = false) : c.bound.length = 1 := by
  rw [Comparison.bound, List.length_map]
  rcases Rule.literals?_eq_some.1 c.literals?_eq with ⟨-, text, -, hc⟩ | ⟨-, text, -, hc⟩ | ⟨hlist, -⟩
  · rw [hc, List.length_singleton]
  · rw [hc, List.length_singleton]
  · rw [h] at hlist
    cases hlist

theorem filterMap_index?_grouped (ps : List Piece) :
    (grouped ps).filterMap Piece.index? = ps.filterMap Piece.index? := by
  simp [grouped, List.filterMap_cons, Piece.index?]

theorem filterMap_index?_joined (k : Connective) (ps qs : List Piece) :
    (joined k ps qs).filterMap Piece.index? = ps.filterMap Piece.index? ++ qs.filterMap Piece.index? := by
  simp [joined, List.filterMap_cons, Piece.index?]

mutual

/-- Every literal has its placeholder, in the order of the literals. -/
theorem Chain.filterMap_index?_pieces (collation : Text) (e : Chain) (n : Nat) :
    (e.pieces collation n).filterMap Piece.index? = List.range' n (boundLiterals e.comparisons).length := by
  match e with
  | .single x => exact x.filterMap_index?_pieces collation n
  | .join left k right =>
    have hleft := left.filterMap_index?_pieces collation n
    rw [Chain.pieces, filterMap_index?_joined, right.filterMap_index?_pieces, Chain.comparisons,
      boundLiterals_append, List.length_append, ← List.range'_append_1]
    congr 1
    split
    · rw [filterMap_index?_grouped, hleft]
    · exact hleft

theorem Operand.filterMap_index?_pieces (collation : Text) (x : Operand) (n : Nat) :
    (x.pieces collation n).filterMap Piece.index? = List.range' n (boundLiterals x.comparisons).length := by
  match x with
  | .test c =>
    have hone (h : c.operator.rule.takesList = false) : (List.range' n c.bound.length).length = 1 := by
      rw [List.length_range', Comparison.length_bound h]
    have hpieces := Rule.filterMap_index?_pieces c.operator.connective?_eq_none c.column hone collation
    rw [Operand.pieces, Comparison.pieces, hpieces]
    simp [Operand.comparisons, boundLiterals]
  | .group inner =>
    rw [Operand.pieces, filterMap_index?_grouped, inner.filterMap_index?_pieces]
    rfl

end

/-! ### Names -/

theorem filterMap_column?_negation (negated : Bool) : (negation negated).filterMap Piece.column? = [] := by
  cases negated <;> rfl

theorem filterMap_column?_itemPieces (indices : List Nat) : (itemPieces indices).filterMap Piece.column? = [] := by
  fun_induction itemPieces indices with
  | case1 => rfl
  | case2 n => rfl
  | case3 n m rest ih => simp [List.filterMap_cons, Piece.column?, ih]

theorem Rule.filterMap_column?_pieces {rule : Rule} (hrule : rule.connective? = none) (column : Text)
    (indices : List Nat) (collation : Text) :
    (rule.pieces column indices collation).filterMap Piece.column? = [column] := by
  cases rule with
  | connective k => simp [Rule.connective?] at hrule
  | _ => simp [Rule.pieces, List.filterMap_cons, Piece.column?, filterMap_column?_negation, filterMap_column?_itemPieces]

mutual

/-- Every comparison names its column once. -/
theorem Chain.filterMap_column?_pieces (collation : Text) (e : Chain) (n : Nat) :
    (e.pieces collation n).filterMap Piece.column? = e.comparisons.map Comparison.column := by
  match e with
  | .single x => exact x.filterMap_column?_pieces collation n
  | .join left k right =>
    have hleft := left.filterMap_column?_pieces collation n
    have hright := right.filterMap_column?_pieces collation (n + (boundLiterals left.comparisons).length)
    rw [Chain.pieces, Chain.comparisons, List.map_append, ← hleft, ← hright]
    split <;> simp [joined, grouped, List.filterMap_cons, Piece.column?]

theorem Operand.filterMap_column?_pieces (collation : Text) (x : Operand) (n : Nat) :
    (x.pieces collation n).filterMap Piece.column? = x.comparisons.map Comparison.column := by
  match x with
  | .test c => exact Rule.filterMap_column?_pieces c.operator.connective?_eq_none c.column _ collation
  | .group inner =>
    rw [Operand.comparisons, ← inner.filterMap_column?_pieces collation n]
    simp [Operand.pieces, grouped, List.filterMap_cons, Piece.column?]

end

theorem collation_not_mem_itemPieces (s : Text) (indices : List Nat) : Piece.collation s ∉ itemPieces indices := by
  fun_induction itemPieces indices with
  | case1 => simp
  | case2 n => simp
  | case3 n m rest ih => simp [ih]

theorem Rule.collation_of_mem_pieces {rule : Rule} {column s collation : Text} {indices : List Nat}
    (h : Piece.collation s ∈ rule.pieces column indices collation) : s = collation := by
  have hnegation (negated : Bool) : Piece.collation s ∉ negation negated := by cases negated <;> simp [negation]
  cases rule with
  | like negated place => simpa [Rule.pieces, hnegation] using h
  | _ => simp [Rule.pieces, hnegation, collation_not_mem_itemPieces] at h

/-- No other collation is named than that of the options. -/
theorem Chain.collation_of_mem_pieces {collation s : Text} {e : Chain} {n : Nat}
    (h : Piece.collation s ∈ e.pieces collation n) : s = collation := by
  revert h
  refine e.pieces_induction (P := fun ps => Piece.collation s ∈ ps → s = collation) ?_ ?_ ?_ n
  · intro ps hps h
    exact hps (by simpa [grouped] using h)
  · intro k ps qs hps hqs h
    have hmem : Piece.collation s ∈ ps ∨ Piece.collation s ∈ qs := by simpa [joined] using h
    exact hmem.elim hps hqs
  · intro c _ n
    exact Rule.collation_of_mem_pieces

theorem Chain.column_of_mem_pieces {collation s : Text} {e : Chain} {n : Nat}
    (h : Piece.column s ∈ e.pieces collation n) : ∃ c ∈ e.comparisons, c.column = s := by
  have hmem : s ∈ (e.pieces collation n).filterMap Piece.column? := List.mem_filterMap.2 ⟨_, h, rfl⟩
  rw [e.filterMap_column?_pieces] at hmem
  exact List.mem_map.1 hmem

/-! ### Reading back -/

theorem readBack_negation (negated : Bool) : ReadBack (negation negated) := by
  cases negated <;> decide

theorem readBack_itemPieces (indices : List Nat) : ReadBack (itemPieces indices) := by
  fun_induction itemPieces indices with
  | case1 => decide
  | case2 n => exact readBack_placeholder n
  | case3 n m rest ih =>
    have hcomma : ReadBack [.comma, .blank] := by decide
    exact (readBack_placeholder n).append (hcomma.append ih)

theorem Rule.readBack_pieces {rule : Rule} {column collation : Text} (hcolumn : IsColumnName column)
    (hcollation : isName collation = true) (indices : List Nat) : ReadBack (rule.pieces column indices collation) := by
  have hcolumn := readBack_column hcolumn
  have hvalue := readBack_placeholder (indices.head?.getD 0)
  cases rule with
  | relation r =>
    have hrelation : ReadBack [.blank, .relation r, .blank] := by cases r <;> decide
    exact hcolumn.append (hrelation.append hvalue)
  | like negated place =>
    have hblank : ReadBack [.blank] := by decide
    have hlike : ReadBack [.keyword .like, .blank] := by decide
    have hpattern := hlike.append (hvalue.append (hblank.append (readBack_collation hcollation)))
    exact hcolumn.append (hblank.append ((readBack_negation negated).append hpattern))
  | phonetic negated =>
    have hleft : ReadBack [.keyword .soundex, .leftParen] := by decide
    have hrelation : ReadBack [.rightParen, .blank, .relation (if negated then .ne else .eq), .blank] := by
      cases negated <;> decide
    have hright : ReadBack [.rightParen] := by decide
    exact hleft.append (hcolumn.append (hrelation.append (hleft.append (hvalue.append hright))))
  | member negated =>
    have hblank : ReadBack [.blank] := by decide
    have hin : ReadBack [.keyword .member, .blank, .leftParen] := by decide
    have hright : ReadBack [.rightParen] := by decide
    have hlist := hin.append ((readBack_itemPieces indices).append hright)
    exact hcolumn.append (hblank.append ((readBack_negation negated).append hlist))
  | connective k => rfl

/-- The pieces are found again in their text, if no column is called like a keyword. -/
theorem Chain.readBack_pieces {collation : Text} (hcollation : isName collation = true) {e : Chain}
    (hcolumns : ∀ c ∈ e.comparisons, IsColumnName c.column) (n : Nat) : ReadBack (e.pieces collation n) := by
  refine e.pieces_induction ?_ ?_ ?_ n
  · intro ps hps
    have hleft : ReadBack [.leftParen] := by decide
    have hright : ReadBack [.rightParen] := by decide
    exact hleft.append (hps.append hright)
  · intro k ps qs hps hqs
    have hkeyword : ReadBack [.blank, .keyword (.connective k), .blank] := by cases k <;> decide
    exact hps.append (hkeyword.append hqs)
  · intro c hc n
    exact Rule.readBack_pieces (hcolumns c hc) hcollation _

end Roster.Filter
