import Roster.Proofs.Filter.Boundary
import Roster.Proofs.Users.Truth

/-!
# Appending a condition

A caller may narrow or widen a filter by writing `&& (…)` or `|| (…)` after it, without parentheses around the filter itself (`compile_appendCondition`). Connectives have one precedence and are taken from left to right, so the new connective joins all that was there with the condition in parentheses. In the text nothing moves: a blank and a bracket bound the new condition, and it is scanned as if it stood alone.
-/

namespace Roster

open Text Sql

/-- The two statements joined. -/
def Connective.Joins : Connective → Prop → Prop → Prop
  | .and, p, q => p ∧ q
  | .or, p, q => p ∨ q

theorem Connective.eval_eq_true (k : Connective) (a b : Truth) :
    k.eval a b = .true ↔ k.Joins (a = .true) (b = .true) := by
  cases k <;> cases a <;> cases b <;> simp [Connective.eval, Connective.Joins, Truth.and, Truth.or]

namespace Filter

/-- A filter with a condition in parentheses written after it. -/
def appendCondition (k : Connective) (f g : Text) : Text := f ++ " ".toList ++ k.symbol ++ " (".toList ++ g ++ ")".toList

/-! ### The tokens -/

theorem scan_connective (k : Connective) (here : Nat) :
    scanFrom here (' ' :: k.symbol) = .ok [⟨.operator k.symbol, here + 1⟩] := by
  have hclosed : scanFrom 0 (' ' :: k.symbol) = .ok [⟨.operator k.symbol, 1⟩] := by cases k <;> decide +kernel
  have hshift := scanFrom_shift here 0 (' ' :: k.symbol)
  rw [hclosed, Nat.zero_add] at hshift
  rw [hshift, Nat.add_comm here]
  rfl

theorem scan_appendCondition {f g : Text} {ts us : List Located} (k : Connective) (hf : scan f = .ok ts)
    (hg : scan g = .ok us) :
    ∃ tokens, scan (appendCondition k f g) = .ok tokens ∧
      tokens.map Located.token =
        ts.map Located.token ++
          .operator k.symbol :: .leftParen :: (us.map Located.token ++ [.rightParen]) := by
  have htext : appendCondition k f g = f ++ ' ' :: (k.symbol ++ ' ' :: ('(' :: (g ++ [')']))) := by
    simp [appendCondition]
  have hopen (here : Nat) (s : Text) : Token.first here '(' s = .ok (.leftParen, s) := rfl
  have hclose (here : Nat) : scanFrom here [')'] = .ok [⟨.rightParen, here⟩] := by
    rw [scanFrom_cons_of_first (by decide) (show Token.first here ')' [] = .ok (.rightParen, []) from rfl), scanFrom]
    rfl
  have hinner (here : Nat) :
      scanFrom here (g ++ [')']) = .ok (us.map (Located.shift here) ++ [⟨.rightParen, here + byteSize g⟩]) := by
    have hshift := scanFrom_shift here 0 g
    rw [← scan, hg, Nat.zero_add] at hshift
    rw [scanFrom_append hshift (by decide), hclose]
    rfl
  rw [htext, scan, scanFrom_append hf (by decide), ← List.cons_append, scanFrom_append (scan_connective k _) (by decide),
    scanFrom_cons_blank (by decide), scanFrom_cons_of_first (by decide) (hopen _ _), hinner]
  refine ⟨_, rfl, ?_⟩
  simp [Located.shift, Function.comp_def]

theorem spells_appendCondition {f g : Text} {e e' : Chain} (k : Connective) (hf : Spells f (some e))
    (hg : Spells g (some e')) : Spells (appendCondition k f g) (some (.join e k (.group e'))) := by
  cases hf with
  | chain hscan htokens =>
    cases hg with
    | chain hscan' htokens' =>
      obtain ⟨tokens, hscan'', htokens''⟩ := scan_appendCondition k hscan hscan'
      refine .chain hscan'' ?_
      rw [htokens'', ← htokens, ← htokens', Chain.tokens, Operand.tokens, List.cons_append]

/-! ### Truth -/

mutual

/-- A truth value that depends on the comparison only is the same wherever the comparisons are counted from. -/
theorem Chain.eval_const (f : Comparison → Truth) (e : Chain) (i j : Nat) :
    e.eval (fun _ => f) i = e.eval (fun _ => f) j := by
  match e with
  | .single x => exact x.eval_const f i j
  | .join left connective right =>
    rw [Chain.eval, Chain.eval, left.eval_const f i j, right.eval_const f (i + _) (j + left.comparisons.length)]

theorem Operand.eval_const (f : Comparison → Truth) (x : Operand) (i j : Nat) :
    x.eval (fun _ => f) i = x.eval (fun _ => f) j := by
  match x with
  | .test c => rfl
  | .group inner => exact inner.eval_const f i j

end

theorem Chain.truth_join_group (u : User) (e e' : Chain) (k : Connective) :
    (Chain.join e k (.group e')).truth u = k.eval (e.truth u) (e'.truth u) := by
  rw [Chain.truth, Chain.eval, Operand.eval, e'.eval_const _ _ 0]
  rfl

theorem exists_chain_of_compile {options : Options} {f : Text} {c : Compiled} (h : compile options f = .ok c)
    (hblank : ¬ ∀ x ∈ f, isBlank x = true) : ∃ e : Chain, Spells f (some e) ∧ c = e.compiled options.collation := by
  obtain ⟨-, source, hsource, rfl⟩ := compile_eq_ok_iff.1 h
  cases hsource with
  | blank hall => exact absurd hall hblank
  | chain hscan htokens => exact ⟨_, .chain hscan htokens, rfl⟩

/-- A condition that is written in parentheses after a filter, with `&&` or `||` between them, is joined with all of the filter. The parameters and the columns are those of the two, one after the other. If users may be filtered by all columns, and if the collation is a name where one stands in the condition, then on every user the truth value is that of the two joined, so exactly the users are selected whom both select, or one of them. The length in bytes fits into 64 bits, as that of every text in memory does. -/
theorem compile_appendCondition {options : Options} {f g : Text} {c d : Compiled} (k : Connective)
    (hf : compile options f = .ok c) (hg : compile options g = .ok d) (hfilter : ¬ ∀ x ∈ f, isBlank x = true)
    (hcondition : ¬ ∀ x ∈ g, isBlank x = true) (hlength : byteSize (appendCondition k f g) ≤ options.maxLength) :
    ∃ r, compile options (appendCondition k f g) = .ok r ∧
      r.parameters =
        ((c.parameters ++ d.parameters).map Parameter.value).mapIdx (fun i value => ⟨placeholder i, value⟩) ∧
      r.columns = c.columns ++ d.columns ∧
      (Settings.isCollation options.collation = true →
        (Lexeme.word "COLLATE".toList ∈ lexemes (numbered r.sql) → isIdentifier options.collation = true) →
        c.checkColumns filterable = .ok () → d.checkColumns filterable = .ok () →
        byteSize (appendCondition k f g) < UInt64.size → ∀ u : User,
          (∃ a b : Truth, c.truth? u = some a ∧ d.truth? u = some b ∧ r.truth? u = some (k.eval a b)) ∧
            (r.truth? u = some .true ↔ k.Joins (c.truth? u = some .true) (d.truth? u = some .true))) := by
  obtain ⟨e, hspells, rfl⟩ := exists_chain_of_compile hf hfilter
  obtain ⟨e', hspells', rfl⟩ := exists_chain_of_compile hg hcondition
  have hjoined := spells_appendCondition k hspells hspells'
  have hcomparisons : (Chain.join e k (.group e')).comparisons = e.comparisons ++ e'.comparisons := rfl
  refine ⟨_, compile_eq_ok_iff.2 ⟨hlength, _, hjoined, rfl⟩, ?_, ?_, ?_⟩
  · have hvalues : ((e.compiled options.collation).parameters ++
        (e'.compiled options.collation).parameters).map Parameter.value =
          boundLiterals (e.comparisons ++ e'.comparisons) := by
      rw [List.map_append, boundLiterals_append]
      exact congrArg₂ _ (values_parametersFrom 0 _) (values_parametersFrom 0 _)
    rw [hvalues]
    simp only [compiledSource, Chain.compiled, hcomparisons, parametersFrom, Nat.zero_add]
  · simp only [compiledSource, Chain.compiled, hcomparisons, List.map_append]
  · intro hcollation hname hcolumns hcolumns' hsize u
    rw [Compiled.checkColumns_eq_ok] at hcolumns hcolumns'
    have hall : ∀ column ∈ (compiledSource options.collation (some (.join e k (.group e')))).columns,
        column ∈ filterable := by
      simp only [compiledSource, Chain.compiled, hcomparisons, List.map_append, List.forall_mem_append]
      exact ⟨hcolumns, hcolumns'⟩
    have htext : byteSize f + byteSize g ≤ byteSize (appendCondition k f g) := by
      simp only [appendCondition, byteSize_append]
      omega
    have hparameters := length_parameters_le hspells options.collation
    have hparameters' := length_parameters_le hspells' options.collation
    have hparameters'' := length_parameters_le hjoined options.collation
    have hnames : Names options.collation (some (.join e k (.group e'))) :=
      names_of_collate_mem hcollation hall (by omega) hname
    have hnames' := Chain.forall_comparisons_join.1 (hnames _ rfl)
    have hleft : (e.compiled options.collation).truth? u = some (e.truth u) :=
      truth?_compiledSource hcollation (some e) hcolumns (by omega) (by rintro _ ⟨⟩; exact hnames'.1) u
    have hright : (e'.compiled options.collation).truth? u = some (e'.truth u) :=
      truth?_compiledSource hcollation (some e') hcolumns' (by omega) (by rintro _ ⟨⟩; exact hnames'.2) u
    have hboth := truth?_compiledSource hcollation _ hall (by omega) hnames u
    rw [sourceTruth, Chain.truth_join_group] at hboth
    refine ⟨⟨_, _, hleft, hright, hboth⟩, ?_⟩
    rw [hleft, hright, hboth]
    simp only [Option.some.injEq]
    exact k.eval_eq_true _ _

/-- A filter that mixes the connectives, and a condition that mixes them too and ends in a word with an underscore. -/
theorem compile_appendCondition_mixed :
    let f := "Active == true || Id == a && Email @= x".toList
    let g := "Username ^^ [b, 'c d'] || Email == e_".toList
    ∃ c d r : Compiled, compile ⟨"NOCASE".toList, 4096⟩ f = .ok c ∧ compile ⟨"NOCASE".toList, 4096⟩ g = .ok d ∧
      appendCondition .and f g =
        "Active == true || Id == a && Email @= x && (Username ^^ [b, 'c d'] || Email == e_)".toList ∧
      compile ⟨"NOCASE".toList, 4096⟩ (appendCondition .and f g) = .ok r ∧
      r.columns = ["Active", "Id", "Email", "Username", "Email"].map String.toList ∧
      ∀ u : User, r.truth? u = some .true ↔ c.truth? u = some .true ∧ d.truth? u = some .true := by
  intro f g
  let c : Compiled :=
    ⟨"(Active = @p0 OR Id = @p1) AND Email LIKE @p2 COLLATE NOCASE".toList,
      parametersFrom 0 [.bool true, .raw "a".toList, .str "%x%".toList], ["Active".toList, "Id".toList, "Email".toList]⟩
  let d : Compiled :=
    ⟨"Username IN (@p0, @p1) OR Email = @p2".toList,
      parametersFrom 0 [.raw "b".toList, .str "c d".toList, .raw "e_".toList], ["Username".toList, "Email".toList]⟩
  have hf : compile ⟨"NOCASE".toList, 4096⟩ f = .ok c := by decide +kernel
  have hg : compile ⟨"NOCASE".toList, 4096⟩ g = .ok d := by decide +kernel
  have hfilter : ¬ ∀ x ∈ f, isBlank x = true := fun hall => absurd (hall 'A' (by decide)) (by decide)
  have hcondition : ¬ ∀ x ∈ g, isBlank x = true := fun hall => absurd (hall 'U' (by decide)) (by decide)
  obtain ⟨r, hr, -, hcolumns, htruth⟩ := compile_appendCondition .and hf hg hfilter hcondition (by decide +kernel)
  have hselects := htruth (by decide) (fun _ => by decide) (by decide) (by decide) (by decide +kernel)
  exact ⟨c, d, r, hf, hg, by decide +kernel, hr, hcolumns, fun u => (hselects u).2⟩

end Filter

end Roster
