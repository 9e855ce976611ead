import Roster.Proofs.Filter.Layout
import Roster.Proofs.Filter.Source

/-!
# What gets into a condition

Of a filter text only the names of columns get into the condition, and these are the columns that are checked against the allow-list. So a filter whose columns are allowed cannot bring anything else into a statement (`pieces?_compile`).
-/

namespace Roster.Filter

open Text Sql

theorem not_collation_of_ofRun? {run s : Text} (h : Piece.ofRun? run = some (.collation s)) : False := by
  unfold Piece.ofRun? at h
  split at h
  · rename_i hfind
    cases h
    have hmem := List.mem_of_find?_eq_some hfind
    simp [Piece.fixed] at hmem
  split at h
  · cases h
  split at h <;> cases h

/-- A collation stands directly after COLLATE. -/
theorem collate_isSuffix_of_readRuns? {rs : List Text} {ps before after : List Piece} {s : Text}
    (h : readRuns? rs = some ps) (hps : ps = before ++ .collation s :: after) :
    [.keyword .collate, .blank] <:+ before := by
  fun_induction readRuns? rs generalizing ps before with
  | case1 =>
    cases h
    simp at hps
  | case2 blank name rest hname ih =>
    obtain ⟨qs, hqs, rfl⟩ := Option.map_eq_some_iff.1 h
    rcases before with - | ⟨p, - | ⟨q, - | ⟨r, before⟩⟩⟩
    case nil => simp at hps
    case cons.nil => simp at hps
    case cons.cons.nil =>
      simp only [List.cons_append, List.nil_append, List.cons.injEq] at hps
      obtain ⟨rfl, rfl, -⟩ := hps
      exact List.suffix_refl _
    case cons.cons.cons =>
      simp only [List.cons_append, List.nil_append, List.cons.injEq] at hps
      exact (ih hqs hps.2.2.2).trans (List.suffix_append [p, q, r] before)
  | case3 => cases h
  | case4 => cases h
  | case5 run rest hrun ih =>
    obtain ⟨p, hp, hrest⟩ := Option.bind_eq_some_iff.1 h
    obtain ⟨qs, hqs, rfl⟩ := Option.map_eq_some_iff.1 hrest
    cases before with
    | nil =>
      obtain ⟨rfl, -⟩ := List.cons.inj hps
      exact (not_collation_of_ofRun? hp).elim
    | cons q before =>
      obtain ⟨-, hqs'⟩ := List.cons.inj hps
      exact (ih hqs hqs').trans (List.suffix_cons q before)

/-- The condition of a filter that is not blank splits completely into pieces, with single blanks. Its columns are those that are checked, one for each comparison of the filter, its placeholders are those of the parameters, and its collation is that of the options, directly after COLLATE. The columns that are allowed must be names and no keywords. -/
theorem pieces?_compile {options : Options} {input : Text} {c : Compiled} {allowed : List Text}
    (h : compile options input = .ok c) (hblank : ¬ ∀ x ∈ input, isBlank x = true)
    (hcollation : Settings.isCollation options.collation = true) (hallowed : ∀ name ∈ allowed, IsColumnName name)
    (hcolumns : c.checkColumns allowed = .ok ()) :
    ∃ ps : List Piece,
      pieces? c.sql = some ps ∧ ps.flatMap (Piece.text placeholder) = c.sql ∧
      (ps.IsChain fun a b => ¬(a = .blank ∧ b = .blank)) ∧
      ps.filterMap Piece.column? = c.columns ∧ (∀ column ∈ c.columns, column ∈ allowed) ∧
      (∃ (e : Chain) (tokens : List Located), scan input = .ok tokens ∧ e.tokens = tokens.map Located.token ∧
        c.columns = e.comparisons.map Comparison.column) ∧
      ps.filterMap Piece.index? = List.range c.parameters.length ∧
      ∀ before s after, ps = before ++ .collation s :: after →
        s = options.collation ∧ [.keyword .collate, .blank] <:+ before := by
  obtain ⟨-, source, hsource, rfl⟩ := compile_eq_ok_iff.1 h
  rw [Compiled.checkColumns_eq_ok] at hcolumns
  cases hsource with
  | blank hall => exact absurd hall hblank
  | @chain e tokens hscan htokens =>
    have hnames : ∀ x ∈ e.comparisons, IsColumnName x.column := by
      intro x hx
      exact hallowed _ (Chain.forall_columns.1 hcolumns x hx)
    have hread := Chain.readBack_pieces hcollation hnames 0
    have htidy := e.tidy_pieces options.collation 0
    have htext := e.flatMap_text_pieces placeholder options.collation 0
    have hpieces : pieces? (e.render placeholder options.collation 0) = some (e.pieces options.collation 0) := by
      rw [← htext]
      exact pieces?_flatMap_text htidy.fits hread
    have hindices : (e.pieces options.collation 0).filterMap Piece.index? =
        List.range (e.compiled options.collation).parameters.length := by
      rw [e.filterMap_index?_pieces, List.range_eq_range', Chain.length_parameters]
    refine ⟨e.pieces options.collation 0, hpieces, flatMap_text_of_pieces? hpieces, ?_,
      e.filterMap_column?_pieces options.collation 0, hcolumns, ⟨e, tokens, hscan, htokens, rfl⟩, hindices, ?_⟩
    · refine htidy.fits.imp ?_
      rintro a b ⟨-, hsingle⟩ ⟨ha, hb⟩
      exact hsingle ha hb
    · intro before s after hps
      refine ⟨?_, collate_isSuffix_of_readRuns? hread hps⟩
      exact Chain.collation_of_mem_pieces (e := e) (n := 0) (by simp [hps])

/-- Every kind of comparison, a collation that is called like a keyword, and a value that looks like SQL. -/
theorem pieces?_compile_every_rule :
    let input := "Id == '1; DROP' || Email !_= x && (Username ~~ 'a)' || Username !^$ ['(', b])".toList
    let sql := ("(Id = @p0 OR Email NOT LIKE @p1 COLLATE OR) AND " ++
      "(SOUNDEX(Username) = SOUNDEX(@p2) OR Username NOT IN (@p3, @p4))").toList
    ∃ (c : Compiled) (ps : List Piece), compile ⟨"OR".toList, 4096⟩ input = .ok c ∧ c.sql = sql ∧
      pieces? sql = some ps ∧
      ps.filterMap Piece.column? = ["Id".toList, "Email".toList, "Username".toList, "Username".toList] := by
  intro input sql
  let values : List Literal :=
    [.str "1; DROP".toList, .str "x%".toList, .str "a)".toList, .str "(".toList, .raw "b".toList]
  let c : Compiled :=
    ⟨sql, parametersFrom 0 values, ["Id".toList, "Email".toList, "Username".toList, "Username".toList]⟩
  have h : compile ⟨"OR".toList, 4096⟩ input = .ok c := by decide +kernel
  have hblank : ¬ ∀ x ∈ input, isBlank x = true := by
    intro hall
    exact absurd (hall 'I' (by decide)) (by decide)
  have hnames : ∀ name ∈ filterable, IsColumnName name := by decide
  obtain ⟨ps, hps, -, -, hcolumns, -⟩ := pieces?_compile h hblank (by decide) hnames (by decide)
  exact ⟨c, ps, h, rfl, hps, hcolumns⟩

end Roster.Filter
