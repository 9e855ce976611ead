import Mathlib.Data.List.TFAE
import Roster.Proofs.Filter.Placeholders

/-!
# The filter that matches everything

Only blank text matches everything (`matchAll_tfae`). Any other text that is compiled has a comparison, and every comparison binds a value, an empty list being refused. So the condition has a placeholder, which the condition of blank text has not, and no column that is typed can hide it.
-/

namespace Roster.Filter

open Text

theorem Chain.boundLiterals_ne_nil (e : Chain) : boundLiterals e.comparisons ≠ [] := by
  obtain ⟨c, cs, hcs⟩ := List.exists_cons_of_ne_nil e.comparisons_ne_nil
  rw [hcs, boundLiterals_cons]
  exact List.append_ne_nil_of_left_ne_nil c.bound_ne_nil _

/-- The condition of a chain has a placeholder. -/
theorem Chain.mem_render (collation : Text) (e : Chain) : '@' ∈ e.render placeholder collation 0 := by
  have hindices := e.filterMap_index?_pieces collation 0
  obtain ⟨n, hn⟩ : ∃ n, n ∈ (e.pieces collation 0).filterMap Piece.index? := by
    rw [hindices]
    exact ⟨0, by simpa [List.mem_range'_1, List.length_pos_iff] using e.boundLiterals_ne_nil⟩
  obtain ⟨p, hp, hindex⟩ := List.mem_filterMap.1 hn
  obtain rfl := Piece.index?_eq_some.1 hindex
  rw [← e.flatMap_text_pieces]
  exact List.mem_flatMap.2 ⟨_, hp, List.mem_cons_self⟩

theorem Chain.render_ne_matchAll (collation : Text) (e : Chain) : e.render placeholder collation 0 ≠ matchAll := by
  intro h
  have hmem := e.mem_render collation
  rw [h] at hmem
  exact absurd hmem (by decide)

/-- A text that is compiled is blank, or its tokens are those of a chain, whose comparisons all bind values. Each sign that a filter matches everything tells which of the two it is. -/
theorem matchAll_tfae {options : Options} {input : Text} {c : Compiled} (h : compile options input = .ok c) :
    List.TFAE [∀ x ∈ input, isBlank x = true, c.isMatchAll = true, c.parameters = [], c.columns = [],
        c.sql = "1 = 1".toList] ∧
      ((¬∀ x ∈ input, isBlank x = true) →
        ∃ (e : Chain) (tokens : List Located), scan input = .ok tokens ∧ e.tokens = tokens.map Located.token ∧
          c = e.compiled options.collation ∧ c.parameters ≠ [] ∧ ∀ x ∈ e.comparisons, x.bound ≠ []) := by
  obtain ⟨-, source, hsource, rfl⟩ := compile_eq_ok_iff.1 h
  cases hsource with
  | blank hblank =>
    constructor
    · refine List.tfae_of_forall True _ ?_
      intro p hp
      simp only [List.mem_cons, List.not_mem_nil, or_false] at hp
      rcases hp with rfl | rfl | rfl | rfl | rfl
      · exact iff_true_intro hblank
      all_goals exact iff_true_intro rfl
    · intro hnot
      exact absurd hblank hnot
  | @chain e tokens hscan htokens =>
    have hblank := not_blank_of_scan hscan htokens
    have hparameters : (e.compiled options.collation).parameters ≠ [] := by
      rw [← List.length_pos_iff, e.length_parameters, List.length_pos_iff]
      exact e.boundLiterals_ne_nil
    have hcolumns : (e.compiled options.collation).columns ≠ [] := by
      rw [Chain.compiled, ne_eq, List.map_eq_nil_iff]
      exact e.comparisons_ne_nil
    have hmatch : ¬(e.compiled options.collation).isMatchAll = true := by
      simp [Compiled.isMatchAll, hparameters]
    constructor
    · refine List.tfae_of_forall False _ ?_
      intro p hp
      simp only [List.mem_cons, List.not_mem_nil, or_false] at hp
      rcases hp with rfl | rfl | rfl | rfl | rfl
      · exact iff_false_intro hblank
      · exact iff_false_intro hmatch
      · exact iff_false_intro hparameters
      · exact iff_false_intro hcolumns
      · exact iff_false_intro (e.render_ne_matchAll options.collation)
    · intro _
      exact ⟨e, tokens, hscan, htokens, rfl, hparameters, fun x _ => x.bound_ne_nil⟩

/-- A column and a value that look like the condition of blank text, and a blank text. -/
theorem matchAll_tfae_lookalike :
    (∃ c, compile ⟨"NOCASE".toList, 4096⟩ "1 ^^ ['1 = 1']".toList = .ok c ∧ c.sql = "1 IN (@p0)".toList ∧
        c.isMatchAll = false ∧ c.parameters ≠ []) ∧
      ∃ c, compile ⟨"NOCASE".toList, 4096⟩ "\u3000\n".toList = .ok c ∧ c.sql = "1 = 1".toList ∧
        c.isMatchAll = true := by
  constructor
  · let c : Compiled := ⟨"1 IN (@p0)".toList, parametersFrom 0 [.str "1 = 1".toList], ["1".toList]⟩
    have h : compile ⟨"NOCASE".toList, 4096⟩ "1 ^^ ['1 = 1']".toList = .ok c := by decide +kernel
    have hblank : ¬∀ x ∈ "1 ^^ ['1 = 1']".toList, isBlank x = true := fun hall =>
      absurd (hall '1' (by decide)) (by decide)
    obtain ⟨htfae, hbound⟩ := matchAll_tfae h
    obtain ⟨-, -, -, -, -, hparameters, -⟩ := hbound hblank
    have hmatch : ¬c.isMatchAll = true := fun hmatch => hblank ((htfae.out 0 1).2 hmatch)
    exact ⟨c, h, rfl, by simpa using hmatch, hparameters⟩
  · have h : compile ⟨"NOCASE".toList, 4096⟩ "\u3000\n".toList = .ok .all := by decide +kernel
    have hblank : ∀ x ∈ "\u3000\n".toList, isBlank x = true := List.all_eq_true.1 (by decide)
    exact ⟨.all, h, ((matchAll_tfae h).1.out 0 4).1 hblank, ((matchAll_tfae h).1.out 0 1).1 hblank⟩

end Roster.Filter
