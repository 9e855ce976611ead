import Mathlib.Data.List.SplitBy
import Roster.Proofs.Filter.Condition

/-!
# The pieces of a condition

A condition is put together from a small stock of pieces. All of them have fixed texts but placeholders and the names of columns and of a collation. `pieces?` cuts a text into pieces, and it knows nothing of the filter that the text was written for: separators cut the text into runs, and every run must be a piece. The run after COLLATE is a collation, any other run that is a name and no keyword is a column. A text is what its pieces say (`flatMap_text_of_pieces?`), and pieces are found again in their text if each of them is read as itself and no two words touch (`pieces?_flatMap_text`).
-/

namespace Roster.Filter

open Text Sql

inductive Keyword
  | connective (connective : Connective)
  | not
  | like
  | member
  | collate
  | soundex
deriving DecidableEq, Repr

namespace Keyword

def all : List Keyword := [connective .and, connective .or, not, like, member, collate, soundex]

def text : Keyword → Text
  | connective k => k.keyword
  | not => "NOT".toList
  | like => "LIKE".toList
  | member => "IN".toList
  | collate => "COLLATE".toList
  | soundex => "SOUNDEX".toList

@[simp] theorem text_connective (k : Connective) : (connective k).text = k.keyword := rfl

@[simp] theorem text_not : not.text = "NOT".toList := rfl

@[simp] theorem text_like : like.text = "LIKE".toList := rfl

@[simp] theorem text_member : member.text = "IN".toList := rfl

@[simp] theorem text_collate : collate.text = "COLLATE".toList := rfl

@[simp] theorem text_soundex : soundex.text = "SOUNDEX".toList := rfl

end Keyword

inductive Piece
  | leftParen
  | rightParen
  | comma
  | blank
  | relation (relation : Relation)
  | keyword (keyword : Keyword)
  | placeholder (index : Nat)
  | collation (name : Text)
  | column (name : Text)
deriving DecidableEq, Repr

/-- A run of letters, digits and underscores of ASCII. -/
def isName (s : Text) : Bool := !s.isEmpty && s.all fun c => c.isAlphanum || c == '_'

namespace Piece

/-- The text of a piece, when placeholders are named by `name`. -/
def text (name : Nat → Text) : Piece → Text
  | leftParen => ['(']
  | rightParen => [')']
  | comma => [',']
  | blank => [' ']
  | relation r => r.keyword
  | keyword k => k.text
  | placeholder n => name n
  | collation s => s
  | column s => s

def index? : Piece → Option Nat
  | placeholder n => some n
  | _ => none

def column? : Piece → Option Text
  | column s => some s
  | _ => none

def isSeparator : Piece → Bool
  | leftParen => true
  | rightParen => true
  | comma => true
  | blank => true
  | _ => false

/-- The pieces whose texts are fixed. -/
def fixed : List Piece :=
  [leftParen, rightParen, comma, blank] ++ [Relation.eq, .ne, .ge, .le, .gt, .lt].map relation ++ Keyword.all.map keyword

end Piece

/-! ### Cutting -/

/-- The index of a placeholder that is spelled without leading zeros. -/
def placeholderIndex? : Text → Option Nat
  | '@' :: 'p' :: digits => (toNat? digits).filter fun n => ofNat n == digits
  | _ => none

@[simp] theorem placeholderIndex?_placeholder (n : Nat) : placeholderIndex? (placeholder n) = some n := by
  simp [placeholderIndex?, placeholder, Option.filter]

theorem placeholder_of_placeholderIndex? {s : Text} {n : Nat} (h : placeholderIndex? s = some n) :
    placeholder n = s := by
  unfold placeholderIndex? at h
  split at h
  · rename_i digits
    have hdigits : ofNat n = digits := by simpa using (Option.filter_eq_some_iff.1 h).2
    rw [placeholder, hdigits]
  · cases h

/-- The piece that a run is, if it does not follow COLLATE. -/
def Piece.ofRun? (run : Text) : Option Piece :=
  match fixed.find? fun p => p.text Filter.placeholder == run with
  | some p => some p
  | none =>
    match placeholderIndex? run with
    | some n => some (.placeholder n)
    | none => if isName run then some (.column run) else none

/-- The pieces that runs are. -/
def readRuns? : List Text → Option (List Piece)
  | [] => some []
  | run :: rest =>
    if run = Keyword.collate.text then
      match rest with
      | blank :: name :: rest =>
        if blank = [' '] ∧ isName name then
          (readRuns? rest).map ([.keyword .collate, .blank, .collation name] ++ ·)
        else none
      | _ => none
    else
      (Piece.ofRun? run).bind fun piece => (readRuns? rest).map (piece :: ·)

/-- The separators of a text, and the runs between them. -/
def runs (s : Text) : List Text := s.splitBy fun c d => !isSeparator c && !isSeparator d

/-- The pieces of a text, if it is put together from nothing else. -/
def pieces? (s : Text) : Option (List Piece) := readRuns? (runs s)

theorem Piece.text_of_ofRun? {run : Text} {p : Piece} (h : ofRun? run = some p) :
    p.text Filter.placeholder = run := by
  unfold ofRun? at h
  split at h
  · rename_i hfind
    cases h
    simpa using List.find?_some hfind
  split at h
  · rename_i hindex
    cases h
    exact placeholder_of_placeholderIndex? hindex
  split at h <;> cases h
  rfl

theorem map_text_of_readRuns? {rs : List Text} {ps : List Piece} (h : readRuns? rs = some ps) :
    ps.map (Piece.text placeholder) = rs := by
  fun_induction readRuns? rs generalizing ps with
  | case1 =>
    cases h
    rfl
  | case2 blank name rest hname ih =>
    obtain ⟨qs, hqs, rfl⟩ := Option.map_eq_some_iff.1 h
    rw [List.map_append, ih hqs, hname.1]
    rfl
  | case3 => cases h
  | case4 => cases h
  | case5 run rest hrun ih =>
    obtain ⟨p, hp, hrest⟩ := Option.bind_eq_some_iff.1 h
    obtain ⟨qs, hqs, rfl⟩ := Option.map_eq_some_iff.1 hrest
    rw [List.map_cons, ih hqs, Piece.text_of_ofRun? hp]

/-- A text is what its pieces say. -/
theorem flatMap_text_of_pieces? {s : Text} {ps : List Piece} (h : pieces? s = some ps) :
    ps.flatMap (Piece.text placeholder) = s := by
  rw [List.flatMap_def, map_text_of_readRuns? h, runs, List.flatten_splitBy]

/-! ### Pieces side by side -/

namespace Piece

/-- One piece may stand before the other: two words do not touch, and blanks are single. -/
def Fits (a b : Piece) : Prop := (a.isSeparator = true ∨ b.isSeparator = true) ∧ (a = blank → b ≠ blank)

end Piece

/-- Pieces that may stand side by side, with no blank around them. -/
structure Tidy (ps : List Piece) : Prop where
  fits : ps.IsChain Piece.Fits
  ne_nil : ps ≠ []
  head_ne_blank : ∀ p ∈ ps.head?, p ≠ .blank
  last_ne_blank : ∀ p ∈ ps.getLast?, p ≠ .blank

theorem tidy_singleton {p : Piece} (h : p ≠ .blank) : Tidy [p] where
  fits := .singleton p
  ne_nil := by simp
  head_ne_blank := by simpa using h
  last_ne_blank := by simpa using h

namespace Tidy

variable {ps qs : List Piece}

theorem append_blank (hps : Tidy ps) (hqs : Tidy qs) : Tidy (ps ++ .blank :: qs) where
  fits := by
    have hblank : (Piece.blank :: qs).IsChain Piece.Fits := by
      rw [List.isChain_cons]
      refine ⟨?_, hqs.fits⟩
      intro q hq
      exact ⟨.inl rfl, fun _ => hqs.head_ne_blank q hq⟩
    rw [List.isChain_append]
    refine ⟨hps.fits, hblank, ?_⟩
    intro p hp q hq
    obtain rfl : Piece.blank = q := by simpa using hq
    exact ⟨.inr rfl, fun he => absurd he (hps.last_ne_blank p hp)⟩
  ne_nil := by simp
  head_ne_blank := by
    rw [List.head?_append_of_ne_nil _ hps.ne_nil]
    exact hps.head_ne_blank
  last_ne_blank := by
    rw [List.getLast?_append_of_ne_nil _ (by simp), List.getLast?_cons_of_ne_nil hqs.ne_nil]
    exact hqs.last_ne_blank

theorem cons {p : Piece} (hps : Tidy ps) (hp : p ≠ .blank)
    (hsep : p.isSeparator = true ∨ ∀ q ∈ ps.head?, q.isSeparator = true) : Tidy (p :: ps) where
  fits := by
    rw [List.isChain_cons]
    refine ⟨?_, hps.fits⟩
    intro q hq
    exact ⟨hsep.imp_right fun h => h q hq, fun he => absurd he hp⟩
  ne_nil := by simp
  head_ne_blank := by simpa using hp
  last_ne_blank := by
    rw [List.getLast?_cons_of_ne_nil hps.ne_nil]
    exact hps.last_ne_blank

theorem group (h : Tidy ps) : Tidy (.leftParen :: (ps ++ [.rightParen])) where
  fits := by
    have hright : (ps ++ [Piece.rightParen]).IsChain Piece.Fits := by
      rw [List.isChain_append]
      refine ⟨h.fits, .singleton _, ?_⟩
      intro p _ q hq
      obtain rfl : Piece.rightParen = q := by simpa using hq
      exact ⟨.inr rfl, fun _ => nofun⟩
    rw [List.isChain_cons]
    exact ⟨fun q _ => ⟨.inl rfl, by simp⟩, hright⟩
  ne_nil := by simp
  head_ne_blank := by simp
  last_ne_blank := by simp [List.getLast?_cons]

end Tidy

/-! ### Reading back -/

/-- A name that is no keyword. -/
def IsColumnName (s : Text) : Prop := isName s = true ∧ s ∉ Keyword.all.map Keyword.text

instance (s : Text) : Decidable (IsColumnName s) := inferInstanceAs (Decidable (_ ∧ _))

namespace Piece

theorem ofRun?_placeholder (n : Nat) : ofRun? (Filter.placeholder n) = some (placeholder n) := by
  have hfind : (fixed.find? fun p => p.text Filter.placeholder == Filter.placeholder n) = none := by
    rw [List.find?_eq_none]
    intro p hp
    have hhead : ∀ p ∈ fixed, (p.text Filter.placeholder).head? ≠ some '@' := by decide
    have hp := hhead p hp
    contrapose! hp
    rw [eq_of_beq hp]
    rfl
  rw [ofRun?, hfind, placeholderIndex?_placeholder]

theorem ofRun?_column {s : Text} (h : IsColumnName s) : ofRun? s = some (column s) := by
  have hfixed : ∀ p ∈ fixed, isName (p.text Filter.placeholder) = true →
      p.text Filter.placeholder ∈ Keyword.all.map Keyword.text := by decide
  have hfind : (fixed.find? fun p => p.text Filter.placeholder == s) = none := by
    rw [List.find?_eq_none]
    intro p hp he
    obtain rfl := eq_of_beq he
    exact h.2 (hfixed p hp h.1)
  have hindex : placeholderIndex? s = none := by
    unfold placeholderIndex?
    split
    · exact absurd h.1 (by simp [isName])
    · rfl
  rw [ofRun?, hfind, hindex]
  exact if_pos h.1

/-- The text of the piece is cut at neither end nor inside, but it may be a separator. -/
def Whole (p : Piece) : Prop := p.isSeparator = true ∨ IsWord (p.text Filter.placeholder)

theorem whole_of_ofRun? {run : Text} {p : Piece} (h : ofRun? run = some p) : p.Whole := by
  unfold ofRun? at h
  split at h
  · rename_i hfind
    cases h
    have hfixed : ∀ p ∈ fixed, p.isSeparator = true ∨ IsWord (p.text Filter.placeholder) := by decide
    exact hfixed p (List.mem_of_find?_eq_some hfind)
  split at h
  · cases h
    exact .inr (isWord_placeholder _)
  split at h <;> cases h
  rename_i hname
  exact .inr (isWord_of_isCollation hname)

theorem isSeparator_of_text {p : Piece} (h : p.isSeparator = true) (name : Nat → Text) :
    ∃ c, p.text name = [c] ∧ Sql.isSeparator c = true := by
  cases p with
  | leftParen => exact ⟨'(', rfl, rfl⟩
  | rightParen => exact ⟨')', rfl, rfl⟩
  | comma => exact ⟨',', rfl, rfl⟩
  | blank => exact ⟨' ', rfl, rfl⟩
  | _ => cases h

theorem Whole.text_ne_nil {p : Piece} (h : p.Whole) : p.text Filter.placeholder ≠ [] := by
  rcases h with h | h
  · obtain ⟨c, hc, -⟩ := isSeparator_of_text h Filter.placeholder
    simp [hc]
  · exact h.ne_nil

/-- No run ends inside the piece. -/
theorem Whole.isChain_text {p : Piece} (h : p.Whole) :
    (p.text Filter.placeholder).IsChain fun c d => (!Sql.isSeparator c && !Sql.isSeparator d) = true := by
  rcases h with h | h
  · obtain ⟨c, hc, -⟩ := isSeparator_of_text h Filter.placeholder
    rw [hc]
    exact .singleton c
  · apply List.Pairwise.isChain
    apply List.pairwise_of_forall_mem_list
    intro c hc d hd
    simp [h.not_separator c hc, h.not_separator d hd]

end Piece

theorem readRuns?_cons {run : Text} (h : run ≠ Keyword.collate.text) (rest : List Text) :
    readRuns? (run :: rest) = (Piece.ofRun? run).bind fun piece => (readRuns? rest).map (piece :: ·) := by
  rw [readRuns?.eq_def]
  exact if_neg h

theorem readRuns?_append {rs rs' : List Text} {ps : List Piece} (h : readRuns? rs = some ps) :
    readRuns? (rs ++ rs') = (readRuns? rs').map (ps ++ ·) := by
  fun_induction readRuns? rs generalizing ps with
  | case1 =>
    cases h
    simp
  | case2 blank name rest hname ih =>
    obtain ⟨qs, hqs, rfl⟩ := Option.map_eq_some_iff.1 h
    simp only [List.cons_append, readRuns?, if_true, if_pos hname, ih hqs, Option.map_map]
    rfl
  | case3 => cases h
  | case4 => cases h
  | case5 run rest hrun ih =>
    obtain ⟨p, hp, hrest⟩ := Option.bind_eq_some_iff.1 h
    obtain ⟨qs, hqs, rfl⟩ := Option.map_eq_some_iff.1 hrest
    rw [List.cons_append, readRuns?_cons hrun, hp, Option.bind_some, ih hqs, Option.map_map]
    rfl

theorem whole_of_readRuns? {rs : List Text} {ps : List Piece} (h : readRuns? rs = some ps) : ∀ p ∈ ps, p.Whole := by
  fun_induction readRuns? rs generalizing ps with
  | case1 =>
    cases h
    simp
  | case2 blank name rest hname ih =>
    obtain ⟨qs, hqs, rfl⟩ := Option.map_eq_some_iff.1 h
    have hcollate : IsWord Keyword.collate.text := by decide
    intro p hp
    simp only [List.cons_append, List.nil_append, List.mem_cons] at hp
    rcases hp with rfl | rfl | rfl | hp
    · exact .inr hcollate
    · exact .inl rfl
    · exact .inr (isWord_of_isCollation hname.2)
    · exact ih hqs p hp
  | case3 => cases h
  | case4 => cases h
  | case5 run rest hrun ih =>
    obtain ⟨p, hp, hrest⟩ := Option.bind_eq_some_iff.1 h
    obtain ⟨qs, hqs, rfl⟩ := Option.map_eq_some_iff.1 hrest
    intro q hq
    rcases List.mem_cons.1 hq with rfl | hq
    · exact Piece.whole_of_ofRun? hp
    · exact ih hqs q hq

/-- The pieces are what their own texts are read as. -/
def ReadBack (ps : List Piece) : Prop := readRuns? (ps.map (Piece.text placeholder)) = some ps

instance (ps : List Piece) : Decidable (ReadBack ps) := inferInstanceAs (Decidable (_ = _))

theorem ReadBack.append {ps qs : List Piece} (hps : ReadBack ps) (hqs : ReadBack qs) : ReadBack (ps ++ qs) := by
  rw [ReadBack, List.map_append, readRuns?_append hps, hqs]
  rfl

theorem readBack_singleton {p : Piece} (h : Piece.ofRun? (p.text placeholder) = some p)
    (hcollate : p.text placeholder ≠ Keyword.collate.text) : ReadBack [p] := by
  rw [ReadBack, List.map_singleton, readRuns?_cons hcollate, h]
  rfl

theorem readBack_placeholder (n : Nat) : ReadBack [.placeholder n] := by
  refine readBack_singleton (p := .placeholder n) (Piece.ofRun?_placeholder n) ?_
  intro he
  have hhead : some '@' = some 'C' := congrArg List.head? he
  exact absurd hhead (by decide)

theorem readBack_column {s : Text} (h : IsColumnName s) : ReadBack [.column s] := by
  refine readBack_singleton (p := .column s) (Piece.ofRun?_column h) ?_
  intro he
  exact h.2 (List.mem_map.2 ⟨.collate, by decide, he.symm⟩)

theorem readBack_collation {s : Text} (h : isName s = true) : ReadBack [.keyword .collate, .blank, .collation s] := by
  simp [ReadBack, readRuns?, Piece.text, h]

/-- The pieces are cut apart where they were put together. -/
theorem pieces?_flatMap_text {ps : List Piece} (hfits : ps.IsChain Piece.Fits) (hread : ReadBack ps) :
    pieces? (ps.flatMap (Piece.text placeholder)) = some ps := by
  have hwhole := whole_of_readRuns? hread
  have hruns : runs (ps.flatMap (Piece.text placeholder)) = ps.map (Piece.text placeholder) := by
    rw [List.flatMap_def, runs]
    apply List.splitBy_flatten
    · intro hnil
      obtain ⟨p, hp, he⟩ := List.mem_map.1 hnil
      exact (hwhole p hp).text_ne_nil he
    · intro s hs
      obtain ⟨p, hp, rfl⟩ := List.mem_map.1 hs
      exact (hwhole p hp).isChain_text
    · rw [List.isChain_map]
      refine hfits.imp_of_mem_imp ?_
      intro p q hp hq hpq
      refine ⟨(hwhole p hp).text_ne_nil, (hwhole q hq).text_ne_nil, ?_⟩
      -- One of the two is a separator, and then it is a single character.
      rcases hpq.1 with h | h
      · obtain ⟨c, hc, hsep⟩ := Piece.isSeparator_of_text h placeholder
        simp [hc, hsep]
      · obtain ⟨c, hc, hsep⟩ := Piece.isSeparator_of_text h placeholder
        simp [hc, hsep]
  rw [pieces?, hruns, hread]

end Roster.Filter
