import Mathlib.Data.List.Basic
import Roster.Text.Basic

/-!
# Pieces and words

A text is cut at a character, or it is taken apart into words, in one way only. `Separated` and `Spaced` say how the parts make up the text, and the functions find these parts (`separated_cut`, `words_eq_iff`). Both go back to one equation: a text is cut on both sides of a separator independently.
-/

namespace Roster.Text

/-- The text is made of the pieces, with the character between neighbours and nowhere else. -/
inductive Separated (c : Char) : Text → List Text → Prop
  | last {piece : Text} (h : c ∉ piece) : Separated c piece [piece]
  | cons {piece s : Text} {pieces : List Text} (h : c ∉ piece) (rest : Separated c s pieces) :
    Separated c (piece ++ c :: s) (piece :: pieces)

/-- The text is made of the words, with blanks between neighbours and perhaps around them. -/
inductive Spaced : Text → List Text → Prop
  | blank {s : Text} (h : ∀ c ∈ s, isBlank c = true) : Spaced s []
  | word {before word rest : Text} {words : List Text} (hbefore : ∀ c ∈ before, isBlank c = true) (hne : word ≠ [])
    (hword : ∀ c ∈ word, isBlank c = false) (hrest : ∀ c ∈ rest.head?, isBlank c = true) (h : Spaced rest words) :
    Spaced (before ++ word ++ rest) (word :: words)

theorem not_isBlank_of_all {s : Text} (h : (s.all fun c => !isBlank c) = true) : ∀ c ∈ s, isBlank c = false := by
  simpa using h

section

variable {p : Char → Bool}

theorem cut_append_cons {c : Char} (hc : p c = true) (s t : Text) : cut p (s ++ c :: t) = cut p s ++ cut p t := by
  induction s with
  | nil => simp [cut, hc]
  | cons d s ih =>
    by_cases hd : p d = true
    · simp [cut, hd, ih]
    · obtain ⟨piece, pieces, hcut⟩ := List.exists_cons_of_ne_nil (cut_ne_nil p s)
      simp [cut, hd, ih, hcut]

theorem cut_of_forall {s : Text} (h : ∀ c ∈ s, p c = false) : cut p s = [s] := by
  induction s with
  | nil => rfl
  | cons c s ih =>
    rw [List.forall_mem_cons] at h
    simp [cut, h.1, ih h.2]

end

/-! ### Pieces -/

namespace Separated

variable {c : Char}

theorem cut_eq {s : Text} {pieces : List Text} (h : Separated c s pieces) : cut (· == c) s = pieces := by
  have hpiece {piece : Text} (h : c ∉ piece) : cut (· == c) piece = [piece] :=
    cut_of_forall fun d hd => beq_false_of_ne fun he => h (he ▸ hd)
  induction h with
  | last h => exact hpiece h
  | cons h rest ih => rw [cut_append_cons (p := (· == c)) (beq_self_eq_true c), hpiece h, ih, List.singleton_append]

theorem not_mem {s : Text} {pieces : List Text} (h : Separated c s pieces) : ∀ piece ∈ pieces, c ∉ piece := by
  induction h with
  | last h => simpa using h
  | cons h rest ih => exact List.forall_mem_cons.2 ⟨h, ih⟩

end Separated

theorem separated_cut (c : Char) (s : Text) : Separated c s (cut (· == c) s) := by
  induction s with
  | nil => exact .last List.not_mem_nil
  | cons d s ih =>
    by_cases hd : d = c
    · subst hd
      have hcons := Separated.cons List.not_mem_nil ih
      rwa [← (Separated.cons List.not_mem_nil ih).cut_eq] at hcons
    · have hnot {piece : Text} (h : c ∉ piece) : c ∉ d :: piece := by simp [h, Ne.symm hd]
      have hexists : ∃ pieces, Separated c (d :: s) pieces := by
        cases hcut : cut (· == c) s with
        | nil => exact absurd hcut (cut_ne_nil _ s)
        | cons piece pieces =>
          rw [hcut] at ih
          cases ih with
          | last h => exact ⟨_, .last (hnot h)⟩
          | cons h rest => exact ⟨_, .cons (hnot h) rest⟩
      obtain ⟨pieces, hpieces⟩ := hexists
      rwa [hpieces.cut_eq]

/-! ### Words -/

theorem words_append_cons {c : Char} (hc : isBlank c = true) (s t : Text) : words (s ++ c :: t) = words s ++ words t := by
  rw [words, cut_append_cons hc, List.filter_append]
  rfl

theorem words_append_of_blank {s : Text} (h : ∀ c ∈ s, isBlank c = true) (t : Text) : words (s ++ t) = words t := by
  induction s with
  | nil => rfl
  | cons c s ih =>
    rw [List.forall_mem_cons] at h
    exact (words_append_cons h.1 [] (s ++ t)).trans (ih h.2)

theorem words_of_forall {s : Text} (hne : s ≠ []) (h : ∀ c ∈ s, isBlank c = false) : words s = [s] := by
  rw [words, cut_of_forall h]
  simp [hne]

namespace Spaced

theorem words_eq {s : Text} {ws : List Text} (h : Spaced s ws) : words s = ws := by
  induction h with
  | @blank s h => simpa [words, cut] using words_append_of_blank h []
  | @word before word rest ws hbefore hne hword hrest h ih =>
    rw [List.append_assoc, words_append_of_blank hbefore]
    cases rest with
    | nil =>
      cases ih
      rw [List.append_nil, words_of_forall hne hword]
      rfl
    | cons c rest =>
      have hc : isBlank c = true := hrest c rfl
      rw [words_append_cons hc, words_of_forall hne hword, ← ih]
      exact congrArg (word :: ·) (words_append_cons hc [] rest).symm

theorem mem {s : Text} {ws : List Text} (h : Spaced s ws) :
    ∀ w ∈ ws, w ≠ [] ∧ ∀ c ∈ w, isBlank c = false ∧ c ∈ s := by
  induction h with
  | blank h => simp
  | @word before word rest ws hbefore hne hword hrest h ih =>
    refine List.forall_mem_cons.2 ⟨⟨hne, fun c hc => ⟨hword c hc, by simp [hc]⟩⟩, ?_⟩
    intro w hw
    obtain ⟨hne, hchars⟩ := ih w hw
    exact ⟨hne, fun c hc => ⟨(hchars c hc).1, by simp [(hchars c hc).2]⟩⟩

theorem word_append {word rest : Text} {ws : List Text} (hne : word ≠ []) (hword : ∀ c ∈ word, isBlank c = false)
    (hrest : ∀ c ∈ rest.head?, isBlank c = true) (h : Spaced rest ws) : Spaced (word ++ rest) (word :: ws) :=
  .word (List.forall_mem_nil _) hne hword hrest h

end Spaced

theorem exists_spaced (s : Text) : ∃ ws, Spaced s ws := by
  induction s with
  | nil => exact ⟨[], .blank (by simp)⟩
  | cons c s ih =>
    obtain ⟨ws, h⟩ := ih
    by_cases hc : isBlank c = true
    · cases h with
      | blank h => exact ⟨[], .blank (List.forall_mem_cons.2 ⟨hc, h⟩)⟩
      | word hbefore hne hword hrest h =>
        exact ⟨_, .word (List.forall_mem_cons.2 ⟨hc, hbefore⟩) hne hword hrest h⟩
    · have hc : isBlank c = false := by simpa using hc
      have hone : ∀ d ∈ [c], isBlank d = false := by simpa using hc
      cases h with
      | blank h =>
        exact ⟨_, .word_append (List.cons_ne_nil c []) hone (fun d hd => h d (List.mem_of_mem_head? hd)) (.blank h)⟩
      | @word before word rest ws hbefore hne hword hrest h =>
        cases before with
        | nil => exact ⟨_, .word_append (List.cons_ne_nil c word) (List.forall_mem_cons.2 ⟨hc, hword⟩) hrest h⟩
        | cons b before =>
          have hnext : ∀ d ∈ (b :: before ++ word ++ rest).head?, isBlank d = true := by simpa using hbefore b (by simp)
          exact ⟨_, .word_append (List.cons_ne_nil c []) hone hnext (.word hbefore hne hword hrest h)⟩

theorem words_eq_iff {s : Text} {ws : List Text} : words s = ws ↔ Spaced s ws := by
  constructor
  · rintro rfl
    obtain ⟨ws, h⟩ := exists_spaced s
    rwa [h.words_eq]
  · exact Spaced.words_eq

end Roster.Text
