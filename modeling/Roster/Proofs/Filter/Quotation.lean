import Roster.Proofs.Filter.Respelling

/-!
# Quoted runs

A quoted run ends at the next quote of the kind that opened it, whatever stands between the two. Tokens, lists and list items are all read by this rule, each by a scan of its own. A text that is `Closed` leaves no run open and holds none of certain characters outside its runs, so a scan that looks for these characters passes over the whole of it.
-/

namespace Roster.Filter

open Text

/-- A text in quotes that do not occur in it. -/
structure Quotation where
  quote : Char
  text : Text
  isQuote_quote : isQuote quote = true
  quote_not_mem : quote ∉ text

namespace Quotation

def spelling (q : Quotation) : Text := q.quote :: (q.text ++ [q.quote])

theorem spelling_append (q : Quotation) (s : Text) : q.spelling ++ s = q.quote :: (q.text ++ q.quote :: s) := by
  simp [spelling]

theorem quote_ne (q : Quotation) {c : Char} (h : isQuote c = false) : q.quote ≠ c := by
  rintro rfl
  simp [q.isQuote_quote] at h

/-- What is read up to the next quote was in quotes. -/
theorem exists_of_untilQuote {c : Char} {s text rest : Text} (hc : isQuote c = true)
    (h : untilQuote c s = some (text, rest)) : ∃ q : Quotation, q.text = text ∧ c :: s = q.spelling ++ rest := by
  refine ⟨⟨c, text, hc, not_mem_of_untilQuote h⟩, rfl, ?_⟩
  rw [spelling_append]
  exact congrArg (c :: ·) (untilQuote_eq_some h)

/-- A text starts with one quotation at most. -/
theorem append_inj {q q' : Quotation} {s s' : Text} (h : q.spelling ++ s = q'.spelling ++ s') :
    q.spelling = q'.spelling ∧ s = s' := by
  rw [spelling_append, spelling_append] at h
  obtain ⟨hquote, hrest⟩ := List.cons.inj h
  have huntil := untilQuote_append_quote q.quote_not_mem s
  rw [hrest, hquote, untilQuote_append_quote q'.quote_not_mem s'] at huntil
  obtain ⟨htext, rfl⟩ := Prod.mk.inj (Option.some.inj huntil)
  exact ⟨by rw [spelling, spelling, hquote, htext], rfl⟩

end Quotation

/-! ### Closed texts -/

/-- The quoted runs of the text are closed, and the characters outside them satisfy `p`. -/
inductive Closed (p : Char → Prop) : Text → Prop
  | nil : Closed p []
  | char {c : Char} {s : Text} (hquote : isQuote c = false) (hc : p c) (rest : Closed p s) : Closed p (c :: s)
  | quotation (q : Quotation) {s : Text} (rest : Closed p s) : Closed p (q.spelling ++ s)

namespace Closed

variable {p p' : Char → Prop} {s s' t t' : Text}

theorem append (hs : Closed p s) (ht : Closed p t) : Closed p (s ++ t) := by
  induction hs with
  | nil => exact ht
  | char hquote hc _ ih => exact .char hquote hc ih
  | quotation q _ ih =>
    rw [List.append_assoc]
    exact .quotation q ih

theorem spelling (q : Quotation) : Closed p q.spelling := by
  simpa using Closed.quotation q .nil

theorem of_forall (h : ∀ c ∈ s, isQuote c = false ∧ p c) : Closed p s := by
  induction s with
  | nil => exact .nil
  | cons c s ih =>
    rw [List.forall_mem_cons] at h
    exact .char h.1.1 h.1.2 (ih h.2)

theorem mono (h : ∀ c, p c → p' c) (hs : Closed p s) : Closed p' s := by
  induction hs with
  | nil => exact .nil
  | char hquote hc _ ih => exact .char hquote (h _ hc) ih
  | quotation q _ ih => exact .quotation q ih

/-- In a text without quotes all characters are outside quoted runs. -/
theorem forall_of_unquoted (hs : Closed p s) (h : ∀ c ∈ s, isQuote c = false) : ∀ c ∈ s, p c := by
  induction hs with
  | nil => simp
  | char _ hc _ ih =>
    rw [List.forall_mem_cons] at h ⊢
    exact ⟨hc, ih h.2⟩
  | quotation q =>
    have hquote := h q.quote (by simp [Quotation.spelling])
    simp [q.isQuote_quote] at hquote

/-- What stands before the first excluded character outside quoted runs is determined by the text. -/
theorem append_inj (hs : Closed p s) (hs' : Closed p s') (ht : ∀ c ∈ t.head?, isQuote c = false ∧ ¬p c)
    (ht' : ∀ c ∈ t'.head?, isQuote c = false ∧ ¬p c) (h : s ++ t = s' ++ t') : s = s' ∧ t = t' := by
  induction hs generalizing s' with
  | nil =>
    subst h
    cases hs' with
    | nil => exact ⟨rfl, rfl⟩
    | char _ hc => exact absurd hc (ht _ rfl).2
    | quotation q => simpa [q.isQuote_quote] using ht q.quote rfl
  | char hquote hc hs ih =>
    cases hs' with
    | nil =>
      subst h
      exact absurd hc (ht' _ rfl).2
    | char _ _ hrest =>
      obtain ⟨rfl, hcons⟩ := List.cons.inj h
      obtain ⟨rfl, rfl⟩ := ih hrest hcons
      exact ⟨rfl, rfl⟩
    | quotation q =>
      obtain ⟨rfl, -⟩ := List.cons.inj h
      simp [q.isQuote_quote] at hquote
  | quotation q hs ih =>
    cases hs' with
    | nil =>
      subst h
      simpa [q.isQuote_quote] using ht' q.quote rfl
    | char hquote =>
      obtain ⟨rfl, -⟩ := List.cons.inj h
      simp [q.isQuote_quote] at hquote
    | quotation q' hrest =>
      rw [List.append_assoc, List.append_assoc] at h
      obtain ⟨hspelling, htail⟩ := Quotation.append_inj h
      obtain ⟨rfl, rfl⟩ := ih hrest htail
      exact ⟨by rw [hspelling], rfl⟩

theorem of_cons {c : Char} (hc : isQuote c = false) (h : Closed p (c :: s)) : p c ∧ Closed p s := by
  generalize htext : c :: s = text at h
  cases h with
  | nil => cases htext
  | char _ hd hrest =>
    obtain ⟨rfl, rfl⟩ := List.cons.inj htext
    exact ⟨hd, hrest⟩
  | quotation q =>
    obtain ⟨rfl, -⟩ := List.cons.inj htext
    simp [q.isQuote_quote] at hc

theorem of_quotation (q : Quotation) (h : Closed p (q.spelling ++ s)) : Closed p s := by
  generalize htext : q.spelling ++ s = text at h
  cases h with
  | nil => cases htext
  | char hquote =>
    obtain ⟨rfl, -⟩ := List.cons.inj htext
    simp [q.isQuote_quote] at hquote
  | quotation q' hrest =>
    obtain ⟨-, rfl⟩ := Quotation.append_inj htext
    exact hrest

/-- A closed text in front of a closed text leaves a closed text. -/
theorem of_append (hs : Closed p' s) (h : Closed p (s ++ t)) : Closed p s ∧ Closed p t := by
  induction hs with
  | nil => exact ⟨.nil, h⟩
  | char hquote _ _ ih =>
    obtain ⟨hc, hrest⟩ := of_cons hquote h
    exact (ih hrest).imp_left (.char hquote hc)
  | quotation q _ ih =>
    rw [List.append_assoc] at h
    exact (ih (of_quotation q h)).imp_left (.quotation q)

/-- A run without an end is not closed. -/
theorem not_run (hs : Closed p' s) {quote : Char} (hquote : isQuote quote = true) (hnot_mem : quote ∉ t) :
    ¬Closed p (s ++ quote :: t) := by
  intro h
  have hrun := (hs.of_append h).2
  generalize htext : quote :: t = text at hrun
  cases hrun with
  | nil => cases htext
  | char hchar =>
    obtain ⟨rfl, -⟩ := List.cons.inj htext
    simp [hquote] at hchar
  | quotation q =>
    obtain ⟨rfl, rfl⟩ := List.cons.inj htext
    simp at hnot_mem

/-- Unless the text is closed, its first part is, and then comes an excluded character or a run without an end. -/
theorem or_stops (p : Char → Prop) (s : Text) :
    Closed p s ∨
      (∃ before c after, s = before ++ c :: after ∧ Closed p before ∧ isQuote c = false ∧ ¬p c) ∨
      ∃ before quote after, s = before ++ quote :: after ∧ Closed p before ∧ isQuote quote = true ∧ quote ∉ after := by
  induction hlength : s.length using Nat.strongRecOn generalizing s with
  | ind n ih =>
    -- What stands before `t` is closed, so `s` stops where `t` does.
    have hpass {u t : Text} (hu : Closed p u) (hs : s = u ++ t) (hlt : t.length < n) :
        Closed p s ∨ (∃ before c after, s = before ++ c :: after ∧ Closed p before ∧ isQuote c = false ∧ ¬p c) ∨
          ∃ before quote after,
            s = before ++ quote :: after ∧ Closed p before ∧ isQuote quote = true ∧ quote ∉ after := by
      subst hs
      rcases ih _ hlt t rfl with ht | ⟨before, c, after, rfl, hbefore, hc⟩ | ⟨before, c, after, rfl, hbefore, hc⟩
      · exact .inl (hu.append ht)
      · exact .inr (.inl ⟨u ++ before, c, after, by simp, hu.append hbefore, hc⟩)
      · exact .inr (.inr ⟨u ++ before, c, after, by simp, hu.append hbefore, hc⟩)
    cases s with
    | nil => exact .inl .nil
    | cons c s =>
      rw [List.length_cons] at hlength
      cases hquote : isQuote c with
      | false =>
        by_cases hc : p c
        · have hchar : Closed p [c] := .char hquote hc .nil
          exact hpass hchar rfl (by omega)
        · exact .inr (.inl ⟨[], c, s, rfl, .nil, hquote, hc⟩)
      | true =>
        cases huntil : untilQuote c s with
        | none => exact .inr (.inr ⟨[], c, s, rfl, .nil, hquote, untilQuote_eq_none_iff.1 huntil⟩)
        | some parts =>
          obtain ⟨q, -, hs⟩ := Quotation.exists_of_untilQuote hquote huntil
          have hrest := length_of_untilQuote huntil
          exact hpass (.spelling q) hs (by omega)

end Closed

/-! ### Open runs -/

/-- The quoted runs of the text are closed but for the one that is open at its end, if there is one. -/
inductive Open (p : Char → Prop) : Option Char → Text → Prop
  | closed {s : Text} (h : Closed p s) : Open p none s
  | run {quote : Char} {s text : Text} (h : Closed p s) (hquote : isQuote quote = true) (hnot_mem : quote ∉ text) :
    Open p (some quote) (s ++ quote :: text)

theorem Open.of_none {p : Char → Prop} {s : Text} (h : Open p none s) : Closed p s := by
  cases h with
  | closed h => exact h

theorem Open.snoc {p : Char → Prop} {run : Option Char} {s : Text} {c : Char} (h : Open p run s)
    (hc : run = none → isQuote c = false → p c) : Open p (quoteAfter run c) (s ++ [c]) := by
  cases h with
  | closed hs =>
    cases hquote : isQuote c with
    | true => simpa [quoteAfter, hquote] using Open.run hs hquote List.not_mem_nil
    | false =>
      have hchar : Closed p (s ++ [c]) := hs.append (.char hquote (hc rfl hquote) .nil)
      simpa [quoteAfter, hquote] using Open.closed hchar
  | @run quote s text hs hquote hnot_mem =>
    by_cases hclose : c = quote
    · subst hclose
      have hrun : Closed p (s ++ c :: (text ++ [c])) := hs.append (.spelling ⟨c, text, hquote, hnot_mem⟩)
      simpa [quoteAfter] using Open.closed hrun
    · have hopen : quote ∉ text ++ [c] := by simp [hnot_mem, Ne.symm hclose]
      simpa [quoteAfter, hclose] using Open.run hs hquote hopen

/-! ### Lists -/

theorem untilBracket_run {quote : Char} {text : Text} (h : quote ∉ text) (start opened here : Nat) (t : Text) :
    untilBracket start (some (quote, opened)) here (text ++ quote :: t) =
      (untilBracket start none (here + byteSize (text ++ [quote])) t).map (Prod.map (text ++ quote :: ·) id) := by
  induction text generalizing here with
  | nil => simp [untilBracket, quoteAfter]
  | cons c text ih =>
    obtain ⟨hc, htext⟩ := not_or.1 (List.mem_cons.not.1 h)
    simp only [List.cons_append, untilBracket, quoteAfter, Ne.symm hc, Option.map_some, reduceCtorEq, and_false,
      if_false, Option.getD_some, ih htext, except_map_map, byteSize_cons, Nat.add_assoc]
    rfl

theorem untilBracket_unended {quote : Char} {s : Text} (h : quote ∉ s) (start opened here : Nat) :
    untilBracket start (some (quote, opened)) here s = .error (.unterminatedString opened) := by
  induction s generalizing here with
  | nil => rfl
  | cons c s ih =>
    obtain ⟨hc, hs⟩ := not_or.1 (List.mem_cons.not.1 h)
    simp [untilBracket, quoteAfter, Ne.symm hc, ih hs, Except.map]

/-- A list goes on as long as no `]` stands outside quoted runs. -/
theorem untilBracket_append_of_closed {s : Text} (hs : Closed (· ≠ ']') s) (start here : Nat) (t : Text) :
    untilBracket start none here (s ++ t) =
      (untilBracket start none (here + byteSize s) t).map (Prod.map (s ++ ·) id) := by
  induction hs generalizing here with
  | nil =>
    rw [List.nil_append, byteSize_nil, Nat.add_zero]
    cases untilBracket start none here t <;> rfl
  | char hquote hc _ ih =>
    simp only [List.cons_append, untilBracket, hc, quoteAfter, hquote, false_and, if_false, Option.map_none,
      Bool.false_eq_true, ih, except_map_map, byteSize_cons, Nat.add_assoc]
    rfl
  | @quotation q s _ ih =>
    have hne : q.quote ≠ ']' := q.quote_ne rfl
    have hsize : here + q.quote.utf8Size + byteSize (q.text ++ [q.quote]) + byteSize s =
        here + byteSize (q.spelling ++ s) := by
      simp only [Quotation.spelling, List.cons_append, byteSize_cons, byteSize_append, Nat.add_assoc]
    rw [List.append_assoc, Quotation.spelling_append, untilBracket, if_neg (mt And.left hne)]
    simp only [quoteAfter, q.isQuote_quote, if_true, Option.map_none, Option.map_some, Option.getD_none]
    rw [untilBracket_run q.quote_not_mem, ih, hsize, except_map_map, except_map_map]
    congr 1
    funext parts
    simp [Quotation.spelling, Prod.map]

theorem untilBracket_closed {s : Text} (hs : Closed (· ≠ ']') s) (start here : Nat) (rest : Text) :
    untilBracket start none here (s ++ ']' :: rest) = .ok (s, rest) := by
  rw [untilBracket_append_of_closed hs, untilBracket, if_pos ⟨rfl, rfl⟩]
  simp [Except.map, Prod.map]

end Roster.Filter
