import Mathlib.Data.List.Forall2
import Roster.Proofs.Filter.Quotation

/-!
# The grammar of lists

A list is cut at its commas outside quoted runs, and every piece is one quotation or one word with blanks around it. The reader of lists takes the characters one by one and looks at a piece when it is complete. The two agree (`Items.read_iff_isList`): what the reader has taken of a piece leaves the same quoted run open in both views, and a piece that stands for a value has no brackets outside its quoted runs, where the reader refuses them.
-/

namespace Roster.Filter

open Text

namespace Items

/-- The text is cut into the pieces at its commas outside quoted runs, all of which are closed. -/
inductive Cut : Text → List Text → Prop
  | last {piece : Text} (h : Closed (· ≠ ',') piece) : Cut piece [piece]
  | comma {piece s : Text} {pieces : List Text} (h : Closed (· ≠ ',') piece) (rest : Cut s pieces) :
    Cut (piece ++ ',' :: s) (piece :: pieces)

/-- The piece stands for the value: without the blanks around it, it is one quotation or one word. -/
inductive IsItem (piece : Text) : Literal → Prop
  | quotation (q : Quotation) (h : trim piece = q.spelling) : IsItem piece (.str q.text)
  | word (hne : trim piece ≠ [])
    (h : ∀ c ∈ trim piece, isBlank c = false ∧ isQuote c = false ∧ c ≠ '[' ∧ c ≠ ']') :
    IsItem piece (.ofWord (trim piece))

/-- The text is a list of the values. -/
def IsList (raw : Text) (items : List Literal) : Prop :=
  ∃ pieces, Cut raw pieces ∧ List.Forall₂ IsItem pieces items

/-- A text is cut in one way only. -/
theorem Cut.unique {raw : Text} {pieces pieces' : List Text} (h : Cut raw pieces) (h' : Cut raw pieces') :
    pieces = pieces' := by
  have hend : ∀ c ∈ ([] : Text).head?, isQuote c = false ∧ ¬c ≠ ',' := by simp
  have hcomma (s : Text) : ∀ c ∈ (',' :: s).head?, isQuote c = false ∧ ¬c ≠ ',' := by
    rintro _ ⟨⟩
    exact ⟨rfl, not_not_intro rfl⟩
  induction h generalizing pieces' with
  | @last piece hpiece =>
    generalize hraw : piece = raw at h'
    cases h' with
    | last => rfl
    | comma hpiece' =>
      rw [← List.append_nil piece] at hraw
      cases (hpiece.append_inj hpiece' hend (hcomma _) hraw).2
  | @comma piece s _ hpiece _ ih =>
    generalize hraw : piece ++ ',' :: s = raw at h'
    cases h' with
    | last hpiece' =>
      rw [← List.append_nil raw] at hraw
      cases (hpiece.append_inj hpiece' (hcomma _) hend hraw).2
    | comma hpiece' hrest' =>
      obtain ⟨rfl, hs⟩ := hpiece.append_inj hpiece' (hcomma _) (hcomma _) hraw
      obtain ⟨-, rfl⟩ := List.cons.inj hs
      rw [ih hrest']

/-! ### Pieces -/

/-- The reader passes over the character if it stands outside quoted runs. -/
def IsPlain (c : Char) : Prop := c ≠ ',' ∧ c ≠ '[' ∧ c ≠ ']'

theorem isQuote_of_isBlank {c : Char} (h : isBlank c = true) : isQuote c = false := by
  cases hquote : isQuote c with
  | false => rfl
  | true => simp [isBlank_of_isQuote hquote] at h

theorem isPlain_of_isBlank {c : Char} (h : isBlank c = true) : IsPlain c := by
  refine ⟨?_, ?_, ?_⟩ <;> rintro rfl <;> cases h

theorem closed_of_isBlank {s : Text} (h : ∀ c ∈ s, isBlank c = true) : Closed IsPlain s :=
  .of_forall fun c hc => ⟨isQuote_of_isBlank (h c hc), isPlain_of_isBlank (h c hc)⟩

theorem isItem_of_item {piece : Text} {value : Literal} (hpiece : Closed IsPlain piece) (h : item piece = .ok value) :
    IsItem piece value := by
  unfold item at h
  split at h
  · cases h
  rename_i c s htrim
  split at h
  · rename_i hquote
    split at h
    · rename_i hread
      cases h
      obtain ⟨q, rfl, hq⟩ := Quotation.exists_of_untilQuote hquote hread
      exact .quotation q (by rw [htrim, hq, List.append_nil])
    · cases h
  split at h
  · cases h
  rename_i hword
  cases h
  rw [← htrim] at hword ⊢
  have hword' : ∀ d ∈ trim piece, isQuote d = false ∧ isBlank d = false := by simpa using hword
  have hunquoted : ∀ d ∈ piece, isQuote d = false :=
    forall_of_forall_trim (fun d hd => (hword' d hd).1) fun d hd => isQuote_of_isBlank hd
  refine .word (by rw [htrim]; exact List.cons_ne_nil c s) ?_
  intro d hd
  have hplain : IsPlain d := hpiece.forall_of_unquoted hunquoted d (mem_of_mem_trim hd)
  exact ⟨(hword' d hd).2, (hword' d hd).1, hplain.2⟩

namespace IsItem

variable {piece : Text} {value : Literal}

theorem item (h : IsItem piece value) : item piece = .ok value := by
  cases h with
  | quotation q h =>
    have hread : untilQuote q.quote (q.text ++ [q.quote]) = some (q.text, []) :=
      untilQuote_append_quote q.quote_not_mem []
    rw [Items.item, h, Quotation.spelling]
    simp [q.isQuote_quote, hread]
  | word hne h =>
    obtain ⟨c, s, htrim⟩ := List.exists_cons_of_ne_nil hne
    rw [htrim] at h
    have hc : isQuote c = false := (h c List.mem_cons_self).2.1
    have hany : ((c :: s).any fun d => isQuote d || isBlank d) = false := by
      rw [List.any_eq_false]
      intro d hd
      simp [(h d hd).1, (h d hd).2.1]
    simp [Items.item, htrim, hc, hany]

/-- A piece that stands for a value has no brackets outside quoted runs. -/
theorem closed (h : IsItem piece value) (hpiece : Closed (· ≠ ',') piece) : Closed IsPlain piece := by
  cases h with
  | quotation q h =>
    obtain ⟨before, after, hs, hbefore, hafter⟩ := exists_eq_append_trim piece
    rw [hs, h]
    exact ((closed_of_isBlank hbefore).append (.spelling q)).append (closed_of_isBlank hafter)
  | word hne h =>
    have hunquoted : ∀ c ∈ piece, isQuote c = false :=
      forall_of_forall_trim (fun c hc => (h c hc).2.1) fun c hc => isQuote_of_isBlank hc
    have hbracket : ∀ c ∈ piece, c ≠ '[' ∧ c ≠ ']' :=
      forall_of_forall_trim (fun c hc => (h c hc).2.2) fun c hc => (isPlain_of_isBlank hc).2
    have hcomma : ∀ c ∈ piece, c ≠ ',' := hpiece.forall_of_unquoted hunquoted
    exact .of_forall fun c hc => ⟨hunquoted c hc, hcomma c hc, hbracket c hc⟩

end IsItem

/-! ### Reading -/

theorem readFrom_quoted {quote : Char} {text : Text} (hquote : quote ∉ text) (piece s : Text) :
    readFrom (some quote) piece (text ++ quote :: s) = readFrom none (quote :: (text.reverse ++ piece)) s := by
  induction text generalizing piece with
  | nil => simp [readFrom, quoteAfter]
  | cons c text ih =>
    obtain ⟨hc, htext⟩ := not_or.1 (List.mem_cons.not.1 hquote)
    simp [readFrom, quoteAfter, Ne.symm hc, ih htext]

theorem readFrom_closed {t : Text} (ht : Closed IsPlain t) (piece s : Text) :
    readFrom none piece (t ++ s) = readFrom none (t.reverse ++ piece) s := by
  induction ht generalizing piece with
  | nil => rfl
  | @char c t hquote hc _ ih =>
    obtain ⟨hcomma, hopen, hclose⟩ := hc
    simp [readFrom, quoteAfter, hquote, hcomma, hopen, hclose, ih]
  | quotation q _ ih =>
    have hcomma : q.quote ≠ ',' := q.quote_ne rfl
    have hopen : q.quote ≠ '[' := q.quote_ne rfl
    have hclose : q.quote ≠ ']' := q.quote_ne rfl
    rw [List.append_assoc, Quotation.spelling_append]
    simp [readFrom, quoteAfter, q.isQuote_quote, hcomma, hopen, hclose, readFrom_quoted q.quote_not_mem, ih,
      Quotation.spelling]

theorem readFrom_of_cut {raw : Text} {pieces : List Text} {items : List Literal} (hcut : Cut raw pieces)
    (hitems : List.Forall₂ IsItem pieces items) : readFrom none [] raw = .ok items := by
  induction hcut generalizing items with
  | @last piece hpiece =>
    cases hitems with
    | cons hitem hrest =>
      cases hrest
      have hread := readFrom_closed (hitem.closed hpiece) [] []
      rw [List.append_nil, List.append_nil] at hread
      simp [hread, readFrom, hitem.item, Except.map]
  | comma hpiece _ ih =>
    cases hitems with
    | cons hitem hrest =>
      rw [readFrom_closed (hitem.closed hpiece), List.append_nil]
      simp [readFrom, hitem.item, ih hrest, Except.map]

/-- The reader cuts the text from the middle of a piece on. -/
theorem exists_cut_of_readFrom {run : Option Char} {piece s : Text} {items : List Literal}
    (hpiece : Open IsPlain run piece.reverse) (h : readFrom run piece s = .ok items) :
    ∃ pieces, Cut (piece.reverse ++ s) pieces ∧ List.Forall₂ IsItem pieces items := by
  have hcomma (t : Text) (ht : Closed IsPlain t) : Closed (· ≠ ',') t := ht.mono fun c hc => hc.1
  fun_induction readFrom run piece s generalizing items with
  | case1 => cases h
  | case2 run piece hrun =>
    obtain ⟨value, hvalue, rfl⟩ := except_map_eq_ok.1 h
    obtain rfl : run = none := by simpa using hrun
    have hclosed := hpiece.of_none
    rw [List.append_nil]
    exact ⟨_, .last (hcomma _ hclosed), .cons (isItem_of_item hclosed hvalue) .nil⟩
  | case3 => cases h
  | case4 run piece c s hc value hvalue ih =>
    obtain ⟨values, hvalues, rfl⟩ := except_map_eq_ok.1 h
    obtain ⟨pieces, hcut, hitems⟩ := ih (.closed .nil) hvalues
    simp only [Bool.and_eq_true, Option.isNone_iff_eq_none, beq_iff_eq] at hc
    obtain ⟨rfl, rfl⟩ := hc
    have hclosed := hpiece.of_none
    exact ⟨_, .comma (hcomma _ hclosed) hcut, .cons (isItem_of_item hclosed hvalue) hitems⟩
  | case5 => cases h
  | case6 run piece c s hc hbracket ih =>
    have hplain : run = none → isQuote c = false → IsPlain c := by
      rintro rfl -
      simpa [IsPlain] using And.intro hc hbracket
    have hnext := hpiece.snoc hplain
    rw [← List.reverse_cons] at hnext
    simpa using ih hnext h

theorem read_eq_ok_iff {raw : Text} {items : List Literal} : read raw = .ok items ↔ IsList raw items := by
  have hread : read raw = .ok items ↔ readFrom none [] raw = .ok items := by
    unfold read
    split
    · -- A blank text is refused either way: it is one piece, which stands for nothing.
      rename_i htrim
      have hblank := trim_eq_nil.1 (List.isEmpty_iff.1 htrim)
      have hpiece := readFrom_closed (closed_of_isBlank hblank) [] []
      rw [List.append_nil, List.append_nil] at hpiece
      simp [hpiece, readFrom, item, List.isEmpty_iff.1 htrim, Except.map]
    · rfl
  rw [hread]
  constructor
  · intro h
    exact exists_cut_of_readFrom (.closed .nil) h
  · rintro ⟨pieces, hcut, hitems⟩
    exact readFrom_of_cut hcut hitems

/-- A text is read as a list of values exactly if it is one, and its pieces are determined by it. Where a filter has a list, it is taken with its values, and if it is none, the filter is refused at the position of the list. -/
theorem read_iff_isList (raw : Text) :
    (∀ items, read raw = .ok items ↔ IsList raw items) ∧
      (∀ pieces pieces', Cut raw pieces → Cut raw pieces' → pieces = pieces') ∧
      ∀ (collation column : Text) (op : Operator) (st : State) (position : Nat),
        st.phase = .value column op → op.rule.takesList = true →
          (∀ items, IsList raw items →
            st.step collation ⟨.list raw, position⟩ = .ok (st.compare collation column op items)) ∧
          ((¬∃ items, IsList raw items) →
            ∃ fault, st.step collation ⟨.list raw, position⟩ = .error (.invalidList position fault)) := by
  refine ⟨fun items => read_eq_ok_iff, fun pieces pieces' h h' => h.unique h', ?_⟩
  intro collation column op st position hphase hlist
  have hstep : st.step collation ⟨.list raw, position⟩ =
      ((read raw).mapError (ParseError.invalidList position)).map (st.compare collation column op) := by
    simp only [State.step, hphase, hlist, if_true]
    cases read raw <;> rfl
  constructor
  · intro items hitems
    rw [hstep, read_eq_ok_iff.2 hitems]
    rfl
  · intro hnone
    cases hread : read raw with
    | ok items => exact absurd ⟨items, read_eq_ok_iff.1 hread⟩ hnone
    | error fault =>
      refine ⟨fault, ?_⟩
      rw [hstep, hread]
      rfl

/-- Commas, brackets and other quotes in quotations, and values of all kinds; and two quotations in one piece. -/
theorem read_iff_isList_mixed :
    let op : Operator := ⟨"^^".toList, .member false⟩
    let st : State := { State.initial with phase := .value "Id".toList op }
    let raw := " 'a,]\"' ,\"\",\tx&&(1 , TRUE,-07".toList
    let items : List Literal := [.str "a,]\"".toList, .str [], .raw "x&&(1".toList, .bool true, .int (-7)]
    read raw = .ok items ∧ IsList raw items ∧
      st.step [] ⟨.list raw, 6⟩ = .ok (st.compare [] "Id".toList op items) ∧
      ∃ fault, st.step [] ⟨.list "'a' 'b'".toList, 6⟩ = .error (.invalidList 6 fault) := by
  intro op st raw items
  have h : read raw = .ok items := by decide +kernel
  have hlist : IsList raw items := ((read_iff_isList raw).1 items).1 h
  have hrefused : read "'a' 'b'".toList = .error (.malformedItem "'a' 'b'".toList) := by decide +kernel
  have hnone : ¬∃ items, IsList "'a' 'b'".toList items := by
    rintro ⟨values, hvalues⟩
    have hread := ((read_iff_isList _).1 values).2 hvalues
    rw [hrefused] at hread
    cases hread
  exact ⟨h, hlist, ((read_iff_isList raw).2.2 [] "Id".toList op st 6 rfl rfl).1 items hlist,
    ((read_iff_isList _).2.2 [] "Id".toList op st 6 rfl rfl).2 hnone⟩

end Items

end Roster.Filter
