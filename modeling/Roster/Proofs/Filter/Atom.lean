import Roster.Proofs.Filter.Items
import Roster.Proofs.Filter.Word

/-!
# Values that may stand alone and in lists

A quotation is a value by itself and an item of a list, and so is a word without a comma. In both places it stands for the same literal, though two readers of their own take it (`Atom.literals?_token`, `Atom.isItem`): nothing in it can end a token or an item too soon.
-/

namespace Roster.Filter

open Text

theorem Quotation.scan_spelling (q : Quotation) : scan q.spelling = .ok [⟨.quoted q.text, 0⟩] := by
  refine scanFrom_of_first (isBlank_of_isQuote q.isQuote_quote) ?_
  rw [Token.first, if_pos q.isQuote_quote, untilQuote_append_quote q.quote_not_mem]

theorem scan_list {raw : Text} (h : Closed (· ≠ ']') raw) :
    scan ('[' :: (raw ++ [']'])) = .ok [⟨.list raw, 0⟩] := by
  have hraw : untilBracket 0 none 1 (raw ++ [']']) = .ok (raw, []) := untilBracket_closed h 0 1 []
  exact scanFrom_of_first rfl (congrArg (Except.map (Prod.map Token.list id)) hraw)

/-- A text is one word if it has no blank, no quote, no bracket and no character of operators. -/
theorem scan_of_plain {text : Text} (hne : text ≠ [])
    (h : ∀ c ∈ text, isBlank c = false ∧ isQuote c = false ∧ isBracket c = false ∧ isOperatorChar c = false) :
    scan text = .ok [⟨.word text, 0⟩] := by
  have htail (last : Char) {s : Text} (hs : ∀ c ∈ s, c ∈ text) : wordTail last s = (s, []) := by
    induction s generalizing last with
    | nil => rfl
    | cons c s ih =>
      rw [List.forall_mem_cons] at hs
      obtain ⟨hblank, hquote, hbracket, hoperator⟩ := h c hs.1
      have hends : endsWord last c s = false := by simp [endsWord, hblank, hquote, hbracket, hoperator]
      rw [wordTail, if_neg (by simp [hends]), ih c hs.2]
      rfl
  obtain ⟨c, s, rfl⟩ := List.exists_cons_of_ne_nil hne
  obtain ⟨hblank, hquote, hbracket, hoperator⟩ := h c List.mem_cons_self
  have hnot (d : Char) (hd : isBracket d = true) : c ≠ d := by
    rintro rfl
    simp [hd] at hbracket
  refine scanFrom_of_first hblank ?_
  rw [Token.first, if_neg (by simp [hquote]), if_neg (hnot '(' rfl), if_neg (hnot ')' rfl), if_neg (hnot '[' rfl),
    if_neg (hnot ']' rfl), if_neg (by simp [hoperator]), htail c fun d hd => List.mem_cons_of_mem c hd]
  rfl

/-- A value that may stand alone and in a list. -/
inductive Atom
  | quotation (q : Quotation)
  | word (text : Text) (hscan : scan text = .ok [⟨.word text, 0⟩]) (hcomma : ',' ∉ text)

namespace Atom

def spelling : Atom → Text
  | quotation q => q.spelling
  | word text _ _ => text

def token : Atom → Token
  | quotation q => .quoted q.text
  | word text _ _ => .word text

def literal : Atom → Literal
  | quotation q => .str q.text
  | word text _ _ => .ofWord text

theorem scan_spelling (a : Atom) : scan a.spelling = .ok [⟨a.token, 0⟩] := by
  cases a with
  | quotation q => exact q.scan_spelling
  | word text hscan hcomma => exact hscan

theorem literals?_token (a : Atom) {rule : Rule} (h : rule.takesList = false) :
    rule.literals? a.token = some [a.literal] := by
  cases a <;> simp [token, literal, Rule.literals?, h]

/-! ### Words -/

theorem ne_nil_of_scan {text : Text} (hscan : scan text = .ok [⟨.word text, 0⟩]) : text ≠ [] := by
  rintro rfl
  simp [scan, scanFrom] at hscan

theorem isWordChar_of_scan {text : Text} (hscan : scan text = .ok [⟨.word text, 0⟩]) :
    ∀ c ∈ text, isWordChar c = true :=
  isWordChar_of_scanFrom hscan (by simp)

theorem class_of_isWordChar {c : Char} (h : isWordChar c = true) :
    isBlank c = false ∧ isQuote c = false ∧ c ≠ '[' ∧ c ≠ ']' := by
  have hnot (d : Char) (hd : isWordChar d = false) : c ≠ d := by
    rintro rfl
    simp [h] at hd
  rcases isWordChar_iff.1 h with rfl | ⟨hblank, hquote, -, -⟩
  · decide
  · exact ⟨hblank, hquote, hnot '[' rfl, hnot ']' rfl⟩

/-! ### Items -/

section

variable {before : Text} (hbefore : ∀ c ∈ before, isBlank c = true)

include hbefore

theorem trim_spelling (a : Atom) : trim (before ++ a.spelling) = a.spelling := by
  cases a with
  | quotation q =>
    have hquote := isBlank_of_isQuote q.isQuote_quote
    apply trim_append hbefore (List.cons_ne_nil _ _)
    · rintro _ ⟨⟩
      exact hquote
    · show ∀ c ∈ (q.quote :: (q.text ++ [q.quote])).reverse.head?, isBlank c = false
      simp [hquote]
  | word text hscan hcomma =>
    have hclass : ∀ c ∈ text, isBlank c = false := fun c hc =>
      (class_of_isWordChar (isWordChar_of_scan hscan c hc)).1
    apply trim_append hbefore (ne_nil_of_scan hscan)
    · exact fun c hc => hclass c (List.mem_of_head? hc)
    · exact fun c hc => hclass c (List.mem_reverse.1 (List.mem_of_head? hc))

theorem isItem (a : Atom) : Items.IsItem (before ++ a.spelling) a.literal := by
  have htrim := trim_spelling hbefore a
  cases a with
  | quotation q => exact .quotation q htrim
  | word text hscan hcomma =>
    have hitem : Items.IsItem (before ++ text) (.ofWord (trim (before ++ text))) := by
      refine .word ?_ ?_
      · rw [show trim (before ++ text) = text from htrim]
        exact ne_nil_of_scan hscan
      · rw [show trim (before ++ text) = text from htrim]
        exact fun c hc => class_of_isWordChar (isWordChar_of_scan hscan c hc)
    rwa [show trim (before ++ text) = text from htrim] at hitem

end

/-- Outside its quotes a value has characters of words only, and no comma. -/
theorem closed {p : Char → Prop} (hword : ∀ c, isWordChar c = true → c ≠ ',' → p c) (a : Atom) : Closed p a.spelling := by
  cases a with
  | quotation q => exact .spelling q
  | word text hscan hcomma =>
    refine .of_forall fun c hc => ?_
    have hc' := isWordChar_of_scan hscan c hc
    refine ⟨(class_of_isWordChar hc').2.1, hword c hc' ?_⟩
    rintro rfl
    exact hcomma hc

/-! ### Lists -/

/-- The values with a comma and a blank between neighbours. -/
def listed (items : List Atom) : Text := join ", ".toList (items.map spelling)

theorem listed_quotations (qs : List Quotation) :
    listed (qs.map .quotation) = join ", ".toList (qs.map Quotation.spelling) := by
  rw [listed, List.map_map]
  rfl

theorem listed_cons_cons (a next : Atom) (rest : List Atom) :
    listed (a :: next :: rest) = a.spelling ++ ',' :: ' ' :: listed (next :: rest) := by
  simp [listed, join]

theorem closed_listed (items : List Atom) : Closed (· ≠ ']') (listed items) := by
  have hword : ∀ c, isWordChar c = true → c ≠ ',' → c ≠ ']' := fun c hc _ => (class_of_isWordChar hc).2.2.2
  match items with
  | [] => exact .nil
  | [a] => exact a.closed hword
  | a :: next :: rest =>
    have hrest := closed_listed (next :: rest)
    rw [listed_cons_cons]
    exact (a.closed hword).append (.char rfl (by decide) (.char rfl (by decide) hrest))

/-- Blanks may stand before the list, as they do before every item but the first. -/
theorem isList_listed {before : Text} (hbefore : ∀ c ∈ before, isBlank c = true) (a : Atom) (rest : List Atom) :
    Items.IsList (before ++ listed (a :: rest)) ((a :: rest).map literal) := by
  have hclosed (a : Atom) {before : Text} (hbefore : ∀ c ∈ before, isBlank c = true) :
      Closed (· ≠ ',') (before ++ a.spelling) :=
    ((Items.closed_of_isBlank hbefore).mono fun _ hc => hc.1).append (a.closed fun _ _ hc => hc)
  induction rest generalizing a before with
  | nil => exact ⟨_, .last (hclosed a hbefore), .cons (isItem hbefore a) .nil⟩
  | cons next rest ih =>
    have hblank : ∀ c ∈ [' '], isBlank c = true := List.all_eq_true.1 (by decide)
    obtain ⟨pieces, hcut, hitems⟩ := ih hblank next
    rw [listed_cons_cons, ← List.append_assoc]
    exact ⟨_, .comma (hclosed a hbefore) hcut, .cons (isItem hbefore a) hitems⟩

theorem read_listed {items : List Atom} (hne : items ≠ []) : Items.read (listed items) = .ok (items.map literal) := by
  obtain ⟨a, rest, rfl⟩ := List.exists_cons_of_ne_nil hne
  exact Items.read_eq_ok_iff.2 (isList_listed (List.forall_mem_nil _) a rest)

theorem literals?_list {items : List Atom} (hne : items ≠ []) {rule : Rule} (h : rule.takesList = true) :
    rule.literals? (.list (listed items)) = some (items.map literal) := by
  simp [Rule.literals?, h, read_listed hne, Except.toOption]

end Atom

end Roster.Filter
