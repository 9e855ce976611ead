import Roster.Text.Blank

/-!
# Texts

A text is the list of its characters. The offsets and lengths that a user sees count the bytes of its UTF-8 form, so `byteSize` and `splitAtByte?` speak of bytes, and everything else speaks of characters.
-/

namespace Roster

abbrev Text := List Char

namespace Text

/-! ### Bytes -/

/-- The length of the UTF-8 form. -/
def byteSize : Text → Nat
  | [] => 0
  | c :: s => c.utf8Size + byteSize s

@[simp] theorem byteSize_nil : byteSize [] = 0 := rfl

@[simp] theorem byteSize_cons (c : Char) (s : Text) : byteSize (c :: s) = c.utf8Size + byteSize s := rfl

@[simp] theorem byteSize_append (s t : Text) : byteSize (s ++ t) = byteSize s + byteSize t := by
  induction s with
  | nil => simp
  | cons c s ih => simp [ih, Nat.add_assoc]

theorem length_le_byteSize (s : Text) : s.length ≤ byteSize s := by
  induction s with
  | nil => exact Nat.le_refl _
  | cons c s ih =>
    have := c.utf8Size_pos
    simp only [List.length_cons, byteSize_cons]
    omega

/-- The first `n` bytes and the rest, if the `n`-th byte starts a character or ends the text. -/
def splitAtByte? : Nat → Text → Option (Text × Text)
  | 0, s => some ([], s)
  | _ + 1, [] => none
  | n + 1, c :: s =>
    if c.utf8Size ≤ n + 1 then
      (splitAtByte? (n + 1 - c.utf8Size) s).map fun parts => (c :: parts.1, parts.2)
    else none

theorem splitAtByte?_eq_some {n : Nat} {s before after : Text}
    (h : splitAtByte? n s = some (before, after)) : s = before ++ after ∧ before.byteSize = n := by
  fun_induction splitAtByte? n s generalizing before after with
  | case1 s => simp_all
  | case2 n => simp at h
  | case3 n c s hle ih =>
    obtain ⟨⟨x, y⟩, hxy, he⟩ := Option.map_eq_some_iff.1 h
    obtain ⟨rfl, rfl⟩ := Prod.mk.inj he
    obtain ⟨rfl, hsize⟩ := ih hxy
    exact ⟨rfl, by simp only [byteSize_cons, hsize]; omega⟩
  | case4 n c s hle => simp at h

@[simp] theorem splitAtByte?_append (before after : Text) :
    splitAtByte? before.byteSize (before ++ after) = some (before, after) := by
  induction before with
  | nil => cases after <;> simp [splitAtByte?]
  | cons c before ih =>
    have hpos := c.utf8Size_pos
    obtain ⟨n, hn⟩ : ∃ n, byteSize (c :: before) = n + 1 := ⟨c.utf8Size + byteSize before - 1, by simp; omega⟩
    have hrest : n + 1 - c.utf8Size = byteSize before := by rw [← hn, byteSize_cons]; omega
    rw [hn, List.cons_append, splitAtByte?, if_pos (by rw [← hn, byteSize_cons]; omega), hrest, ih]
    rfl

/-- The text with a character put in at a byte offset, if a character may stand there. -/
def insertAt? (s : Text) (offset : Nat) (c : Char) : Option Text :=
  (splitAtByte? offset s).map fun parts => parts.1 ++ c :: parts.2

@[simp] theorem insertAt?_append (before after : Text) (c : Char) :
    insertAt? (before ++ after) before.byteSize c = some (before ++ c :: after) := by
  simp [insertAt?]

/-! ### Trimming and cutting -/

def trimStart (s : Text) : Text := s.dropWhile isBlank

def trimEnd (s : Text) : Text := (s.reverse.dropWhile isBlank).reverse

/-- The text without the blanks around it. -/
def trim (s : Text) : Text := trimEnd (trimStart s)

theorem dropWhile_isBlank_eq_nil {s : Text} : s.dropWhile isBlank = [] ↔ ∀ c ∈ s, isBlank c = true := by
  induction s with
  | nil => simp
  | cons c s ih => cases hc : isBlank c <;> simp [List.dropWhile, hc, ih]

/-- Nothing is left of a blank text, and only of a blank text. -/
theorem trim_eq_nil {s : Text} : trim s = [] ↔ ∀ c ∈ s, isBlank c = true := by
  rw [trim, trimEnd, List.reverse_eq_nil_iff, dropWhile_isBlank_eq_nil, trimStart]
  constructor
  · intro h
    rw [← dropWhile_isBlank_eq_nil]
    cases hrest : s.dropWhile isBlank with
    | nil => rfl
    | cons c rest =>
      have hhead := List.head_dropWhile_not isBlank (l := s) (by simp [hrest])
      have hblank := h c (by simp [hrest])
      simp [hrest, hblank] at hhead
  · intro h c hc
    simp [dropWhile_isBlank_eq_nil.2 h] at hc

/-- Trimming takes away blanks at both ends and nothing else. -/
theorem exists_eq_append_trim (s : Text) :
    ∃ before after, s = before ++ trim s ++ after ∧ (∀ c ∈ before, isBlank c = true) ∧
      ∀ c ∈ after, isBlank c = true := by
  refine ⟨s.takeWhile isBlank, ((trimStart s).reverse.takeWhile isBlank).reverse, ?_, ?_, ?_⟩
  · have hend : trim s ++ ((trimStart s).reverse.takeWhile isBlank).reverse = trimStart s := by
      rw [trim, trimEnd, ← List.reverse_append, List.takeWhile_append_dropWhile, List.reverse_reverse]
    rw [List.append_assoc, hend, trimStart, List.takeWhile_append_dropWhile]
  · intro c hc
    exact List.all_eq_true.1 List.all_takeWhile c hc
  · intro c hc
    exact List.all_eq_true.1 List.all_takeWhile c (List.mem_reverse.1 hc)

theorem mem_of_mem_trim {s : Text} {c : Char} (h : c ∈ trim s) : c ∈ s := by
  obtain ⟨before, after, hs, -, -⟩ := exists_eq_append_trim s
  rw [hs]
  simp [h]

theorem forall_of_forall_trim {p : Char → Prop} {s : Text} (h : ∀ c ∈ trim s, p c)
    (hblank : ∀ c, isBlank c = true → p c) : ∀ c ∈ s, p c := by
  obtain ⟨before, after, hs, hbefore, hafter⟩ := exists_eq_append_trim s
  intro c hc
  rw [hs, List.mem_append, List.mem_append] at hc
  rcases hc with (hc | hc) | hc
  · exact hblank c (hbefore c hc)
  · exact h c hc
  · exact hblank c (hafter c hc)

theorem trim_append {before s : Text} (hbefore : ∀ c ∈ before, isBlank c = true) (hne : s ≠ [])
    (hhead : ∀ c ∈ s.head?, isBlank c = false) (hlast : ∀ c ∈ s.reverse.head?, isBlank c = false) :
    trim (before ++ s) = s := by
  have hstart : trimStart (before ++ s) = s := by
    obtain ⟨c, rest, rfl⟩ := List.exists_cons_of_ne_nil hne
    rw [trimStart, List.dropWhile_append_of_pos hbefore, List.dropWhile_cons_of_neg (by simp [hhead c rfl])]
  obtain ⟨d, rest, hreverse⟩ := List.exists_cons_of_ne_nil (List.reverse_ne_nil_iff.2 hne)
  have hd : isBlank d = false := hlast d (by rw [hreverse]; rfl)
  rw [trim, hstart, trimEnd, hreverse, List.dropWhile_cons_of_neg (by simp [hd]), ← hreverse, List.reverse_reverse]

/-- Trimming leaves alone what neither begins nor ends with a blank. -/
theorem trim_eq_self {s : Text} (hhead : ∀ c ∈ s.head?, isBlank c = false)
    (hlast : ∀ c ∈ s.getLast?, isBlank c = false) : trim s = s := by
  cases s with
  | nil => rfl
  | cons c rest =>
    rw [← List.head?_reverse] at hlast
    exact trim_append (List.forall_mem_nil _) (List.cons_ne_nil c rest) hhead hlast

theorem not_isBlank_of_getLast?_trim (s : Text) : ∀ c ∈ (trim s).getLast?, isBlank c = false := by
  intro c hc
  have hhead := List.head?_dropWhile_not isBlank (trimStart s).reverse
  rw [trim, trimEnd, List.getLast?_reverse] at hc
  rwa [hc] at hhead

theorem trimEnd_cons {c : Char} (hc : isBlank c = false) (s : Text) : trimEnd (c :: s) = c :: trimEnd s := by
  rw [trimEnd, trimEnd, List.reverse_cons, List.dropWhile_append]
  split
  · rename_i hnil
    rw [List.isEmpty_iff.1 hnil, List.dropWhile_cons_of_neg (by simp [hc])]
    rfl
  · rw [List.reverse_append]
    rfl

/-- The pieces between the characters that satisfy `p`; there is always at least one. -/
def cut (p : Char → Bool) : Text → List Text
  | [] => [[]]
  | c :: s =>
    if p c then [] :: cut p s
    else match cut p s with
      | [] => [[c]]
      | piece :: pieces => (c :: piece) :: pieces

theorem cut_ne_nil (p : Char → Bool) (s : Text) : cut p s ≠ [] := by
  fun_cases cut p s <;> simp

/-- The maximal runs of characters that are not blank. -/
def words (s : Text) : List Text := (cut isBlank s).filter fun piece => !piece.isEmpty

/-- The texts one after another, with `separator` between neighbours. -/
def join (separator : Text) : List Text → Text
  | [] => []
  | [s] => s
  | s :: t :: rest => s ++ separator ++ join separator (t :: rest)

/-- The two texts are the same but for the case of ASCII letters. -/
def sameIgnoringCase (s t : Text) : Bool := s.map Char.toLower == t.map Char.toLower

end Text

end Roster
