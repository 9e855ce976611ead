import Roster.Proofs.Filter.Source

/-!
# The grammar of filters

A filter is one or more operands with `&&` or `||` between neighbours. An operand is a filter in parentheses, a column compared with one value, or a column tested for membership in a list. The compiler accepts the texts whose tokens the grammar derives, and blank texts, if they are not too long (`exists_compile_iff`).
-/

namespace Roster.Filter

open Text

inductive Category
  | filter
  | operand

/-- The grammar derives the tokens in a category. -/
inductive Derives : Category → List Token → Prop
  | operand {ts : List Token} (h : Derives .operand ts) : Derives .filter ts
  | join {ts us : List Token} {symbol : Text} (left : Derives .filter ts)
    (connective : symbol = "&&".toList ∨ symbol = "||".toList) (right : Derives .operand us) :
    Derives .filter (ts ++ .operator symbol :: us)
  | group {ts : List Token} (h : Derives .filter ts) : Derives .operand (.leftParen :: ts ++ [.rightParen])
  | scalar {column text : Text} {op : Operator} {value : Token} (known : op ∈ Operator.all)
    (test : op.rule.connective? = none) (one : op.rule.takesList = false)
    (hvalue : value = .word text ∨ value = .quoted text) :
    Derives .operand [.word column, .operator op.symbol, value]
  | list {column raw : Text} {op : Operator} {items : List Literal} (known : op ∈ Operator.all)
    (test : op.rule.connective? = none) (many : op.rule.takesList = true) (hraw : Items.read raw = .ok items) :
    Derives .operand [.word column, .operator op.symbol, .list raw]

/-- A tree of the category is spelled by the tokens. -/
def Category.Spelled : Category → List Token → Prop
  | .filter, ts => ∃ e : Chain, e.tokens = ts
  | .operand, ts => ∃ x : Operand, x.tokens = ts

theorem Derives.spelled {category : Category} {ts : List Token} (h : Derives category ts) :
    category.Spelled ts := by
  induction h with
  | operand _ ih =>
    obtain ⟨x, rfl⟩ := ih
    exact ⟨.single x, rfl⟩
  | join _ hsymbol _ ihleft ihright =>
    obtain ⟨e, rfl⟩ := ihleft
    obtain ⟨x, rfl⟩ := ihright
    rcases hsymbol with rfl | rfl
    · exact ⟨.join e .and x, rfl⟩
    · exact ⟨.join e .or x, rfl⟩
  | group _ ih =>
    obtain ⟨e, rfl⟩ := ih
    exact ⟨.group e, rfl⟩
  | @scalar column text op value known test one hvalue =>
    obtain ⟨values, hvalues⟩ : ∃ values, op.rule.literals? value = some values := by
      rcases hvalue with rfl | rfl <;> simp [Rule.literals?, one]
    exact ⟨.test ⟨column, ⟨op, known, test⟩, value, values, hvalues⟩, rfl⟩
  | @list column raw op items known test many hraw =>
    have hvalues : op.rule.literals? (.list raw) = some items := by
      simp [Rule.literals?, many, hraw, Except.toOption]
    exact ⟨.test ⟨column, ⟨op, known, test⟩, .list raw, items, hvalues⟩, rfl⟩

theorem Comparison.derives (c : Comparison) : Derives .operand c.tokens := by
  obtain ⟨column, test, value, literals, hvalues⟩ := c
  rcases Rule.literals?_eq_some.1 hvalues with
    ⟨hlist, text, rfl, -⟩ | ⟨hlist, text, rfl, -⟩ | ⟨hlist, raw, rfl, hraw⟩
  · exact .scalar test.mem_all test.connective?_eq_none hlist (.inl rfl)
  · exact .scalar test.mem_all test.connective?_eq_none hlist (.inr rfl)
  · exact .list test.mem_all test.connective?_eq_none hlist hraw

mutual

theorem Chain.derives (e : Chain) : Derives .filter e.tokens := by
  match e with
  | .single x => exact .operand x.derives
  | .join left connective right =>
    exact .join left.derives (by cases connective <;> simp [Connective.symbol]) right.derives

theorem Operand.derives (x : Operand) : Derives .operand x.tokens := by
  match x with
  | .test c => exact c.derives
  | .group inner => exact .group inner.derives

end

theorem derives_iff {ts : List Token} : Derives .filter ts ↔ ∃ e : Chain, e.tokens = ts := by
  constructor
  · intro h
    exact h.spelled
  · rintro ⟨e, rfl⟩
    exact e.derives

/-- The compiler accepts a text that is not too long if it is blank or the grammar derives its tokens. -/
theorem exists_compile_iff (options : Options) (input : Text) :
    (∃ c, compile options input = .ok c) ↔
      byteSize input ≤ options.maxLength ∧
        ((∀ c ∈ input, isBlank c = true) ∨
          ∃ tokens, scan input = .ok tokens ∧ Derives .filter (tokens.map Located.token)) := by
  simp only [compile_eq_ok_iff, derives_iff]
  constructor
  · rintro ⟨c, hlength, source, hsource, rfl⟩
    refine ⟨hlength, ?_⟩
    cases hsource with
    | blank hblank => exact .inl hblank
    | chain hscan htokens => exact .inr ⟨_, hscan, _, htokens⟩
  · rintro ⟨hlength, hblank | ⟨tokens, hscan, e, htokens⟩⟩
    · exact ⟨_, hlength, none, .blank hblank, rfl⟩
    · exact ⟨_, hlength, some e, .chain hscan htokens, rfl⟩

end Roster.Filter
