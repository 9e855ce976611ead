import Roster.Proofs.Users.Truth

/-!
# Opposite operators

Nine operators have an opposite. On a user whose column is not null exactly one of the two is true, whatever they compare the column with, and on a user whose column is null neither is (`exists_hasTruth_opposite`). The operators that compare SOUNDEX codes take null for the empty text, so one of these is true on every user.
-/

namespace Roster

open Text Sql

theorem Truth.not_ofBool (b : Bool) : (Truth.ofBool b).not = .ofBool !b := by
  cases b <;> rfl

theorem Truth.ofBool_ne_unknown (b : Bool) : Truth.ofBool b ≠ .unknown := by
  cases b <;> nofun

/-- The relation of two values that are not in this one. -/
def Relation.opposite : Relation → Relation
  | .eq => .ne
  | .ne => .eq
  | .ge => .lt
  | .lt => .ge
  | .le => .gt
  | .gt => .le

theorem Relation.holds_opposite (r : Relation) (o : Ordering) : r.opposite.holds o = !r.holds o := by
  cases r <;> cases o <;> rfl

namespace Filter

/-- The rule of the opposite operator. Connectives have none. -/
def Rule.opposite : Rule → Rule
  | .relation r => .relation r.opposite
  | .like negated place => .like (!negated) place
  | .phonetic negated => .phonetic (!negated)
  | .member negated => .member (!negated)
  | .connective k => .connective k

/-- The symbols of the operators that have an opposite, and of the opposites. -/
def opposites : List (Text × Text) :=
  [("==".toList, "!=".toList), ("<".toList, ">=".toList), (">".toList, "<=".toList), ("_=".toList, "!_=".toList),
   ("_-=".toList, "!_-=".toList), ("@=".toList, "!@=".toList), ("^$".toList, "!^$".toList),
   ("^^".toList, "!^^".toList), ("~~".toList, "!~~".toList)]

/-! ### Truth -/

theorem Literal.meaning_ne_null (v : Literal) : v.meaning ≠ .null := by
  cases v with
  | bool b => cases b <;> nofun
  | _ => nofun

theorem Rule.operand_ne_null (rule : Rule) (v : Literal) : rule.operand v ≠ .null := by
  cases rule with
  | like negated place => cases place <;> nofun
  | _ => exact v.meaning_ne_null

theorem exists_comparand? {v : Value} (h : v ≠ .null) (affinity : Affinity) : ∃ a, v.comparand? affinity = some a := by
  cases v with
  | null => exact absurd rfl h
  | integer n => cases affinity <;> exact ⟨_, rfl⟩
  | text s => cases affinity <;> exact ⟨_, rfl⟩

/-- Two values that are not null are comparable. -/
theorem exists_test_eq {left right : Value} (hleft : left ≠ .null) (hright : right ≠ .null) (affinity : Affinity)
    (r : Relation) : ∃ b, Value.test affinity r left right = .ofBool b := by
  obtain ⟨a, ha⟩ := exists_comparand? hleft affinity
  obtain ⟨b, hb⟩ := exists_comparand? hright affinity
  exact ⟨r.holds (a.compare b), by rw [Value.test, ha, hb]⟩

theorem test_opposite (affinity : Affinity) (r : Relation) (left right : Value) :
    Value.test affinity r.opposite left right = (Value.test affinity r left right).not := by
  unfold Value.test
  split
  · rw [Relation.holds_opposite, Truth.not_ofBool]
  · rfl

theorem phoneticCode_ne_null (v : Value) : phoneticCode v ≠ .null := nofun

theorem Rule.truth_opposite {rule : Rule} (hrule : rule.connective? = none) (affinity : Affinity) (left : Value)
    (values : List Value) :
    rule.opposite.truth affinity left values = (rule.truth affinity left values).not := by
  cases rule with
  | relation r => exact test_opposite affinity r left (values.head?.getD .null)
  | like negated place =>
    simp only [Rule.opposite, Rule.truth]
    split
    · rw [Truth.not_ofBool]
      cases negated <;> simp
    · rfl
  | phonetic negated =>
    have htest := test_opposite .none (if negated then .ne else .eq) (phoneticCode left)
      (phoneticCode (values.head?.getD .null))
    cases negated <;> exact htest
  | member negated =>
    simp only [Rule.opposite, Rule.truth]
    generalize (values.map (Value.test affinity .eq left)).foldr Truth.or .false = t
    cases negated <;> cases t <;> rfl
  | connective k => simp [Rule.connective?] at hrule

theorem foldr_or_ne_unknown {ts : List Truth} (h : ∀ t ∈ ts, t ≠ .unknown) : ts.foldr Truth.or .false ≠ .unknown := by
  induction ts with
  | nil => nofun
  | cons t ts ih =>
    rw [List.forall_mem_cons] at h
    cases t with
    | true => nofun
    | false => exact ih h.2
    | unknown => exact absurd rfl h.1

/-- A comparison with values that are not null is known, if the column is not null or only its SOUNDEX code is compared. -/
theorem Rule.truth_ne_unknown {rule : Rule} (hrule : rule.connective? = none) {affinity : Affinity} {left : Value}
    (hleft : left ≠ .null ∨ ∃ negated, rule = .phonetic negated) {values : List Value} (hne : values ≠ [])
    (hvalues : ∀ v ∈ values, v ≠ .null) : rule.truth affinity left values ≠ .unknown := by
  obtain ⟨value, rest, rfl⟩ := List.exists_cons_of_ne_nil hne
  have hvalue : value ≠ .null := hvalues value List.mem_cons_self
  cases rule with
  | phonetic negated =>
    obtain ⟨b, hb⟩ := exists_test_eq (phoneticCode_ne_null left) (phoneticCode_ne_null value) .none
      (if negated then .ne else .eq)
    have htruth : (Rule.phonetic negated).truth affinity left (value :: rest) = .ofBool b := hb
    rw [htruth]
    exact Truth.ofBool_ne_unknown b
  | connective k => simp [Rule.connective?] at hrule
  | relation r =>
    have hleft : left ≠ .null := by simpa using hleft
    obtain ⟨b, hb⟩ := exists_test_eq hleft hvalue affinity r
    have htruth : (Rule.relation r).truth affinity left (value :: rest) = .ofBool b := hb
    rw [htruth]
    exact Truth.ofBool_ne_unknown b
  | like negated place =>
    have hleft : left ≠ .null := by simpa using hleft
    cases left with
    | null => exact absurd rfl hleft
    | _ => cases value with
      | null => exact absurd rfl hvalue
      | _ => exact Truth.ofBool_ne_unknown _
  | member negated =>
    have hleft : left ≠ .null := by simpa using hleft
    have hknown : ((value :: rest).map (Value.test affinity .eq left)).foldr Truth.or .false ≠ .unknown := by
      apply foldr_or_ne_unknown
      intro t ht
      obtain ⟨v, hv, rfl⟩ := List.mem_map.1 ht
      obtain ⟨b, hb⟩ := exists_test_eq hleft (hvalues v hv) affinity .eq
      rw [hb]
      exact Truth.ofBool_ne_unknown b
    rw [Rule.truth]
    revert hknown
    generalize ((value :: rest).map (Value.test affinity .eq left)).foldr Truth.or .false = t
    cases negated <;> cases t <;> simp [negateIf, Truth.not]

/-- Of a comparison and its opposite exactly one is true on a user on whom they are known. -/
theorem Rule.truth_opposite_eq {rule : Rule} (hrule : rule.connective? = none) {affinity : Affinity} {left : Value}
    (hleft : left ≠ .null ∨ ∃ negated, rule = .phonetic negated) {values : List Value} (hne : values ≠ [])
    (hvalues : ∀ v ∈ values, v ≠ .null) :
    ∃ b, rule.truth affinity left values = .ofBool b ∧ rule.opposite.truth affinity left values = .ofBool !b := by
  have hknown : rule.truth affinity left values ≠ .unknown := Rule.truth_ne_unknown hrule hleft hne hvalues
  obtain ⟨b, hb⟩ : ∃ b, rule.truth affinity left values = .ofBool b := by
    cases htruth : rule.truth affinity left values with
    | true => exact ⟨true, rfl⟩
    | false => exact ⟨false, rfl⟩
    | unknown => exact absurd htruth hknown
  exact ⟨b, hb, by rw [Rule.truth_opposite hrule, hb, Truth.not_ofBool]⟩

/-! ### Operators -/

theorem Rule.takesList_opposite (rule : Rule) : rule.opposite.takesList = rule.takesList := by
  cases rule <;> rfl

theorem Rule.connective?_opposite (rule : Rule) : rule.opposite.connective? = rule.connective? := by
  cases rule <;> rfl

theorem Rule.isLike_opposite (rule : Rule) : rule.opposite.isLike = rule.isLike := by
  cases rule <;> rfl

theorem Rule.operand_opposite (rule : Rule) : rule.opposite.operand = rule.operand := by
  funext v
  rcases rule with _ | ⟨_, _ | _⟩ | _ | _ | _ <;> rfl

theorem Rule.literals?_opposite (rule : Rule) (value : Token) : rule.opposite.literals? value = rule.literals? value := by
  cases value <;> simp [Rule.literals?, Rule.takesList_opposite]

/-- Opposite symbols stand for opposite rules. Only `~~` compares SOUNDEX codes. -/
theorem exists_find?_of_mem_opposites {symbol symbol' : Text} (h : (symbol, symbol') ∈ opposites) :
    ∃ op op', Operator.find? symbol = some op ∧ Operator.find? symbol' = some op' ∧ op.rule.connective? = none ∧
      op'.rule = op.rule.opposite ∧ ((∃ negated, op.rule = .phonetic negated) ↔ symbol = "~~".toList) := by
  simp only [opposites, List.mem_cons, Prod.mk.injEq, List.not_mem_nil, or_false] at h
  rcases h with ⟨rfl, rfl⟩ | ⟨rfl, rfl⟩ | ⟨rfl, rfl⟩ | ⟨rfl, rfl⟩ | ⟨rfl, rfl⟩ | ⟨rfl, rfl⟩ | ⟨rfl, rfl⟩ | ⟨rfl, rfl⟩ |
    ⟨rfl, rfl⟩
  all_goals exact ⟨_, _, rfl, rfl, rfl, rfl, by simp⟩

section

variable {symbol symbol' : Text} (h : (symbol, symbol') ∈ opposites) {column : Column}
  (hcolumn : column.name ∈ filterable) {collation : Text} (hcollation : Settings.isCollation collation = true)
  {values : List Literal} (hne : values ≠ []) (hsize : values.length ≤ UInt64.size)

include h hcolumn hcollation hne hsize

/-- Opposite operators compare a column with the same values, one literal or a list of them; those that look for a text take a collation that is a name. Both comparisons are compiled. If the column is not null, exactly one of the two is true and the other is false, and if it is null, both are unknown. The operators that compare SOUNDEX codes are never unknown. -/
theorem exists_hasTruth_opposite :
    ∃ op op', Operator.find? symbol = some op ∧ Operator.find? symbol' = some op' ∧
      ((op.rule.takesList = false → values.length = 1) →
        (op.rule.isLike = true → isIdentifier collation = true) →
        ∃ c c' truth truth', (State.initial.compare collation column.name op values).finish = .ok c ∧
          c.HasTruth truth ∧ (State.initial.compare collation column.name op' values).finish = .ok c' ∧
          c'.HasTruth truth' ∧
          (∀ value, op.rule.literals? value = some values → ∀ i j k,
            compileTokens collation [⟨.word column.name, i⟩, ⟨.operator symbol, j⟩, ⟨value, k⟩] = .ok c ∧
              compileTokens collation [⟨.word column.name, i⟩, ⟨.operator symbol', j⟩, ⟨value, k⟩] = .ok c') ∧
          ∀ u : User,
            (u.value column ≠ .null ∨ symbol = "~~".toList → ∃ b, truth u = .ofBool b ∧ truth' u = .ofBool !b) ∧
              (u.value column = .null → symbol ≠ "~~".toList → truth u = .unknown ∧ truth' u = .unknown)) := by
  obtain ⟨op, op', hop, hop', hrule, hopposite, hphonetic⟩ := exists_find?_of_mem_opposites h
  refine ⟨op, op', hop, hop', fun hone hname => ?_⟩
  have hrule' : op'.rule.connective? = none := by rw [hopposite, Rule.connective?_opposite, hrule]
  have hone' : op'.rule.takesList = false → values.length = 1 := by
    rwa [hopposite, Rule.takesList_opposite]
  have hname' : op'.rule.isLike = true → isIdentifier collation = true := by
    rwa [hopposite, Rule.isLike_opposite]
  obtain ⟨c, hc, htruth⟩ := exists_hasTruth_compare hrule hcolumn hcollation hne hone hsize hname
  obtain ⟨c', hc', htruth'⟩ := exists_hasTruth_compare hrule' hcolumn hcollation hne hone' hsize hname'
  refine ⟨c, c', _, _, hc, htruth, hc', htruth', ?_, ?_⟩
  · intro value hvalue i j k
    have hvalue' : op'.rule.literals? value = some values := by rw [hopposite, Rule.literals?_opposite, hvalue]
    exact ⟨(compileTokens_comparison collation _ hop hrule hvalue i j k).trans hc,
      (compileTokens_comparison collation _ hop' hrule' hvalue' i j k).trans hc'⟩
  · intro u
    have hbound : values.map op.rule.operand ≠ [] := by simpa using hne
    have hnull : ∀ v ∈ values.map op.rule.operand, v ≠ .null := by
      intro v hv
      obtain ⟨literal, -, rfl⟩ := List.mem_map.1 hv
      exact op.rule.operand_ne_null literal
    simp only [Rule.truthOf, hopposite, Rule.operand_opposite]
    constructor
    · intro hleft
      rw [← hphonetic] at hleft
      exact Rule.truth_opposite_eq hrule hleft hbound hnull
    · intro hleft hsymbol
      have hnot : ∀ negated, op.rule ≠ .phonetic negated := fun negated hop => hsymbol (hphonetic.1 ⟨negated, hop⟩)
      rw [Rule.truth_opposite hrule, hleft, Rule.truth_null hrule hnot _ hbound]
      exact ⟨rfl, rfl⟩

end

/-- A column that is null, compared by SOUNDEX codes and by membership in a list of literals of all kinds. -/
theorem exists_hasTruth_opposite_null :
    let u : User := ⟨"u1".toList, "bob".toList, "b@x".toList, "h".toList, none, true⟩
    let column := "LastLoginAt".toList
    (∃ c c' b, compileTokens "NOCASE".toList [⟨.word column, 0⟩, ⟨.operator "~~".toList, 12⟩, ⟨.quoted [], 15⟩] = .ok c ∧
        compileTokens "NOCASE".toList [⟨.word column, 0⟩, ⟨.operator "!~~".toList, 12⟩, ⟨.quoted [], 15⟩] = .ok c' ∧
        c.truth? u = some (.ofBool b) ∧ c'.truth? u = some (.ofBool !b)) ∧
      ∃ c c', (State.initial.compare "NOCASE".toList column ⟨"^$".toList, .member false⟩
            [.str [], .bool true, .int (-7), .raw "x".toList]).finish = .ok c ∧
          (State.initial.compare "NOCASE".toList column ⟨"!^$".toList, .member true⟩
            [.str [], .bool true, .int (-7), .raw "x".toList]).finish = .ok c' ∧
          c.truth? u = some .unknown ∧ c'.truth? u = some .unknown := by
  intro u column
  have hcollation : Settings.isCollation "NOCASE".toList = true := by decide
  constructor
  · obtain ⟨op, op', hop, -, hall⟩ := @exists_hasTruth_opposite "~~".toList "!~~".toList (by decide)
      .lastLoginAt (by decide) _ hcollation [.str []] (by decide) (by decide)
    obtain rfl : ⟨"~~".toList, .phonetic false⟩ = op := Option.some.inj hop
    obtain ⟨c, c', truth, truth', -, htruth, -, htruth', hcompile, huser⟩ := hall (fun _ => rfl) nofun
    obtain ⟨hc, hc'⟩ := hcompile (.quoted []) rfl 0 12 15
    obtain ⟨b, hb, hb'⟩ := (huser u).1 (.inr rfl)
    refine ⟨c, c', b, hc, hc', ?_, ?_⟩
    · rw [htruth.truth?_eq, hb]
    · rw [htruth'.truth?_eq, hb']
  · obtain ⟨op, op', hop, hop', hall⟩ := @exists_hasTruth_opposite "^$".toList "!^$".toList (by decide)
      .lastLoginAt (by decide) _ hcollation [.str [], .bool true, .int (-7), .raw "x".toList] (by decide) (by decide)
    obtain rfl : ⟨"^$".toList, .member false⟩ = op := Option.some.inj hop
    obtain rfl : ⟨"!^$".toList, .member true⟩ = op' := Option.some.inj hop'
    obtain ⟨c, c', truth, truth', hc, htruth, hc', htruth', -, huser⟩ := hall (fun h => absurd h (by decide)) nofun
    obtain ⟨hunknown, hunknown'⟩ := (huser u).2 rfl (by decide)
    refine ⟨c, c', hc, hc', ?_, ?_⟩
    · rw [htruth.truth?_eq, hunknown]
    · rw [htruth'.truth?_eq, hunknown']

end Filter

end Roster
