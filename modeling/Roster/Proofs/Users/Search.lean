import Roster.Proofs.Sql.Pattern
import Roster.Proofs.Users.Truth

/-!
# Searching columns

Three operators look for a text at the start of a column or anywhere in it. They find it wherever it stands, in capital or small letters, and if it has no wildcards they find nothing else (`exists_hasTruth_search`). A wildcard in the text is not escaped, so a text that has one is found in other columns too.
-/

namespace Roster

open Text Sql

/-- The text of a column, which is a digit for `Active`. A column that is null has none. -/
def User.text? (u : User) : Column → Option Text
  | .id => some u.id
  | .username => some u.username
  | .email => some u.email
  | .passwordHash => some u.passwordHash
  | .lastLoginAt => u.lastLoginAt
  | .active => some [if u.active then '1' else '0']

theorem User.asText?_value (u : User) (column : Column) : (u.value column).asText? = u.text? column := by
  cases column with
  | lastLoginAt => cases h : u.lastLoginAt <;> simp [value, text?, h, Value.asText?]
  | active => cases h : u.active <;> simp [value, text?, h, Value.asText?] <;> decide
  | _ => rfl

namespace Filter

/-- The parts of a text that a place stands for. -/
def Place.IsPart : Place → Text → Text → Prop
  | .start, t, s => t <+: s
  | .anywhere, t, s => t <:+: s

/-- A part of the text at this place is the same as `v` but for the case of ASCII letters. -/
def Place.Finds (place : Place) (v s : Text) : Prop := ∃ t, place.IsPart t s ∧ sameIgnoringCase v t = true

/-- The symbols of the operators that look for a text, and where they look. -/
def searches : List (Text × Place) :=
  [("_=".toList, .start), ("_-=".toList, .anywhere), ("@=".toList, .anywhere)]

theorem find?_of_mem_searches {symbol : Text} {place : Place} (h : (symbol, place) ∈ searches) :
    Operator.find? symbol = some ⟨symbol, .like false place⟩ := by
  simp only [searches, List.mem_cons, Prod.mk.injEq, List.not_mem_nil, or_false] at h
  rcases h with ⟨rfl, rfl⟩ | ⟨rfl, rfl⟩ | ⟨rfl, rfl⟩
  all_goals rfl

theorem exists_operand_like (negated : Bool) (place : Place) (v : Literal) :
    ∃ pattern, (Rule.like negated place).operand v = .text pattern ∧
      ∀ s, like pattern s = true ↔ ∃ t, place.IsPart t s ∧ like v.asText t = true := by
  rw [v.asText_eq_spelling]
  cases place with
  | start => exact ⟨_, rfl, fun s => like_append_run⟩
  | anywhere => exact ⟨_, rfl, fun s => like_run_append_run⟩

theorem truthOf_like {place : Place} {column : Column} {v : Literal} {u : User} {s : Text}
    (hs : u.text? column = some s) :
    (Rule.like false place).truthOf column [v] u = .true ↔ ∃ t, place.IsPart t s ∧ like v.asText t = true := by
  obtain ⟨pattern, hpattern, hlike⟩ := exists_operand_like false place v
  have htruth : (Rule.like false place).truthOf column [v] u = .ofBool (like pattern s) := by
    have hleft : (u.value column).asText? = some s := by rw [User.asText?_value, hs]
    simp only [Rule.truthOf, Rule.truth, List.map_cons, hpattern, hleft]
    exact congrArg Truth.ofBool (Bool.bne_false _)
  rw [htruth, ← hlike]
  cases like pattern s <;> simp [Truth.ofBool]

/-- The comparison of a column with any literal is compiled, and it is true of a user if the text of the literal is found in that of the column. If the text of the literal has no wildcards, it is true of no other user whose column is not null. -/
theorem exists_hasTruth_search {symbol : Text} {place : Place} (hsymbol : (symbol, place) ∈ searches) {column : Column}
    (hcolumn : column.name ∈ filterable) {collation : Text} (hcollation : Settings.isCollation collation = true)
    (hname : isIdentifier collation = true) (v : Literal) :
    ∃ op c truth, Operator.find? symbol = some op ∧
      (State.initial.compare collation column.name op [v]).finish = .ok c ∧ c.HasTruth truth ∧
      (∀ value, op.rule.literals? value = some [v] → ∀ i j k,
        compileTokens collation [⟨.word column.name, i⟩, ⟨.operator symbol, j⟩, ⟨value, k⟩] = .ok c) ∧
      ∀ (u : User) (s : Text), u.text? column = some s →
        (place.Finds v.asText s → truth u = .true) ∧
          (IsLiteral v.asText → truth u = .true → place.Finds v.asText s) := by
  have hfind := find?_of_mem_searches hsymbol
  have hrule : (⟨symbol, .like false place⟩ : Operator).rule.connective? = none := rfl
  obtain ⟨c, hc, htruth⟩ := exists_hasTruth_compare hrule hcolumn hcollation (List.cons_ne_nil v []) (fun _ => rfl)
    (show 1 ≤ UInt64.size by decide) fun _ => hname
  refine ⟨_, c, _, hfind, hc, htruth, ?_, ?_⟩
  · intro value hvalue i j k
    rw [compileTokens_comparison collation column.name hfind hrule hvalue i j k, hc]
  · intro u s hs
    rw [truthOf_like hs]
    constructor
    · rintro ⟨t, ht, hsame⟩
      exact ⟨t, ht, like_of_sameIgnoringCase hsame⟩
    · rintro hliteral ⟨t, ht, hlike⟩
      exact ⟨t, ht, sameIgnoringCase_of_like hliteral hlike⟩

/-- A text with both wildcards that is found where it stands, and a text that is not found because `Ë` is no ASCII letter. -/
theorem exists_hasTruth_search_wildcards :
    let u : User := ⟨"u1".toList, "zoë 50%_OFF".toList, "z@x".toList, "h".toList, none, true⟩
    let tokens (symbol value : Text) : List Located :=
      [⟨.word "Username".toList, 0⟩, ⟨.operator symbol, 9⟩, ⟨.quoted value, 13⟩]
    (∃ c, compileTokens "NOCASE".toList (tokens "_-=".toList "0%_off".toList) = .ok c ∧ c.truth? u = some .true) ∧
      ∃ c t, compileTokens "NOCASE".toList (tokens "_=".toList "ZOË".toList) = .ok c ∧ c.truth? u = some t ∧
        t ≠ .true := by
  intro u tokens
  have hcollation : Settings.isCollation "NOCASE".toList = true := by decide
  constructor
  · obtain ⟨op, c, truth, hop, -, htruth, hcompile, huser⟩ := @exists_hasTruth_search "_-=".toList .anywhere (by decide)
      .username (by decide) _ hcollation (by decide) (.str "0%_off".toList)
    obtain rfl : ⟨"_-=".toList, .like false .anywhere⟩ = op := Option.some.inj hop
    have hfound : Place.anywhere.Finds "0%_off".toList "zoë 50%_OFF".toList :=
      ⟨"0%_OFF".toList, ⟨"zoë 5".toList, [], rfl⟩, by decide⟩
    refine ⟨c, hcompile (.quoted "0%_off".toList) rfl 0 9 13, ?_⟩
    rw [htruth.truth?_eq, (huser u _ rfl).1 hfound]
  · obtain ⟨op, c, truth, hop, -, htruth, hcompile, huser⟩ := @exists_hasTruth_search "_=".toList .start (by decide)
      .username (by decide) _ hcollation (by decide) (.str "ZOË".toList)
    obtain rfl : ⟨"_=".toList, .like false .start⟩ = op := Option.some.inj hop
    refine ⟨c, truth u, hcompile (.quoted "ZOË".toList) rfl 0 9 13, htruth.truth?_eq u, ?_⟩
    intro htrue
    obtain ⟨t, hprefix, hsame⟩ : Place.start.Finds "ZOË".toList u.username := (huser u _ rfl).2 (by decide) htrue
    have hlength : t.length = 3 := by simpa using (congrArg List.length (sameIgnoringCase_iff.1 hsame)).symm
    obtain rfl : "zoë".toList = t := by
      rw [List.prefix_iff_eq_take.1 hprefix, hlength]
      rfl
    exact absurd hsame (by decide)

end Filter

end Roster
