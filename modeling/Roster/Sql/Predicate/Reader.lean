import Roster.Sql.Lexeme
import Roster.Sql.Name
import Roster.Sql.Predicate

/-!
# Reading conditions

A condition is read by the grammar of SQL: AND binds tighter than OR, both group to the left, and parentheses come first. Reading goes through the lexemes once. For each open parenthesis it keeps a `Level`: the alternatives that are complete and the conjunction in progress. The names of collations are looked at before; which collations there are does not matter.
-/

namespace Roster.Sql

open Text

/-- Why a text is no statement. -/
inductive Unreadable
  /-- The end came too early. -/
  | early
  /-- Reading stopped at this text. -/
  | near (text : Text)
  /-- A word that is neither a name nor a number. -/
  | unrecognized (word : Text)
deriving DecidableEq, Repr

def unreadable : List Lexeme → Unreadable
  | [] => .early
  | t :: _ => .near t.text

/-- What is wrong with lexemes that must begin with a name. -/
def nameFault? : List Lexeme → Option Unreadable
  | .word w :: ts =>
    if isIdentifier w then none
    else if w.head?.any Char.isDigit && !isNumeral w then some (.unrecognized w)
    else some (unreadable (.word w :: ts))
  | ts => some (unreadable ts)

/-- What is wrong with the first collation that is not given by a name. -/
def collationFault? : List Lexeme → Option Unreadable
  | [] => none
  | t :: ts => if t = .word "COLLATE".toList then (nameFault? ts).or (collationFault? ts) else collationFault? ts

/-- The number of an argument. -/
def argument? (s : Text) : Option Nat :=
  match s with
  | '?' :: digits => toNat? digits
  | _ => none

def Term.ofWord (s : Text) : Term :=
  match argument? s, toNat? s with
  | some n, _ => .argument n
  | none, some n => .integer n
  | none, none => .column s

/-- The items of a list up to its closing parenthesis, and what follows it. -/
def items? : List Lexeme → Option (List Term × List Lexeme)
  | .word w :: .rightParen :: rest => some ([.ofWord w], rest)
  | .word w :: .comma :: rest => (items? rest).map (Prod.map (.ofWord w :: ·) id)
  | _ => none

/-- What a column is tested for: the rest of a test after its subject, and what follows the test. That a collation is given by a name has been checked. -/
def testOf? (subject : Term) : List Lexeme → Option (Test × List Lexeme)
  | .word verb :: ts =>
    let negated := verb == "NOT".toList
    let ts := if negated then ts else .word verb :: ts
    match ts with
    | .word verb :: .leftParen :: rest =>
      if verb = "IN".toList then (items? rest).map (Prod.map (.member negated subject) id) else none
    | .word verb :: .word object :: rest =>
      if verb = "LIKE".toList then
        match rest with
        | .word collate :: .word _ :: rest =>
          if collate = "COLLATE".toList then some (.like negated subject (.ofWord object), rest) else none
        | _ => none
      else if negated then none
      else (Relation.ofWord? verb).map fun r => (.compare subject r (.ofWord object), rest)
    | _ => none
  | _ => none

/-- The test at the front, and what follows it. -/
def test? : List Lexeme → Option (Test × List Lexeme)
  | .word f :: .leftParen :: .word left :: .rightParen :: .word verb :: .word g :: .leftParen ::
      .word right :: .rightParen :: rest =>
    if f = "SOUNDEX".toList ∧ g = "SOUNDEX".toList then
      (Relation.ofWord? verb).map fun r => (.phonetic (.ofWord left) r (.ofWord right), rest)
    else none
  | .word subject :: rest => testOf? (.ofWord subject) rest
  | _ => none

theorem length_of_items? {ts rest : List Lexeme} {items : List Term}
    (h : items? ts = some (items, rest)) : rest.length < ts.length := by
  fun_induction items? ts generalizing items with
  | case1 w rest =>
    obtain ⟨-, rfl⟩ := Prod.mk.inj (Option.some.inj h)
    simp only [List.length_cons]
    omega
  | case2 w ts ih =>
    obtain ⟨⟨x, y⟩, hxy, he⟩ := Option.map_eq_some_iff.1 h
    obtain ⟨-, rfl⟩ := Prod.mk.inj he
    exact Nat.lt_succ_of_lt (Nat.lt_succ_of_lt (ih hxy))
  | case3 => simp at h

theorem length_of_testOf? {subject : Term} {ts rest : List Lexeme} {t : Test}
    (h : testOf? subject ts = some (t, rest)) : rest.length < ts.length := by
  unfold testOf? at h
  split at h
  · rename_i verb ts
    dsimp only at h
    generalize hts : (if (verb == "NOT".toList) = true then ts else Lexeme.word verb :: ts) = inner at h
    have hle : inner.length ≤ ts.length + 1 := by rw [← hts]; split <;> simp
    split at h
    · split at h
      · obtain ⟨⟨x, y⟩, hxy, he⟩ := Option.map_eq_some_iff.1 h
        obtain ⟨-, rfl⟩ := Prod.mk.inj he
        have := length_of_items? hxy
        simp only [List.length_cons, id] at *
        omega
      · simp at h
    · split at h
      · split at h
        · split at h
          · cases h
            simp only [List.length_cons] at *
            omega
          · simp at h
        · simp at h
      split at h
      · simp at h
      · obtain ⟨r, -, he⟩ := Option.map_eq_some_iff.1 h
        cases he
        simp only [List.length_cons] at *
        omega
    · simp at h
  · simp at h

theorem length_of_test? {ts rest : List Lexeme} {t : Test} (h : test? ts = some (t, rest)) :
    rest.length < ts.length := by
  unfold test? at h
  split at h
  · split at h
    · obtain ⟨r, -, he⟩ := Option.map_eq_some_iff.1 h
      cases he
      simp only [List.length_cons]
      omega
    · simp at h
  · exact Nat.lt_succ_of_lt (length_of_testOf? h)
  · simp at h

/-- What was read of a condition at one depth of parentheses: the alternatives that are complete, and the conjunction after them. -/
structure Level where
  alternatives : Option Predicate
  conjunction : Option Predicate
deriving DecidableEq, Repr

namespace Level

def empty : Level := ⟨none, none⟩

/-- The condition with one more operand of AND. -/
def add (p : Predicate) (level : Level) : Level :=
  match level.conjunction with
  | none => { level with conjunction := some p }
  | some q => { level with conjunction := some (.join .and q p) }

def value? (level : Level) : Option Predicate :=
  match level.alternatives, level.conjunction with
  | some p, some q => some (.join .or p q)
  | none, q => q
  | p, none => p

/-- The condition after an OR. -/
def alternative (level : Level) : Level := ⟨level.value?, none⟩

end Level

/-- The end of a condition; all parentheses must be closed. -/
def endOfCondition (outer : List Level) (level : Level) (ts : List Lexeme) :
    Except Unreadable (Predicate × List Lexeme) :=
  match outer, level.value? with
  | [], some p => .ok (p, ts)
  | _, _ => .error (unreadable ts)

mutual

/-- Reads a condition on from where an operand must come, within the levels of the open parentheses. -/
def readOperand (outer : List Level) (level : Level) (ts : List Lexeme) :
    Except Unreadable (Predicate × List Lexeme) :=
  match ts with
  | .leftParen :: rest => readOperand (level :: outer) .empty rest
  | ts =>
    match h : test? ts with
    | none => .error (unreadable ts)
    | some (t, rest) =>
      have := length_of_test? h
      readConnective outer (level.add (.test t)) rest
termination_by ts.length

/-- Reads a condition on from where an operand is complete. -/
def readConnective (outer : List Level) (level : Level) (ts : List Lexeme) :
    Except Unreadable (Predicate × List Lexeme) :=
  match ts, outer with
  | .rightParen :: rest, parent :: outer =>
    match level.value? with
    | none => .error (unreadable ts)
    | some p => readConnective outer (parent.add p) rest
  | .word w :: rest, outer =>
    if w = Connective.and.keyword then readOperand outer level rest
    else if w = Connective.or.keyword then readOperand outer level.alternative rest
    else endOfCondition outer level (.word w :: rest)
  | ts, outer => endOfCondition outer level ts
termination_by ts.length

end

/-- Reads the condition at the front, and what follows it. All collations must be given by names. -/
def readCondition (ts : List Lexeme) : Except Unreadable (Predicate × List Lexeme) :=
  match collationFault? ts with
  | some fault => .error fault
  | none => readOperand [] .empty ts

end Roster.Sql
