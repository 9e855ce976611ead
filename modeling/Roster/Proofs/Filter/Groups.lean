import Mathlib.Data.List.Basic
import Roster.Proofs.Filter.Rejection

/-!
# Open groups

A compilation puts parentheses into what it has written before, at offsets that it has noted down. The output is nested as the open groups are (`Nested`), and no step touches what stands before the contents of an open group (`Keeps`). So an offset stays right until its group is closed, wherever parentheses are put in and whatever is written in the meantime (`groups_of_run`).
-/

namespace Roster.Filter

open Text

/-- The output with the groups that are open in it, the innermost first: the contents of a group stand behind its parenthesis, and what stands before the parenthesis is nested in the groups around it. The offsets are those of the parentheses in the filter. -/
inductive Nested : List Nat → List Group → Text → Prop
  | outermost (pending applied : Option Connective) (contents : Text) :
    Nested [] [⟨none, 0, pending, applied⟩] contents
  | inner {offsets : List Nat} {groups : List Group} {before : Text} (outer : Nested offsets groups before) (offset : Nat)
    (pending applied : Option Connective) (contents : Text) :
    Nested (offset :: offsets) (⟨some offset, byteSize (before ++ ['(']), pending, applied⟩ :: groups)
      (before ++ ['('] ++ contents)

/-- At each of the byte offsets both texts can be cut between characters, and the same stands before the cut. -/
def Keeps (starts : List Nat) (output output' : Text) : Prop :=
  ∀ start ∈ starts, ∃ before, byteSize before = start ∧ before <+: output ∧ before <+: output'

theorem Keeps.append {starts : List Nat} {output output' : Text} (h : Keeps starts output output') (more : Text) :
    Keeps starts output (output' ++ more) := by
  intro start hstart
  obtain ⟨before, hsize, hbefore, hbefore'⟩ := h start hstart
  exact ⟨before, hsize, hbefore, hbefore'.trans (List.prefix_append _ _)⟩

/-- Where the contents of the groups begin in the output. -/
def State.starts (st : State) : List Nat := st.groups.map Group.start

namespace Nested

variable {offsets : List Nat} {group : Group} {groups outer : List Group} {output : Text}

theorem ne_nil (h : Nested offsets groups output) : groups ≠ [] := by
  cases h <;> exact List.cons_ne_nil _ _

theorem append (h : Nested offsets groups output) (more : Text) : Nested offsets groups (output ++ more) := by
  cases h with
  | outermost pending applied => exact .outermost pending applied _
  | inner outer offset pending applied contents =>
    rw [List.append_assoc _ contents]
    exact .inner outer offset pending applied _

theorem exists_prefix (h : Nested offsets groups output) :
    ∀ start ∈ groups.map Group.start, ∃ before, byteSize before = start ∧ before <+: output := by
  induction h with
  | outermost =>
    intro start hstart
    obtain rfl := List.mem_singleton.1 hstart
    exact ⟨[], rfl, List.nil_prefix⟩
  | @inner _ _ before _ _ _ _ contents ih =>
    intro start hstart
    rcases List.mem_cons.1 hstart with rfl | hstart
    · exact ⟨before ++ ['('], rfl, List.prefix_append _ _⟩
    · obtain ⟨before', hsize, hbefore⟩ := ih start hstart
      rw [List.append_assoc]
      exact ⟨before', hsize, hbefore.trans (List.prefix_append _ _)⟩

theorem keeps (h : Nested offsets groups output) (contents contents' : Text) :
    Keeps (groups.map Group.start) (output ++ contents) (output ++ contents') := by
  intro start hstart
  obtain ⟨before, hsize, hbefore⟩ := h.exists_prefix start hstart
  exact ⟨before, hsize, hbefore.trans (List.prefix_append _ _), hbefore.trans (List.prefix_append _ _)⟩

/-- A parenthesis can be put in before the contents of the innermost group, and these can be exchanged for any others. -/
theorem exists_contents (h : Nested offsets (group :: outer) output) :
    ∃ before contents, output = before ++ contents ∧
      insertAt? output group.start '(' = some (before ++ '(' :: contents) ∧
      ∀ pending applied contents',
        Nested offsets (⟨group.opened, group.start, pending, applied⟩ :: outer) (before ++ contents') := by
  cases h with
  | outermost => exact ⟨[], output, rfl, insertAt?_append [] output '(', fun pending applied => .outermost pending applied⟩
  | inner outer offset _ _ contents => exact ⟨_, contents, rfl, insertAt?_append _ _ _, .inner outer offset⟩

theorem opened_eq (h : Nested offsets groups output) : groups.map Group.opened = offsets.map some ++ [none] := by
  induction h with
  | outermost => rfl
  | inner _ _ _ _ _ ih => rw [List.map_cons, ih, List.map_cons, List.cons_append]

theorem exists_outermost (h : Nested offsets groups output) :
    ∃ inner pending applied, groups = inner ++ [⟨none, 0, pending, applied⟩] := by
  induction h with
  | outermost pending applied => exact ⟨[], pending, applied, rfl⟩
  | inner _ _ _ _ _ ih =>
    obtain ⟨inner, pending, applied, rfl⟩ := ih
    exact ⟨_ :: inner, pending, applied, rfl⟩

theorem pairwise (h : Nested offsets groups output) : (groups.map Group.start).Pairwise fun inner outer => outer < inner := by
  induction h with
  | outermost => exact List.pairwise_singleton _ _
  | inner outer _ _ _ _ ih =>
    refine .cons ?_ ih
    intro start hstart
    obtain ⟨before', rfl, after, rfl⟩ := outer.exists_prefix start hstart
    simp only [byteSize_append, byteSize_cons, byteSize_nil]
    have hpos := '('.utf8Size_pos
    omega

/-- A parenthesis stands right before the contents of every group but the outermost. -/
theorem exists_paren (h : Nested offsets groups output) {group : Group} (hgroup : group ∈ groups)
    (hopened : group.opened ≠ none) : ∃ before, byteSize (before ++ ['(']) = group.start ∧ before ++ ['('] <+: output := by
  induction h with
  | outermost =>
    obtain rfl := List.mem_singleton.1 hgroup
    exact absurd rfl hopened
  | @inner _ _ before _ _ _ _ _ ih =>
    rcases List.mem_cons.1 hgroup with rfl | hgroup
    · exact ⟨before, rfl, List.prefix_append _ _⟩
    · obtain ⟨before', hsize, hbefore⟩ := ih hgroup
      rw [List.append_assoc]
      exact ⟨before', hsize, hbefore.trans (List.prefix_append _ _)⟩

end Nested

namespace State

variable {offsets : List Nat} {st : State}

/-- The second state has its groups where the first has them, and before their contents both have written the same. -/
structure Stays (offsets : List Nat) (st st' : State) : Prop where
  nested : Nested offsets st'.groups st'.output
  keeps : Keeps st.starts st.output st'.output
  starts_eq : st'.starts = st.starts

theorem Stays.refl (h : Nested offsets st.groups st.output) : Stays offsets st st := by
  have hkeeps := h.keeps [] []
  rw [List.append_nil] at hkeeps
  exact ⟨h, hkeeps, rfl⟩

theorem stays_phase (h : Nested offsets st.groups st.output) (phase : Phase) :
    Stays offsets st { st with phase := phase } := by
  obtain ⟨-, hkeeps, -⟩ := Stays.refl h
  exact ⟨h, hkeeps, rfl⟩

theorem stays_flush (h : Nested offsets st.groups st.output) : Stays offsets st st.flush := by
  obtain ⟨phase, groups, output, parameters, columns⟩ := st
  obtain ⟨group, outer, rfl⟩ := List.exists_cons_of_ne_nil h.ne_nil
  cases hpending : group.pending with
  | none =>
    have hflush : flush ⟨phase, group :: outer, output, parameters, columns⟩ =
        ⟨phase, group :: outer, output, parameters, columns⟩ := by simp [flush, hpending]
    rw [hflush]
    exact .refl h
  | some connective =>
    obtain ⟨before, contents, rfl, hinsert, hnested⟩ := h.exists_contents
    have hkeeps := (hnested none none []).keeps contents
    rw [List.append_nil] at hkeeps
    obtain ⟨contents', hflush⟩ : ∃ contents', flush ⟨phase, group :: outer, before ++ contents, parameters, columns⟩ =
        ⟨phase, ⟨group.opened, group.start, none, some connective⟩ :: outer, before ++ contents', parameters, columns⟩ := by
      simp only [flush, hpending, hinsert, Option.getD_some]
      split
      · exact ⟨_, by simp only [List.append_assoc]; rfl⟩
      · exact ⟨_, by simp only [List.append_assoc]; rfl⟩
    rw [hflush]
    exact ⟨hnested _ _ _, hkeeps _, rfl⟩

theorem stays_compare (h : Nested offsets st.groups st.output) (collation column : Text) (op : Operator)
    (values : List Literal) : Stays offsets st (st.compare collation column op values) := by
  obtain ⟨hnested, hkeeps, hstarts⟩ := stays_flush h
  exact ⟨hnested.append _, hkeeps.append _, hstarts⟩

theorem stays_setPending (h : Nested offsets st.groups st.output) (connective : Connective) :
    Stays offsets st (st.setPending connective) := by
  obtain ⟨-, hkeeps, -⟩ := Stays.refl h
  obtain ⟨phase, groups, output, parameters, columns⟩ := st
  obtain ⟨group, outer, rfl⟩ := List.exists_cons_of_ne_nil h.ne_nil
  obtain ⟨before, contents, rfl, -, hnested⟩ := h.exists_contents
  exact ⟨hnested _ _ _, hkeeps, rfl⟩

theorem nested_openGroup (h : Nested offsets st.groups st.output) (offset : Nat) :
    Nested (offset :: offsets) (st.openGroup offset).groups (st.openGroup offset).output ∧
      Keeps st.starts st.output (st.openGroup offset).output ∧
      (st.openGroup offset).starts = byteSize (st.openGroup offset).output :: st.starts := by
  obtain ⟨hnested, hkeeps, hstarts⟩ := stays_flush h
  have hopened := hnested.inner offset none none []
  rw [List.append_nil] at hopened
  exact ⟨hopened, hkeeps.append _, congrArg (List.cons _) hstarts⟩

theorem nested_closeGroup (h : Nested offsets st.groups st.output) (hinner : st.isOutermost = false) :
    Nested offsets.tail st.closeGroup.groups st.closeGroup.output ∧ Keeps st.starts st.output st.closeGroup.output ∧
      st.closeGroup.starts = st.starts.tail := by
  obtain ⟨-, hkeeps, -⟩ := Stays.refl h
  obtain ⟨phase, groups, output, parameters, columns⟩ := st
  refine ⟨?_, hkeeps.append _, List.map_tail⟩
  cases h with
  | outermost => cases hinner
  | inner outer offset pending applied contents =>
    have hclosed := outer.append (['('] ++ contents ++ [')'])
    simp only [← List.append_assoc] at hclosed
    exact hclosed

/-- Where the contents of the groups begin after a token, with the output that is written then. -/
def startsAfter (output : Text) (starts : List Nat) (t : Located) : List Nat :=
  match t.token with
  | .leftParen => byteSize output :: starts
  | .rightParen => starts.tail
  | _ => starts

/-- What a step does to the groups: it leaves alone what stands before their contents, and where these begin. The contents of a group that it opens begin after the parenthesis that it writes. -/
structure Moves (st : State) (t : Located) (st' : State) : Prop where
  keeps : Keeps st.starts st.output st'.output
  starts_eq : st'.starts = startsAfter st'.output st.starts t
  paren : t.token = .leftParen → ∃ before, st'.output = before ++ ['(']

/-- A token that is no parenthesis opens no group and closes none. -/
theorem Stays.moves {st' : State} (h : Stays offsets st st') {t : Located} (hleft : t.token ≠ .leftParen)
    (hright : t.token ≠ .rightParen) : Nested (openAfter offsets t) st'.groups st'.output ∧ Moves st t st' := by
  have hoffsets : openAfter offsets t = offsets := by unfold openAfter; split <;> simp_all
  have hafter : startsAfter st'.output st.starts t = st.starts := by unfold startsAfter; split <;> simp_all
  rw [hoffsets]
  exact ⟨h.nested, h.keeps, h.starts_eq.trans hafter.symm, fun htoken => absurd htoken hleft⟩

theorem nested_step {collation : Text} {st' : State} {t : Located} (hstep : step collation st t = .ok st')
    (h : Nested offsets st.groups st.output) : Nested (openAfter offsets t) st'.groups st'.output ∧ Moves st t st' := by
  cases hphase : st.phase with
  | operand =>
    rcases (step_operand hphase).1 hstep with ⟨htoken, rfl⟩ | ⟨column, htoken, rfl⟩
    · obtain ⟨hnested, hkeeps, hstarts⟩ := nested_openGroup h t.offset
      have hoffsets : openAfter offsets t = t.offset :: offsets := by rw [openAfter, htoken]
      rw [hoffsets]
      exact ⟨hnested, hkeeps, by rw [hstarts, startsAfter, htoken], fun _ => ⟨_, rfl⟩⟩
    · exact (stays_phase h (.operator column)).moves (by simp [htoken]) (by simp [htoken])
  | operator column =>
    obtain ⟨symbol, op, htoken, -, -, rfl⟩ := (step_operator hphase).1 hstep
    exact (stays_phase h (.value column op)).moves (by simp [htoken]) (by simp [htoken])
  | value column op =>
    obtain ⟨values, hvalues, rfl⟩ := (step_value hphase).1 hstep
    have hstays := stays_compare h collation column op values
    rcases Rule.literals?_eq_some.1 hvalues with ⟨-, text, htoken, -⟩ | ⟨-, text, htoken, -⟩ | ⟨-, raw, htoken, -⟩ <;>
      exact hstays.moves (by simp [htoken]) (by simp [htoken])
  | connective =>
    rcases (step_connective hphase).1 hstep with ⟨htoken, hinner, rfl⟩ | ⟨connective, htoken, rfl⟩
    · obtain ⟨hnested, hkeeps, hstarts⟩ := nested_closeGroup h hinner
      have hoffsets : openAfter offsets t = offsets.tail := by rw [openAfter, htoken]
      rw [hoffsets]
      exact ⟨hnested, hkeeps, by rw [hstarts, startsAfter, htoken], fun hleft => by simp [htoken] at hleft⟩
    · exact (stays_setPending h connective).moves (by simp [htoken]) (by simp [htoken])

theorem nested_run {collation : Text} {ts : List Located} {st' : State}
    (hrun : ts.foldlM (step collation) st = .ok st') (h : Nested offsets st.groups st.output) :
    Nested (ts.foldl openAfter offsets) st'.groups st'.output := by
  induction ts generalizing offsets st with
  | nil =>
    cases hrun
    exact h
  | cons t ts ih =>
    rw [List.foldlM_cons, except_bind_eq_ok] at hrun
    obtain ⟨st₁, hstep, hrest⟩ := hrun
    exact ih hrest (nested_step hstep h).1

/-- Writes the connective that waits, unless there is no group, or no place for the parenthesis that has to be put in. -/
def flush? (st : State) : Option State :=
  match st.groups with
  | [] => none
  | group :: outer =>
    match group.pending with
    | none => some st
    | some connective =>
      let left :=
        if group.applied.any (· ≠ connective) then (insertAt? st.output group.start '(').map (· ++ [')'])
        else some st.output
      left.map fun left =>
        { st with
          output := left ++ ' ' :: connective.keyword ++ [' ']
          groups := { group with pending := none, applied := some connective } :: outer }

theorem flush?_eq_some (h : Nested offsets st.groups st.output) : st.flush? = some st.flush := by
  obtain ⟨phase, groups, output, parameters, columns⟩ := st
  obtain ⟨group, outer, rfl⟩ := List.exists_cons_of_ne_nil h.ne_nil
  obtain ⟨before, contents, rfl, hinsert, -⟩ := h.exists_contents
  simp only [flush?, flush]
  cases group.pending with
  | none => rfl
  | some connective =>
    simp only [hinsert]
    split <;> rfl

/-- The groups of a state lie in its output one inside the other. The offsets are those of the parentheses in the filter that are open. -/
structure IsLaidOut (offsets : List Nat) (st : State) : Prop where
  outermost : ∃ inner pending applied, st.groups = inner ++ [⟨none, 0, pending, applied⟩]
  opened_eq : st.groups.map Group.opened = offsets.map some ++ [none]
  pairwise : st.starts.Pairwise fun inner outer => outer < inner
  start_le : ∀ start ∈ st.starts, start ≤ byteSize st.output
  insert : ∀ start ∈ st.starts, ∃ before after, byteSize before = start ∧ st.output = before ++ after ∧
    insertAt? st.output start '(' = some (before ++ '(' :: after)
  paren : ∀ group ∈ st.groups, group.opened ≠ none →
    ∃ before after, st.output = before ++ '(' :: after ∧ group.start = byteSize before + 1

/-- In every state that a compilation comes to, there is a group, and the groups are laid out in the output: a parenthesis can be put in where the contents of any of them begin, so that the connective that waits can be written. The next step leaves the output before these places as it is. -/
theorem groups_of_run {collation : Text} {ts : List Located} {st : State}
    (h : ts.foldlM (step collation) initial = .ok st) :
    st.IsLaidOut (openParens ts) ∧ st.flush? = some st.flush ∧
      ∀ t st', step collation st t = .ok st' → Moves st t st' := by
  have hnested : Nested (openParens ts) st.groups st.output := nested_run h (.outermost none none [])
  have hinsert : ∀ start ∈ st.starts, ∃ before after, byteSize before = start ∧ st.output = before ++ after ∧
      insertAt? st.output start '(' = some (before ++ '(' :: after) := by
    intro start hstart
    obtain ⟨before, rfl, after, houtput⟩ := hnested.exists_prefix start hstart
    rw [← houtput]
    exact ⟨before, after, rfl, rfl, insertAt?_append _ _ _⟩
  refine ⟨⟨hnested.exists_outermost, hnested.opened_eq, hnested.pairwise, ?_, hinsert, ?_⟩, flush?_eq_some hnested, ?_⟩
  · intro start hstart
    obtain ⟨before, after, rfl, houtput, -⟩ := hinsert start hstart
    rw [houtput, byteSize_append]
    exact Nat.le_add_right _ _
  · intro group hgroup hopened
    obtain ⟨before, hsize, after, houtput⟩ := hnested.exists_paren hgroup hopened
    refine ⟨before, after, by rw [← houtput, List.append_assoc]; rfl, ?_⟩
    rw [← hsize, byteSize_append]
    rfl
  · intro t st' hstep
    exact (nested_step hstep hnested).2

/-- A group is opened in one that was opened where another had been closed, and what the outer of the two holds is put into parentheses first. -/
theorem groups_of_run_umlauts :
    let ts := (scan "ß == 1 || (é == 2) && (Größe == 3 || ü == 4 &&".toList).toOption.getD []
    ∃ st st', ts.foldlM (step "NOCASE".toList) initial = .ok st ∧ openParens ts = [24] ∧
      st.output = "(ß = @p0 OR (é = @p1)) AND (Größe = @p2 OR ü = @p3".toList ∧ st.starts = [30, 0] ∧
      st.IsLaidOut [24] ∧ st.flush? = some st.flush ∧ step "NOCASE".toList st ⟨.leftParen, 52⟩ = .ok st' ∧
      st'.output = "(ß = @p0 OR (é = @p1)) AND ((Größe = @p2 OR ü = @p3) AND (".toList ∧ st'.starts = [63, 30, 0] ∧
      Keeps [30, 0] st.output st'.output := by
  intro ts
  let st : State :=
    { phase := .operand
      groups := [⟨some 24, 30, some .and, some .or⟩, ⟨none, 0, none, some .and⟩]
      output := "(ß = @p0 OR (é = @p1)) AND (Größe = @p2 OR ü = @p3".toList
      parameters := parametersFrom 0 [.int 1, .int 2, .int 3, .int 4]
      columns := ["ß", "é", "Größe", "ü"].map String.toList }
  have hrun : ts.foldlM (step "NOCASE".toList) initial = .ok st := by decide +kernel
  have hopened : openParens ts = [24] := by decide +kernel
  have hstep : step "NOCASE".toList st ⟨.leftParen, 52⟩ = .ok (st.openGroup 52) := rfl
  have houtput : (st.openGroup 52).output = "(ß = @p0 OR (é = @p1)) AND ((Größe = @p2 OR ü = @p3) AND (".toList := by
    decide +kernel
  obtain ⟨hlaid, hflush, hmoves⟩ := groups_of_run hrun
  rw [hopened] at hlaid
  have hmove := hmoves _ _ hstep
  refine ⟨st, st.openGroup 52, hrun, hopened, rfl, rfl, hlaid, hflush, hstep, houtput, ?_, hmove.keeps⟩
  rw [hmove.starts_eq, houtput]
  decide +kernel

end State

end Roster.Filter
