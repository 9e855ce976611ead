import Mathlib.Data.List.Nodup
import Roster.Proofs.Sql.Order
import Roster.Proofs.Users.Reads
import Roster.Users.Script

/-!
# What a session keeps

After any requests whose texts have no semicolons the users that are stored are those that were reported as stored, in their order, and they keep the constraints of their table (`Store.session_invariant`). It is enough to look at one request: all but a successful insert leave the store as it was, and an insert is checked against the users that are there. A name with a semicolon may delete them all (`Store.session_invariant_refuted`).
-/

namespace Roster

open Text

/-! ### The schema -/

namespace Store

variable {s after : Store}

/-- All that the schema creates is there, and its version is recorded. -/
structure InForce (s : Store) : Prop where
  has : ∀ c ∈ schema, s.has c.object.name = true
  version : s.version = some schemaVersion

/-- What is to be created is there already and nothing is done, or it is put after all that is there. -/
theorem create_cases {c : Creation} (h : s.create c = .ok after) :
    s.has c.object.name = true ∧ after = s ∨ after.objects = s.objects ++ [c.object] := by
  unfold create at h
  split at h
  · rename_i hhas
    split at h
    · cases h
      exact .inl ⟨hhas, rfl⟩
    · cases h
  · refine .inr ?_
    dsimp only at h
    split at h
    · cases h
      rfl
    · cases h
      rfl
    · split at h
      · cases h
        rfl
      · cases h

/-- What was created is there afterwards, and so is all that was there before. -/
theorem has_create {c : Creation} (h : s.create c = .ok after) :
    after.has c.object.name = true ∧ ∀ name, s.has name = true → after.has name = true := by
  rcases create_cases h with ⟨hhas, rfl⟩ | hobjects
  · exact ⟨hhas, fun _ => id⟩
  · simp only [has, hobjects, List.any_append, Bool.or_eq_true]
    exact ⟨.inr (by simp [sameIgnoringCase]), fun name hname => .inl hname⟩

theorem has_foldlM_create {cs : List Creation} (h : cs.foldlM create s = .ok after) :
    (∀ c ∈ cs, after.has c.object.name = true) ∧ ∀ name, s.has name = true → after.has name = true := by
  induction cs generalizing s with
  | nil =>
    cases h
    exact ⟨List.forall_mem_nil _, fun _ => id⟩
  | cons c cs ih =>
    obtain ⟨next, hnext, h⟩ := except_bind_eq_ok.1 h
    obtain ⟨hhas, hkept⟩ := has_create hnext
    obtain ⟨hall, hrest⟩ := ih h
    exact ⟨List.forall_mem_cons.2 ⟨hrest _ hhas, hall⟩, fun name hname => hrest name (hkept name hname)⟩

/-- Once it has been applied the schema is in force. -/
theorem inForce_of_applySchema (h : s.applySchema = .ok after) : after.InForce := by
  obtain ⟨created, hcreated, h⟩ := except_bind_eq_ok.1 h
  obtain ⟨hall, -⟩ := has_foldlM_create hcreated
  unfold record at h
  split at h
  · cases h
    exact ⟨hall, rfl⟩
  · cases h

/-- The schema changes nothing where it is in force: it creates only what is missing. -/
theorem InForce.applySchema (h : s.InForce) : s.applySchema = .ok s := by
  have hcreate {cs : List Creation} (hcs : ∀ c ∈ cs, s.has c.object.name = true ∧ c.ifNotExists = true) :
      cs.foldlM create s = .ok s := by
    induction cs with
    | nil => rfl
    | cons c cs ih =>
      rw [List.forall_mem_cons] at hcs
      have hnext : s.create c = .ok s := by rw [create, if_pos hcs.1.1, if_pos hcs.1.2]
      exact except_bind_eq_ok.2 ⟨s, hnext, ih hcs.2⟩
  have hexists : ∀ c ∈ schema, c.ifNotExists = true := by decide
  have hversion : s.has Table.version.name = true := h.has ⟨.table .version, true⟩ (by decide)
  have hrecord : s.record schemaVersion = .ok s := by
    rw [record, if_pos hversion, ← h.version]
  exact except_bind_eq_ok.2 ⟨s, hcreate fun c hc => ⟨h.has c hc, hexists c hc⟩, hrecord⟩

theorem InForce.has_users (h : s.InForce) : s.has Table.users.name = true :=
  h.has ⟨.table .users, true⟩ (by decide)

end Store

/-! ### Inserts -/

/-- The part of a text before the first null character, which is what the table measures. -/
def beforeNull (s : Text) : Text := s.takeWhile fun c => c.toNat != 0

/-- The lengths that the table permits. -/
def Permits (username email : Text) : Prop :=
  (1 ≤ (beforeNull username).length ∧ (beforeNull username).length ≤ 256) ∧ (beforeNull email).length ≤ 320

/-- The id of the user that is stored as the `n`-th. -/
def idOf (n : Nat) : Text := 'u' :: ofNat n

theorem idOf_injective : Function.Injective idOf := by
  intro m n h
  have hread := congrArg toNat? (List.cons.inj h).2
  rwa [toNat?_ofNat, toNat?_ofNat, Option.some_inj] at hread

/-- An insert succeeds exactly if the lengths are permitted and the username is new. The row has the fields asked for and the next id, and it is stored after all others. -/
theorem Database.insert_eq_ok {db after : Database} {u : NewUser} {user : User} :
    db.insert u = .ok (user, after) ↔
      (Permits u.username u.email ∧ ∀ v ∈ db.users, v.username ≠ u.username) ∧
        user = ⟨db.nextId, u.username, u.email, u.passwordHash, u.lastLoginAt, u.active⟩ ∧
        after = ⟨db.users ++ [user]⟩ := by
  have hmeasured (s : Text) : measuredLength s = (beforeNull s).length := rfl
  unfold insert Permits
  simp only [hmeasured]
  split_ifs with husername hemail htaken
  · simp only [false_iff]
    omega
  · simp only [false_iff]
    omega
  · simp only [false_iff]
    obtain ⟨v, hv, hsame⟩ := List.any_eq_true.1 htaken
    rintro ⟨⟨-, hnew⟩, -⟩
    exact hnew v hv (beq_iff_eq.1 hsame)
  · have hnew : ∀ v ∈ db.users, v.username ≠ u.username := by
      intro v hv hsame
      exact htaken (List.any_eq_true.2 ⟨v, hv, beq_iff_eq.2 hsame⟩)
    constructor
    · intro h
      cases h
      exact ⟨⟨by omega, hnew⟩, rfl, rfl⟩
    · rintro ⟨-, rfl, rfl⟩
      rfl

namespace Store

variable {s after : Store} {u : NewUser} {user : User}

theorem insert_eq_ok (htable : s.has Table.users.name = true) :
    s.insert u = .ok (user, after) ↔
      (Permits u.username u.email ∧ ∀ v ∈ s.users, v.username ≠ u.username) ∧
        user = ⟨s.database.nextId, u.username, u.email, u.passwordHash, u.lastLoginAt, u.active⟩ ∧
        after = { s with users := s.users ++ [user] } := by
  rw [insert, if_pos htable, except_map_eq_ok]
  constructor
  · rintro ⟨⟨user', db⟩, h, he⟩
    obtain ⟨hu, rfl, rfl⟩ := Database.insert_eq_ok.1 h
    obtain ⟨rfl, rfl⟩ := Prod.mk.inj he
    exact ⟨hu, rfl, rfl⟩
  · rintro ⟨hu, rfl, rfl⟩
    exact ⟨_, Database.insert_eq_ok.2 ⟨hu, rfl, rfl⟩, rfl⟩

end Store

/-! ### One request -/

/-- The texts that a request has the store read have no semicolon. A compiled filter has none if its columns and the collation have none (`Filter.not_mem_sql`). -/
def Step.IsPlain : Step → Prop
  | .insert _ => True
  | .list options _ => ';' ∉ options.collation
  | .select filter order _ _ => ';' ∉ filter.sql ∧ ∀ t ∈ order, ';' ∉ t.column
  | .count filter => ';' ∉ filter.sql
  | .applySchema => True

namespace Store

variable (engine : Engine) {s : Store} {u : NewUser} {user : User}

/-- A request stores the user that it reports as stored, and changes nothing else. -/
theorem step_snd (h : s.InForce) {next : Step} (hnext : next.IsPlain) :
    (s.step engine next).2 = { s with users := s.users ++ (s.step engine next).1.inserted?.toList } := by
  cases next with
  | insert u =>
    cases hinsert : s.insert u with
    | error e => simp [step, hinsert, Reply.inserted?]
    | ok outcome =>
      obtain ⟨-, -, hafter⟩ := (insert_eq_ok h.has_users).1 hinsert
      simp [step, hinsert, Reply.inserted?, hafter]
  | list options r => simp [step, Reply.inserted?, s.list_snd engine hnext]
  | select filter order limit offset => simp [step, Reply.inserted?, s.select_snd engine hnext.1 hnext.2]
  | count filter => simp [step, Reply.inserted?, s.count_snd engine hnext]
  | applySchema => simp [step, Reply.inserted?, h.applySchema]

theorem step_insert_eq_ok (htable : s.has Table.users.name = true) :
    (s.step engine (.insert u)).1 = .inserted (.ok user) ↔
      (Permits u.username u.email ∧ ∀ v ∈ s.users, v.username ≠ u.username) ∧
        user = ⟨s.database.nextId, u.username, u.email, u.passwordHash, u.lastLoginAt, u.active⟩ := by
  have hiff : (s.step engine (.insert u)).1 = .inserted (.ok user) ↔ ∃ after, s.insert u = .ok (user, after) := by
    cases h : s.insert u with
    | error e => simp [step, h]
    | ok outcome =>
      obtain ⟨user', after⟩ := outcome
      simp [step, h]
  rw [hiff]
  constructor
  · rintro ⟨after, h⟩
    obtain ⟨hu, huser, -⟩ := (insert_eq_ok htable).1 h
    exact ⟨hu, huser⟩
  · rintro ⟨hu, huser⟩
    exact ⟨_, (insert_eq_ok htable).2 ⟨hu, huser, rfl⟩⟩

/-- The schema is in force, the users keep the constraints of their table, and their ids count them. -/
structure WellFormed (s : Store) : Prop where
  inForce : s.InForce
  ids : s.users.map User.id = (List.range' 1 s.users.length).map idOf
  usernames : (s.users.map User.username).Nodup
  permits : ∀ u ∈ s.users, Permits u.username u.email

theorem WellFormed.insert {after : Store} (h : s.WellFormed) (hinsert : s.insert u = .ok (user, after)) :
    after.WellFormed := by
  obtain ⟨⟨hpermits, hnew⟩, rfl, rfl⟩ := (insert_eq_ok h.inForce.has_users).1 hinsert
  refine ⟨⟨h.inForce.has, h.inForce.version⟩, ?_, ?_, ?_⟩
  · rw [List.map_append, h.ids, List.length_append, List.length_singleton, List.range'_concat, List.map_append]
    simp [Database.nextId, database, idOf, Nat.add_comm]
  · rw [List.map_append, List.nodup_append]
    refine ⟨h.usernames, by simp, ?_⟩
    rintro _ hv _ hu rfl
    obtain ⟨v, hv, hsame⟩ := List.mem_map.1 hv
    exact hnew v hv (hsame.trans (List.mem_singleton.1 hu))
  · intro v hv
    rcases List.mem_append.1 hv with hv | hv
    · exact h.permits v hv
    · rw [List.mem_singleton.1 hv]
      exact hpermits

theorem WellFormed.step (h : s.WellFormed) {next : Step} (hnext : next.IsPlain) :
    (s.step engine next).2.WellFormed := by
  have hsame (hnone : (s.step engine next).1.inserted? = none) : (s.step engine next).2.WellFormed := by
    rw [step_snd engine h.inForce hnext, hnone]
    simpa using h
  cases next with
  | insert u =>
    cases hinsert : s.insert u with
    | error e => exact hsame (by simp [Store.step, hinsert, Reply.inserted?])
    | ok outcome => simpa [Store.step, hinsert] using h.insert hinsert
  | applySchema => exact hsame (by simp [Store.step, h.inForce.applySchema, Reply.inserted?])
  | _ => exact hsame rfl

theorem WellFormed.nodup_id (h : s.WellFormed) : (s.users.map User.id).Nodup := by
  rw [h.ids]
  exact List.nodup_range' 1 |>.map idOf_injective

/-- The next id is new. -/
theorem WellFormed.nextId_not_mem (h : s.WellFormed) : s.database.nextId ∉ s.users.map User.id := by
  rw [h.ids, List.mem_map]
  rintro ⟨n, hn, he⟩
  obtain rfl : n = s.users.length + 1 := idOf_injective he
  rw [List.mem_range'_1] at hn
  omega

/-! ### Sessions -/

/-- A session stores the users that it reports as stored. -/
theorem WellFormed.session (h : s.WellFormed) {steps : List Step} (hsteps : ∀ next ∈ steps, next.IsPlain) :
    (s.session engine steps).2.WellFormed ∧
      (s.session engine steps).2.users = s.users ++ (s.session engine steps).1.filterMap Reply.inserted? := by
  induction steps generalizing s with
  | nil => exact ⟨h, by simp [Store.session]⟩
  | cons next steps ih =>
    rw [List.forall_mem_cons] at hsteps
    obtain ⟨hlast, husers⟩ := ih (h.step engine hsteps.1) hsteps.2
    refine ⟨hlast, ?_⟩
    rw [Store.session]
    dsimp only
    rw [husers, step_snd engine h.inForce hsteps.1, List.append_assoc]
    cases hinserted : (s.step engine next).1.inserted? <;> simp [hinserted]

/-- The schema is applied to a new store without an error. -/
theorem exists_step_fresh : ∃ s : Store, s.WellFormed ∧ s.users = [] ∧
    fresh.step engine .applySchema = (.applied (.ok (some schemaVersion)), s) := by
  let s : Store := ⟨schema.map Creation.object, some schemaVersion, []⟩
  have happly : fresh.applySchema = .ok s := by rfl
  exact ⟨s, ⟨inForce_of_applySchema happly, rfl, .nil, List.forall_mem_nil _⟩, rfl, by rw [step, happly]⟩

/-- After any requests without semicolons to a new store, to which the schema has been applied, the users are those whose inserts have succeeded, in order. No two have the same id or the same bytes for a username, and all lengths are permitted. The next insert succeeds exactly if its lengths are permitted and no user has its username; it stores what it was given under a new id. Any other request without semicolons, the application of the schema among them, leaves the store as it is, and so does an insert that fails. -/
theorem session_invariant {steps : List Step} (hsteps : ∀ next ∈ steps, next.IsPlain) :
    let replies := (fresh.session engine (.applySchema :: steps)).1
    let s := (fresh.session engine (.applySchema :: steps)).2
    s.users = replies.filterMap Reply.inserted? ∧
      (s.users.map User.id).Nodup ∧ (s.users.map fun u => toBytes u.username).Nodup ∧
      (∀ u ∈ s.users, Permits u.username u.email) ∧
      (∀ u : NewUser, (∃ user, (s.step engine (.insert u)).1 = .inserted (.ok user)) ↔
        Permits u.username u.email ∧ ∀ v ∈ s.users, v.username ≠ u.username) ∧
      (∀ u user, (s.step engine (.insert u)).1 = .inserted (.ok user) →
        user.id ∉ s.users.map User.id ∧
          user = ⟨user.id, u.username, u.email, u.passwordHash, u.lastLoginAt, u.active⟩) ∧
      ∀ next : Step, next.IsPlain → (s.step engine next).1.inserted? = none → (s.step engine next).2 = s := by
  intro replies s
  obtain ⟨first, hfirst, hempty, hstep⟩ := exists_step_fresh engine
  obtain ⟨hlast, husers⟩ := hfirst.session engine hsteps
  have hs : s = (first.session engine steps).2 := by simp only [s, session, hstep]
  have hreplies : replies = .applied (.ok (some schemaVersion)) :: (first.session engine steps).1 := by
    simp only [replies, session, hstep]
  rw [← hs] at hlast husers
  have htable := hlast.inForce.has_users
  refine ⟨?_, hlast.nodup_id, ?_, hlast.permits, ?_, ?_, ?_⟩
  · rw [husers, hempty, hreplies]
    rfl
  · have hbytes : (s.users.map fun u => toBytes u.username) = (s.users.map User.username).map toBytes := by simp
    rw [hbytes]
    exact hlast.usernames.map fun s t => Sql.toBytes_inj.1
  · intro u
    constructor
    · rintro ⟨user, h⟩
      exact ((step_insert_eq_ok engine htable).1 h).1
    · intro hu
      exact ⟨_, (step_insert_eq_ok engine htable).2 ⟨hu, rfl⟩⟩
  · intro u user h
    obtain ⟨-, rfl⟩ := (step_insert_eq_ok engine htable).1 h
    exact ⟨hlast.nextId_not_mem, rfl⟩
  · intro next hnext hnone
    rw [step_snd engine hlast.inForce hnext, hnone]
    simp

/-- A second insert of one username, the schema once more, a count that fails and a null character at the end. -/
theorem session_invariant_of_same_username :
    let bob : NewUser := ⟨"bob".toList, "b@x.org".toList, "h".toList, none, true⟩
    let row : User := ⟨"u1".toList, "bob".toList, "b@x.org".toList, "h".toList, none, true⟩
    let other : User := ⟨"u2".toList, "bob\x00".toList, "b@x.org".toList, "h".toList, none, true⟩
    let filter : Filter.Compiled := ⟨"Name = @p0".toList, [⟨"@p0".toList, .int 1⟩], ["Name".toList]⟩
    let steps : List Step :=
      [.insert bob, .insert bob, .applySchema, .count filter, .insert { bob with username := "bob\x00".toList }]
    let s := (fresh.session .scripts (.applySchema :: steps)).2
    s.users = [row, other] ∧ (s.step .scripts (.count filter)).2 = s := by
  intro bob row other filter steps s
  have hfilter : ';' ∉ filter.sql := by decide
  have hsteps : ∀ next ∈ steps, next.IsPlain := by
    simp only [steps, List.forall_mem_cons, List.not_mem_nil, false_implies, implies_true, and_true]
    exact ⟨trivial, trivial, trivial, hfilter, trivial⟩
  obtain ⟨husers, -, -, -, -, -, hunchanged⟩ := session_invariant .scripts hsteps
  exact ⟨husers.trans (by decide +kernel), hunchanged (.count filter) hfilter rfl⟩

/-- A filter by a name that ends the statement and begins another, and usernames that begin with a null character. -/
theorem session_invariant_refuted :
    let bob : NewUser := ⟨"bob".toList, "b@x.org".toList, "h".toList, none, true⟩
    let row : User := ⟨"u1".toList, "bob".toList, "b@x.org".toList, "h".toList, none, true⟩
    let s := (fresh.session .scripts [.applySchema, .insert bob]).2
    (∃ filter, Filter.compile ⟨"NOCASE".toList, 4096⟩ "Id;DELETE/**/FROM/**/Users-- == 1".toList = .ok filter ∧
      (s.step .scripts (.select filter [] 100 0)).1.inserted? = none ∧ s.users = [row] ∧
      (s.step .scripts (.select filter [] 100 0)).2.users = []) ∧
      (s.step .scripts (.insert { bob with username := "\x00".toList })).1.inserted? = none := by
  let filter : Filter.Compiled :=
    ⟨"Id;DELETE/**/FROM/**/Users-- = @p0".toList, [⟨"@p0".toList, .int 1⟩], ["Id;DELETE/**/FROM/**/Users--".toList]⟩
  exact ⟨⟨filter, by decide +kernel, rfl, by decide +kernel, by decide +kernel⟩, by decide +kernel⟩

end Store

end Roster
