import TraxOs.Auth.Accounts
import TraxOs.Theory.RelyGuarantee

/-!
# Whole accounts

An account is a user with a credential, a personal workspace and the ownership of it. A
registration makes all of it or nothing, and nobody else takes its email. Sessions belong to
accounts, and their identifiers tell them apart.
-/

namespace TraxOs.Auth

open TraxOs.Theory TraxOs.Api

/-- The account that a context speaks of. -/
structure Account (db : Accounts) (context : AuthContext) : Prop where
  user : db.lookup (.table (.user context.userId)) =
    some (⟨context.email, context.displayName⟩ : User)
  membership : db.lookup (.table (.membership context.workspaceId context.userId)) =
    some (⟨context.role⟩ : Membership)
  personal : ∃ createdAt, db.lookup (.table (.workspace context.workspaceId)) =
    some (⟨.personal, createdAt⟩ : Workspace)

/-- What holds of every committed store. -/
structure Whole (db : Accounts) : Prop where
  emails : ∀ id (user : User), db.lookup (.table (.user id)) = some user →
    db.lookup (.email user.email) = some id
  owners : ∀ email id, db.lookup (.email email) = some id →
    ∃ user : User, db.lookup (.table (.user id)) = some user ∧ user.email = email
  credentials : ∀ id (user : User), db.lookup (.table (.user id)) = some user →
    ∃ passwordHash, db.lookup (.credential id) = some passwordHash
  workspaces : ∀ id (user : User), db.lookup (.table (.user id)) = some user →
    ∃ workspaceId createdAt,
      db.lookup (.table (.membership workspaceId id)) = some (⟨.owner⟩ : Membership) ∧
        db.lookup (.table (.workspace workspaceId)) = some (⟨.personal, createdAt⟩ : Workspace)
  members : ∀ workspaceId id (row : Membership),
    db.lookup (.table (.membership workspaceId id)) = some row →
      (∃ user : User, db.lookup (.table (.user id)) = some user) ∧
        ∃ workspace : Workspace, db.lookup (.table (.workspace workspaceId)) = some workspace
  single : ∀ context other : AuthContext, Account db context → Account db other →
    context.userId = other.userId → context.workspaceId = other.workspaceId
  sessions : ∀ tokenHash (session : Session),
    db.lookup (.table (.session tokenHash)) = some session →
      db.lookup (.sessionId session.id) = some tokenHash ∧
        ∃ user : User, db.lookup (.table (.user session.userId)) = some user

/-- The keys of sessions, whose rows are the only ones that change. -/
def AccountKey.isSession : AccountKey → Bool
  | .table (.session _) => true
  | _ => false

/-- Rows stay, and of a session only its revocation changes. -/
structure Grows (before after : Accounts) : Prop where
  rows : ∀ key row, before.lookup key = some row → key.isSession = false →
    after.lookup key = some row
  sessions : ∀ tokenHash (session : Session),
    before.lookup (.table (.session tokenHash)) = some session →
      ∃ revokedAt, after.lookup (.table (.session tokenHash)) =
        some ({ session with revokedAt := revokedAt } : Session)

theorem Grows.refl (db : Accounts) : Grows db db where
  rows _ _ found _ := found
  sessions _ session found := ⟨session.revokedAt, found⟩

theorem Grows.trans {first middle last : Accounts} (earlier : Grows first middle)
    (later : Grows middle last) : Grows first last where
  rows key row found plain := later.rows key row (earlier.rows key row found plain) plain
  sessions tokenHash session found := by
    obtain ⟨_, there⟩ := earlier.sessions tokenHash session found
    obtain ⟨revokedAt, here⟩ := later.sessions tokenHash _ there
    exact ⟨revokedAt, here⟩

theorem Account.grows {before after : Accounts} {context : AuthContext}
    (account : Account before context) (grows : Grows before after) : Account after context where
  user := grows.rows _ _ account.user rfl
  membership := grows.rows _ _ account.membership rfl
  personal := by
    obtain ⟨createdAt, found⟩ := account.personal
    exact ⟨createdAt, grows.rows _ _ found rfl⟩

/-- The rows of a session that is opened. -/
def opening (provider : Provider) (chance : Chance) (userId : Uuid) : List (Sigma AccountRow) :=
  [⟨.table (.session (provider.sha256 chance.token)),
      issuedSession provider chance userId chance.now⟩,
    ⟨.sessionId chance.sessionId, provider.sha256 chance.token⟩]

/-- The rows of a new account. -/
def enrolment (provider : Provider) (chance : Chance) (body : RegisterRequest) :
    List (Sigma AccountRow) :=
  [⟨.table (.user chance.userId), registeredUser provider body⟩,
    ⟨.email (normalized provider body.email), chance.userId⟩,
    ⟨.credential chance.userId, provider.hash body.password chance.salt⟩,
    ⟨.table (.workspace chance.workspaceId), (⟨.personal, chance.now⟩ : Workspace)⟩,
    ⟨.table (.membership chance.workspaceId chance.userId), (⟨.owner⟩ : Membership)⟩]

/-- The rows of a registration. -/
def registration (provider : Provider) (chance : Chance) (body : RegisterRequest) :
    List (Sigma AccountRow) :=
  enrolment provider chance body ++ opening provider chance chance.userId

/-- A commit that adds rows under keys of their own. -/
structure Adds (rows : List (Sigma AccountRow)) (before after : Accounts) : Prop where
  fresh : ∀ entry ∈ rows, before.lookup entry.1 = none
  made : after = applyAll (putAll rows) before

/-- The password of a login is the one of the account. -/
def Verified (provider : Provider) (body : LoginRequest) (db : Accounts) (context : AuthContext) :
    Prop :=
  ∃ passwordHash, db.lookup (.credential context.userId) = some passwordHash ∧
    provider.verify passwordHash body.password = true

/-- The session with this token, and its account. -/
def Opened (db : Accounts) (tokenHash : Text) (context : AuthContext) (session : Session) : Prop :=
  db.lookup (.table (.session tokenHash)) = some session ∧ session.id = context.sessionId ∧
    session.userId = context.userId ∧ Account db context

/-- The credentials pass the double-submit check against this hash. -/
def Submitted (provider : Provider) (credentials : Credentials) (csrfHash : Text) : Prop :=
  credentials.csrfCookie = credentials.csrfHeader ∧ credentials.csrfHeader ≠ [] ∧
    provider.sha256 credentials.csrfHeader = csrfHash

/-- The database with one session revoked. -/
def revoked (db : Accounts) (tokenHash : Text) (session : Session) (now : Timestamp) : Accounts :=
  applyAll [.put (.table (.session tokenHash)) ({ session with revokedAt := some now } : Session)] db

/-- What the commit of a request does. -/
def Commits (provider : Provider) : Request → Reply → Accounts → Accounts → Prop
  | .register body chance, .opened _ context _, before, after =>
    context = registeredContext provider chance body ∧
      Adds (registration provider chance body) before after
  | .login body chance, .opened _ context _, before, after =>
    context.email = normalized provider body.email ∧ context.sessionId = chance.sessionId ∧
      Account before context ∧ Verified provider body before context ∧
        Adds (opening provider chance context.userId) before after
  | .session credentials _, .current context, before, after =>
    (∃ session, Opened before (provider.sha256 credentials.token) context session) ∧ after = before
  | .logout credentials chance, .closed _, before, after =>
    ∃ context session, Opened before (provider.sha256 credentials.token) context session ∧
      Submitted provider credentials session.csrfHash ∧
        after = revoked before (provider.sha256 credentials.token) session chance.later
  | _, _, _, _ => False

section Commits

variable {provider : Provider} {chance : Chance} {before after : Accounts}

theorem opening_distinct (userId : Uuid) : (opening provider chance userId).NodupKeys := by
  simp [opening, List.nodupKeys_cons, List.keys]

theorem registration_distinct (body : RegisterRequest) :
    (registration provider chance body).NodupKeys := by
  simp [registration, enrolment, opening, List.nodupKeys_cons, List.keys]

/-- What is there afterwards. -/
theorem Adds.lookup_iff {rows : List (Sigma AccountRow)} (adds : Adds rows before after)
    (distinct : rows.NodupKeys) (key : AccountKey) (row : AccountRow key) :
    after.lookup key = some row ↔ before.lookup key = some row ∨ ⟨key, row⟩ ∈ rows := by
  rw [adds.made]
  exact lookup_putAll rows before distinct adds.fresh key row

theorem Adds.grows {rows : List (Sigma AccountRow)} (adds : Adds rows before after)
    (distinct : rows.NodupKeys) : Grows before after where
  rows key row found _ := (adds.lookup_iff distinct key row).mpr (Or.inl found)
  sessions _ session found :=
    ⟨session.revokedAt, (adds.lookup_iff distinct (.table (.session _)) session).mpr (Or.inl found)⟩

/-- A login leaves every other key alone. -/
theorem opening_elsewhere {userId : Uuid} (adds : Adds (opening provider chance userId) before after)
    (key : AccountKey) (plain : key.isSession = false) (indexless : ∀ id, key ≠ .sessionId id) :
    after.lookup key = before.lookup key := by
  rw [adds.made]
  apply lookup_applyAll_untouched
  intro write member
  simp only [putAll, opening, List.map_cons, List.map_nil, List.mem_cons, List.not_mem_nil,
    or_false] at member
  rcases member with rfl | rfl
  · rintro rfl
    cases plain
  · exact Ne.symm (indexless _)

theorem lookup_revoked (db : Accounts) (tokenHash : Text) (session : Session) (now : Timestamp) :
    (revoked db tokenHash session now).lookup (.table (.session tokenHash)) =
      some ({ session with revokedAt := some now } : Session) :=
  AList.lookup_insert db

/-- A logout leaves every other key alone. -/
theorem revoked_elsewhere (db : Accounts) (tokenHash : Text) (session : Session) (now : Timestamp)
    (key : AccountKey) (other : key ≠ .table (.session tokenHash)) :
    (revoked db tokenHash session now).lookup key = db.lookup key := by
  rw [revoked, applyAll_cons, applyAll_nil, Write.lookup_apply_ne _ db key]
  exact Ne.symm other

/-- A revocation changes the revocation of one session. -/
theorem revocation_grows (tokenHash : Text) (session : Session) (now : Timestamp)
    (found : before.lookup (.table (.session tokenHash)) = some session) :
    Grows before (revoked before tokenHash session now) := by
  constructor
  · intro key row there other
    rw [revoked_elsewhere]
    · exact there
    · rintro rfl
      cases other
  · intro tested stored there
    by_cases same : tokenHash = tested
    · subst same
      rw [found, Option.some.injEq] at there
      subst there
      exact ⟨some now, lookup_revoked before tokenHash session now⟩
    · refine ⟨stored.revokedAt, ?_⟩
      rw [revoked_elsewhere]
      · exact there
      · intro clash
        exact same (Key.session.inj (AccountKey.table.inj clash)).symm

/-- Every commit lets the database grow. -/
theorem commits_grow (request : Request) (reply : Reply)
    (commits : Commits provider request reply before after) : Grows before after := by
  unfold Commits at commits
  split at commits
  · exact commits.2.grows (registration_distinct _)
  · exact commits.2.2.2.2.grows (opening_distinct _)
  · rw [commits.2]
    exact .refl before
  · obtain ⟨context, session, opened, _, rfl⟩ := commits
    exact revocation_grows _ session _ opened.1
  · exact commits.elim

/-- A commit that leaves all but sessions alone. -/
theorem whole_sessions (whole : Whole before)
    (same : ∀ key, key.isSession = false → (∀ id, key ≠ .sessionId id) →
      after.lookup key = before.lookup key)
    (sessions : ∀ tokenHash (session : Session),
      after.lookup (.table (.session tokenHash)) = some session →
        after.lookup (.sessionId session.id) = some tokenHash ∧
          ∃ user : User, before.lookup (.table (.user session.userId)) = some user) :
    Whole after := by
  have users : ∀ id, after.lookup (.table (.user id)) = before.lookup (.table (.user id)) :=
    fun id => same _ rfl (by simp)
  have memberships : ∀ workspaceId id, after.lookup (.table (.membership workspaceId id)) =
      before.lookup (.table (.membership workspaceId id)) := fun _ _ => same _ rfl (by simp)
  have workspaces : ∀ id, after.lookup (.table (.workspace id)) =
      before.lookup (.table (.workspace id)) := fun id => same _ rfl (by simp)
  have accounts : ∀ context, Account after context → Account before context := by
    intro context account
    obtain ⟨user, membership, personal⟩ := account
    rw [users] at user
    rw [memberships] at membership
    rw [workspaces] at personal
    exact ⟨user, membership, personal⟩
  constructor
  · intro id user found
    rw [users] at found
    rw [same (.email user.email) rfl (by simp)]
    exact whole.emails id user found
  · intro email id found
    rw [same (.email email) rfl (by simp)] at found
    rw [users]
    exact whole.owners email id found
  · intro id user found
    rw [users] at found
    rw [same (.credential id) rfl (by simp)]
    exact whole.credentials id user found
  · intro id user found
    rw [users] at found
    simp only [memberships, workspaces]
    exact whole.workspaces id user found
  · intro workspaceId id row found
    rw [memberships] at found
    rw [users, workspaces]
    exact whole.members workspaceId id row found
  · intro context other first second
    exact whole.single context other (accounts context first) (accounts other second)
  · intro tokenHash session found
    rw [users]
    exact sessions tokenHash session found

/-- A login keeps accounts whole. -/
theorem whole_opening (whole : Whole before) (userId : Uuid) (user : User)
    (known : before.lookup (.table (.user userId)) = some user)
    (adds : Adds (opening provider chance userId) before after) : Whole after := by
  have found_iff := adds.lookup_iff (opening_distinct userId)
  apply whole_sessions whole
  · exact opening_elsewhere adds
  · intro tokenHash session found
    rcases (found_iff (.table (.session tokenHash)) session).mp found with old | new
    · obtain ⟨indexed, owner⟩ := whole.sessions tokenHash session old
      exact ⟨(found_iff _ _).mpr (Or.inl indexed), owner⟩
    · simp only [opening, List.mem_cons, List.not_mem_nil, or_false, Sigma.mk.injEq] at new
      rcases new with ⟨key, rfl⟩ | ⟨key, _⟩
      · cases key
        exact ⟨(found_iff _ _).mpr (Or.inr (by simp [opening, issuedSession])), user, known⟩
      · cases key

/-- A logout keeps accounts whole. -/
theorem whole_revocation (whole : Whole before) (tokenHash : Text) (session : Session)
    (now : Timestamp) (found : before.lookup (.table (.session tokenHash)) = some session) :
    Whole (revoked before tokenHash session now) := by
  apply whole_sessions whole
  · intro key plain _
    apply revoked_elsewhere
    rintro rfl
    cases plain
  · intro tested stored there
    rw [revoked_elsewhere _ _ _ _ (.sessionId stored.id) (by simp)]
    by_cases same : tested = tokenHash
    · subst same
      rw [lookup_revoked, Option.some.injEq] at there
      subst there
      exact whole.sessions tested session found
    · rw [revoked_elsewhere] at there
      · exact whole.sessions tested stored there
      · exact fun clash => same (Key.session.inj (AccountKey.table.inj clash))

/-- The user of a registration is new. -/
theorem registered_unused (body : RegisterRequest)
    (adds : Adds (registration provider chance body) before after) :
    before.lookup (.table (.user chance.userId)) = none :=
  adds.fresh ⟨.table (.user chance.userId), registeredUser provider body⟩
    (by simp [registration, enrolment])

/-- An account is new or was there, and then its user is not the new one. -/
theorem account_earlier (body : RegisterRequest) (whole : Whole before)
    (adds : Adds (registration provider chance body) before after) (context : AuthContext)
    (account : Account after context) :
    (Account before context ∧ context.userId ≠ chance.userId) ∨
      (context.userId = chance.userId ∧ context.workspaceId = chance.workspaceId) := by
  have found_iff := adds.lookup_iff (registration_distinct body)
  have stays : ∀ key (row : AccountRow key), before.lookup key = some row →
      after.lookup key = some row := fun key row found => (found_iff key row).mpr (Or.inl found)
  have unused := registered_unused body adds
  rcases (found_iff _ _).mp account.membership with old | new
  · -- The user of a membership that was there is not the new one.
    obtain ⟨⟨user, there⟩, workspace, personal⟩ := whole.members _ _ _ old
    obtain ⟨createdAt, found⟩ := account.personal
    have same := account.user.symm.trans (stays _ _ there)
    have alike := found.symm.trans (stays _ _ personal)
    refine Or.inl ⟨⟨there.trans same.symm, old, createdAt, personal.trans alike.symm⟩, ?_⟩
    intro mine
    rw [mine, unused] at there
    cases there
  · simp [registration, enrolment, opening] at new
    exact Or.inr ⟨new.1.2, new.1.1⟩

/-- A registration adds an account. -/
theorem whole_registration (body : RegisterRequest) (whole : Whole before)
    (adds : Adds (registration provider chance body) before after) : Whole after := by
  have found_iff := adds.lookup_iff (registration_distinct body)
  have stays : ∀ key (row : AccountRow key), before.lookup key = some row →
      after.lookup key = some row := fun key row found => (found_iff key row).mpr (Or.inl found)
  have made : ∀ key (row : AccountRow key), ⟨key, row⟩ ∈ registration provider chance body →
      after.lookup key = some row := fun key row member => (found_iff key row).mpr (Or.inr member)
  have users : ∀ id (user : User), after.lookup (.table (.user id)) = some user →
      before.lookup (.table (.user id)) = some user ∨
        (id = chance.userId ∧ user = registeredUser provider body) := by
    intro id user found
    refine ((found_iff _ _).mp found).imp_right fun member => ?_
    simpa [registration, enrolment, opening] using member
  have memberships : ∀ workspaceId id (row : Membership),
      after.lookup (.table (.membership workspaceId id)) = some row →
        before.lookup (.table (.membership workspaceId id)) = some row ∨
          (workspaceId = chance.workspaceId ∧ id = chance.userId) := by
    intro workspaceId id row found
    refine ((found_iff _ _).mp found).imp_right fun member => ?_
    simp only [registration, enrolment, opening] at member
    simp at member
    exact member.1
  have enrolled : after.lookup (.table (.user chance.userId)) =
      some (registeredUser provider body) := made _ _ (by simp [registration, enrolment])
  constructor
  · intro id user found
    rcases users id user found with old | ⟨rfl, rfl⟩
    · exact stays _ _ (whole.emails id user old)
    · exact made _ _ (by simp [registration, enrolment, registeredUser])
  · intro email id found
    rcases (found_iff (.email email) id).mp found with old | new
    · obtain ⟨user, there, same⟩ := whole.owners email id old
      exact ⟨user, stays _ _ there, same⟩
    · simp [registration, enrolment, opening] at new
      obtain ⟨rfl, rfl⟩ := new
      exact ⟨_, enrolled, rfl⟩
  · intro id user found
    rcases users id user found with old | ⟨rfl, rfl⟩
    · obtain ⟨passwordHash, there⟩ := whole.credentials id user old
      exact ⟨passwordHash, stays _ _ there⟩
    · exact ⟨provider.hash body.password chance.salt, made _ _ (by simp [registration, enrolment])⟩
  · intro id user found
    rcases users id user found with old | ⟨rfl, rfl⟩
    · obtain ⟨workspaceId, createdAt, membership, workspace⟩ := whole.workspaces id user old
      exact ⟨workspaceId, createdAt, stays _ _ membership, stays _ _ workspace⟩
    · exact ⟨chance.workspaceId, chance.now, made _ _ (by simp [registration, enrolment]),
        made _ _ (by simp [registration, enrolment])⟩
  · intro workspaceId id row found
    rcases memberships workspaceId id row found with old | ⟨rfl, rfl⟩
    · obtain ⟨⟨user, member⟩, workspace, there⟩ := whole.members workspaceId id row old
      exact ⟨⟨user, stays _ _ member⟩, workspace, stays _ _ there⟩
    · exact ⟨⟨_, enrolled⟩, ⟨.personal, chance.now⟩, made _ _ (by simp [registration, enrolment])⟩
  · have earlier := account_earlier body whole adds
    intro context other first second same
    rcases earlier context first with ⟨old, apart⟩ | ⟨mine, workspace⟩
    · rcases earlier other second with ⟨older, _⟩ | ⟨mine, _⟩
      · exact whole.single context other old older same
      · exact absurd (same.trans mine) apart
    · rcases earlier other second with ⟨_, apart⟩ | ⟨_, theirs⟩
      · exact absurd (same.symm.trans mine) apart
      · rw [workspace, theirs]
  · intro tokenHash session found
    rcases (found_iff (.table (.session tokenHash)) session).mp found with old | new
    · obtain ⟨indexed, user, owner⟩ := whole.sessions tokenHash session old
      exact ⟨stays _ _ indexed, user, stays _ _ owner⟩
    · simp [registration, enrolment, opening] at new
      obtain ⟨rfl, rfl⟩ := new
      exact ⟨made _ _ (by simp [registration, opening, issuedSession]), _, enrolled⟩

end Commits

end TraxOs.Auth
