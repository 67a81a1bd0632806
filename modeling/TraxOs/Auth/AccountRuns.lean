import TraxOs.Auth.Wholeness

/-!
# Runs of accounts

What each transaction reads stays true until it commits, because rows stay and its own new keys
are locked. So every commit of any interleaving does what its request says, and accounts stay
whole.
-/

namespace TraxOs.Auth

open TraxOs.Theory TraxOs.Api

section Reading

variable {db : Accounts}

/-- The personal workspaces of a user. -/
theorem mem_personalWorkspaces (db : Database) (userId workspaceId : Uuid) (createdAt : Timestamp)
    (role : Role) :
    (createdAt, workspaceId, role) ∈ personalWorkspaces db userId ↔
      db.lookup (.membership workspaceId userId) = some (⟨role⟩ : Membership) ∧
        db.lookup (.workspace workspaceId) = some (⟨.personal, createdAt⟩ : Workspace) := by
  simp only [personalWorkspaces, mem_sortBy, mem_collect]
  constructor
  · rintro ⟨key, row, found, picked⟩
    cases key with
    | membership workspace member =>
      simp only at picked
      split at picked
      · next same =>
        subst same
        split at picked
        · next workspaceRow there =>
          split at picked
          · next personal =>
            simp only [Option.some.injEq, Prod.mk.injEq] at picked
            obtain ⟨rfl, rfl, rfl⟩ := picked
            refine ⟨found, there.trans ?_⟩
            rw [← personal]
          · cases picked
        · cases picked
      · cases picked
    | _ => cases picked
  · rintro ⟨membership, workspace⟩
    refine ⟨.membership workspaceId userId, ⟨role⟩, membership, ?_⟩
    simp [workspace]

/-- The account that a personal workspace and its user make. -/
theorem account_of_workspace {id : Uuid} {user : User} {entry : Timestamp × Uuid × Role}
    (found : db.lookup (.table (.user id)) = some user)
    (first : (personalWorkspaces (plain db) id).head? = some entry) (sessionId : Uuid) :
    Account db ⟨id, entry.2.1, sessionId, user.email, user.displayName, entry.2.2⟩ := by
  obtain ⟨membership, workspace⟩ :=
    (mem_personalWorkspaces (plain db) id entry.2.1 entry.1 entry.2.2).mp
      (List.mem_of_mem_head? first)
  rw [lookup_plain] at membership workspace
  exact ⟨found, membership, entry.1, workspace⟩

/-- A login reads an account with its credential. -/
theorem selectLogin_account (whole : Whole db) (email : Text) (row : LoginRow)
    (found : selectLogin db email = some row) (sessionId : Uuid) :
    Account db ⟨row.id, row.workspaceId, sessionId, row.email, row.displayName, row.role⟩ ∧
      row.email = email ∧ db.lookup (.credential row.id) = some row.passwordHash := by
  simp only [selectLogin, Option.bind_eq_bind, Option.bind_eq_some_iff, Option.some.injEq] at found
  obtain ⟨id, indexed, user, there, passwordHash, credential, entry, first, rfl⟩ := found
  obtain ⟨owner, again, same⟩ := whole.owners email id indexed
  rw [there, Option.some.injEq] at again
  exact ⟨account_of_workspace there first sessionId, again ▸ same, credential⟩

/-- What the session select finds. -/
theorem findSession_opened {tokenHash csrfHash : Text} {now : Timestamp} {context : AuthContext}
    (found : findSession (plain db) tokenHash now = some (context, csrfHash)) :
    ∃ session, Opened db tokenHash context session ∧ session.csrfHash = csrfHash ∧
      session.revokedAt = none ∧ now < session.expiresAt := by
  simp only [findSession, lookup_plain] at found
  split at found
  · cases found
  · next session stored =>
    split at found
    · next live =>
      simp only [Bool.and_eq_true, Option.isNone_iff_eq_none, decide_eq_true_eq] at live
      split at found
      · next user entry there first =>
        simp only [Option.some.injEq, Prod.mk.injEq] at found
        obtain ⟨rfl, rfl⟩ := found
        exact ⟨session, ⟨stored, rfl, rfl, account_of_workspace there first _⟩, rfl, live.1, live.2⟩
      · cases found
    · cases found

/-- The session select finds exactly the sessions that are open, with their accounts. -/
theorem findSession_iff (whole : Whole db) (tokenHash csrfHash : Text) (now : Timestamp)
    (context : AuthContext) :
    findSession (plain db) tokenHash now = some (context, csrfHash) ↔
      ∃ session, Opened db tokenHash context session ∧ session.csrfHash = csrfHash ∧
        session.revokedAt = none ∧ now < session.expiresAt := by
  refine ⟨findSession_opened, ?_⟩
  rintro ⟨session, ⟨stored, identified, owner, account⟩, rfl, unrevoked, live⟩
  obtain ⟨createdAt, personal⟩ := account.personal
  have listed : (createdAt, context.workspaceId, context.role) ∈
      personalWorkspaces (plain db) context.userId := by
    apply (mem_personalWorkspaces _ _ _ _ _).mpr
    rw [lookup_plain, lookup_plain]
    exact ⟨account.membership, personal⟩
  have chosen : ∃ first, (personalWorkspaces (plain db) context.userId).head? = some
      (first, context.workspaceId, context.role) := by
    cases all : personalWorkspaces (plain db) context.userId with
    | nil => rw [all] at listed; cases listed
    | cons entry rest =>
      have first : (personalWorkspaces (plain db) context.userId).head? = some entry := by rw [all]; rfl
      have theirs := account_of_workspace account.user first context.sessionId
      have same : context.workspaceId = entry.2.1 := whole.single context _ account theirs rfl
      have role := theirs.membership.symm.trans (same ▸ account.membership)
      rw [Option.some.injEq, Membership.mk.injEq] at role
      refine ⟨entry.1, ?_⟩
      rw [same, ← role]
      rfl
  obtain ⟨first, head⟩ := chosen
  have user : db.lookup (.table (.user session.userId)) =
      some (⟨context.email, context.displayName⟩ : User) := by
    rw [owner]
    exact account.user
  rw [← owner] at head
  simp only [findSession, lookup_plain, stored, unrevoked, user, head, live]
  rw [owner, identified]
  rfl

end Reading

section Running

/-- What every transaction keeps. -/
def accountContract (provider : Provider) : Contract AccountRow Request Reply where
  Allowed _ := True
  Inv := Whole
  Commits := Commits provider

variable {provider : Provider} {request : Request} {progress : Progress Empty AccountRow Res}
  {store later : Accounts} {rows : List (Sigma AccountRow)} {α : Type}

theorem grows_reaches
    (reached : Reaches (accounts provider) (accountContract provider) request progress store later) :
    Grows store later := by
  induction reached with
  | refl => exact .refl store
  | tail _ interferes inductionHypothesis =>
    obtain ⟨_, _, other, reply, _, _, _, commits, _⟩ := interferes
    exact inductionHypothesis.trans (commits_grow other reply commits)

/-- The transaction has added these rows, and their keys are locked and free. -/
structure Adding (rows : List (Sigma AccountRow)) (progress : Progress Empty AccountRow Res)
    (store : Accounts) : Prop where
  writes : progress.writes = putAll rows
  unused : ∀ entry ∈ rows, Pinned progress store entry.1 none

theorem adding_empty (store : Accounts) :
    Adding [] (.empty : Progress Empty AccountRow Res) store where
  writes := rfl
  unused := by simp

/-- A statement that only reads. -/
theorem Adding.read (adding : Adding rows progress store)
    (reached : Reaches (accounts provider) (accountContract provider) request progress store later)
    (op : Op) (answer : Res op) : Adding rows (progress.extend op answer [] []) later where
  writes := by
    rw [← adding.writes]
    exact List.append_nil progress.writes
  unused entry member := keeps_perform _ _ request progress store later op answer [] [] reached _ _
    (adding.unused entry member)

/-- What it commits. -/
theorem Adding.adds (adding : Adding rows progress store)
    (reached : Reaches (accounts provider) (accountContract provider) request progress store later) :
    Adds rows later (progress.view later) where
  fresh entry member := (keeps_reaches _ _ request progress store later reached _ _
    (adding.unused entry member)).1
  made := by rw [Progress.view, adding.writes]

/-- The rows that a statement adds. -/
def Op.adds : Op → List (Sigma AccountRow)
  | .insertUser id row => [⟨.table (.user id), row⟩, ⟨.email row.email, id⟩]
  | .insertCredential userId passwordHash => [⟨.credential userId, passwordHash⟩]
  | .insertWorkspace id _ row => [⟨.table (.workspace id), row⟩]
  | .insertMembership workspaceId userId row => [⟨.table (.membership workspaceId userId), row⟩]
  | .insertSession tokenHash row =>
    [⟨.table (.session tokenHash), row⟩, ⟨.sessionId row.id, tokenHash⟩]
  | _ => []

/-- Every statement but the revocation only adds rows, under keys that are free. -/
theorem execute_adds (op : Op) (keeps : ∀ id now, op ≠ .revokeSession id now) (db : Accounts)
    (answer : Res op) (writes : List (Write AccountRow)) (locks : Locks AccountKey Empty)
    (ran : execute op db = .ran answer writes locks) :
    writes = putAll op.adds ∧ ∀ entry ∈ op.adds, db.lookup entry.1 = none := by
  cases op with
  | revokeSession id now => exact absurd rfl (keeps id now)
  | selectLogin email =>
    cases ran
    exact ⟨rfl, by simp [Op.adds]⟩
  | findSession tokenHash now =>
    cases ran
    exact ⟨rfl, by simp [Op.adds]⟩
  | _ =>
    simp only [execute, refused] at ran
    repeat' split at ran
    all_goals cases ran
    refine ⟨rfl, ?_⟩
    simp_all [Op.adds]

/-- A statement that adds rows. -/
theorem leads_adding (op : Op) (next : Res op → Action α)
    (post : α → Progress Empty AccountRow Res → Accounts → Prop)
    (adding : Adding rows progress store) (keeps : ∀ id now, op ≠ .revokeSession id now)
    (apart : ∀ entry ∈ op.adds, ∀ other ∈ rows, other.1 ≠ entry.1)
    (continues : ∀ answer grown later, Grows store later → Adding (rows ++ op.adds) grown later →
      Leads (accounts provider) (accountContract provider) request (next answer) grown later post) :
    Leads (accounts provider) (accountContract provider) request (.perform op next) progress store
      post := by
  intro later holds reached answer writes locks ran
  obtain ⟨rfl, fresh⟩ := execute_adds op keeps _ answer writes locks ran
  apply continues answer _ later (grows_reaches reached)
  constructor
  · simp only [Progress.extend, adding.writes, putAll, List.map_append]
  · intro entry member
    rcases List.mem_append.mp member with earlier | here
    · exact keeps_perform _ _ request progress store later op answer _ locks reached _ _
        (adding.unused entry earlier)
    · have spared : (progress.view later).lookup entry.1 = later.lookup entry.1 := by
        rw [Progress.view, adding.writes]
        apply lookup_applyAll_untouched
        intro write written
        obtain ⟨other, there, rfl⟩ := List.mem_map.mp written
        exact apart entry here other there
      have unused : later.lookup entry.1 = none := spared.symm.trans (fresh entry here)
      have pinned := pinned_written progress later op answer (putAll op.adds) locks
        (.put entry.1 entry.2) (List.mem_map.mpr ⟨entry, here, rfl⟩)
      rwa [Write.key, unused] at pinned

/-- A registration adds its rows. -/
theorem leads_register (body : RegisterRequest) (chance : Chance) (store : Accounts) :
    Leads (accounts provider) (accountContract provider) request (register provider chance body)
      .empty store fun reply progress store =>
        (∃ cookies, reply = .opened 201 (registeredContext provider chance body) cookies) ∧
          Adding (registration provider chance body) progress store := by
  apply leads_adding _ _ _ (adding_empty store) (by simp) (by simp)
  intro _ progress store _ user
  apply leads_adding _ _ _ user (by simp) (by simp [Op.adds])
  intro _ progress store _ credential
  apply leads_adding _ _ _ credential (by simp) (by simp [Op.adds])
  intro _ progress store _ workspace
  apply leads_adding _ _ _ workspace (by simp) (by simp [Op.adds])
  intro _ progress store _ membership
  apply leads_adding _ _ _ membership (by simp) (by simp [Op.adds])
  intro _ progress store _ session
  exact ⟨⟨_, rfl⟩, session⟩

/-- A login has verified the password of the account, and adds a session. -/
theorem leads_login (body : LoginRequest) (chance : Chance) (store : Accounts) :
    Leads (accounts provider) (accountContract provider) request (login provider chance body)
      .empty store fun reply progress store =>
        ∃ context cookies, reply = .opened 200 context cookies ∧
          context.email = normalized provider body.email ∧ context.sessionId = chance.sessionId ∧
            Account store context ∧ Verified provider body store context ∧
              Adding (opening provider chance context.userId) progress store := by
  simp only [login, Program.ask_bind]
  intro later whole reached answer writes locks ran
  have begun := (adding_empty store).read reached (.selectLogin (normalized provider body.email))
    answer
  cases ran
  beta_reduce
  split
  · next row found verified =>
    rw [found, Option.map_some, Option.getD_some] at verified
    obtain ⟨account, email, credential⟩ :=
      selectLogin_account whole (normalized provider body.email) row found chance.sessionId
    apply leads_adding _ _ _ begun (by simp) (by simp)
    intro _ grown last grows session
    refine ⟨_, _, rfl, email, rfl, account.grows grows, ⟨row.passwordHash, ?_, verified⟩, session⟩
    exact grows.rows _ _ credential rfl
  · trivial

/-- The session that a request presents. -/
theorem leads_authenticate (credentials : Credentials) (chance : Chance) (store : Accounts) :
    Leads (accounts provider) (accountContract provider) request
      (authenticate provider chance credentials) .empty store fun found progress store =>
        Adding [] progress store ∧ ∃ session,
          Opened store (provider.sha256 credentials.token) found.1 session ∧
            session.csrfHash = found.2 := by
  simp only [authenticate]
  split
  · trivial
  · simp only [Program.ask_bind]
    intro later whole reached answer writes locks ran
    have begun := (adding_empty store).read reached
      (.findSession (provider.sha256 credentials.token) chance.now) answer
    cases ran
    beta_reduce
    split
    · trivial
    · next entry found =>
      obtain ⟨session, opened, csrf, _, _⟩ := findSession_opened found
      exact ⟨begun, session, opened, csrf⟩

/-- The session stays, possibly revoked. -/
theorem Opened.grows {before after : Accounts} {tokenHash : Text} {context : AuthContext}
    {session : Session} (opened : Opened before tokenHash context session)
    (grows : Grows before after) :
    ∃ revokedAt, Opened after tokenHash context { session with revokedAt := revokedAt } := by
  obtain ⟨stored, identified, owner, account⟩ := opened
  obtain ⟨revokedAt, found⟩ := grows.sessions tokenHash session stored
  exact ⟨revokedAt, found, identified, owner, account.grows grows⟩

/-- The double-submit check. -/
theorem leads_requireCsrf (credentials : Credentials) (csrfHash : Text)
    (rest : Unit → Action α) (post : α → Progress Empty AccountRow Res → Accounts → Prop)
    (continues : Submitted provider credentials csrfHash →
      Leads (accounts provider) (accountContract provider) request (rest ()) progress store post) :
    Leads (accounts provider) (accountContract provider) request
      (requireCsrf provider credentials csrfHash >>= rest) progress store post := by
  unfold requireCsrf
  split
  · trivial
  · next passed =>
    simp only [Bool.or_eq_true, List.isEmpty_iff, decide_eq_true_eq, not_or, not_not,
      ne_eq] at passed
    exact continues ⟨passed.1.2, passed.1.1.2, passed.2⟩

/-- A logout revokes the session that it has found. -/
theorem leads_logout (credentials : Credentials) (chance : Chance) (store : Accounts) :
    Leads (accounts provider) (accountContract provider) request (logout provider chance credentials)
      .empty store fun reply progress store => (∃ deleted, reply = .closed deleted) ∧
        ∃ context session, Opened store (provider.sha256 credentials.token) context session ∧
          Submitted provider credentials session.csrfHash ∧
            progress.writes = [.put (.table (.session (provider.sha256 credentials.token)))
              ({ session with revokedAt := some chance.later } : Session)] ∧
            Pinned progress store (.table (.session (provider.sha256 credentials.token)))
              (some session) := by
  unfold logout
  apply leads_bind
  apply leads_mono _ _ _ _ _ _ _ _ (leads_authenticate credentials chance store)
  rintro ⟨context, csrfHash⟩ progress store ⟨begun, session, opened, rfl⟩
  apply leads_requireCsrf
  intro submitted
  simp only [Program.ask_bind]
  intro later whole reached answer writes locks ran
  obtain ⟨revokedAt, still⟩ := opened.grows (grows_reaches reached)
  obtain ⟨stored, identified, owner, account⟩ := still
  have indexed : later.lookup (.sessionId context.sessionId) =
      some (provider.sha256 credentials.token) := by
    rw [← identified]
    exact (whole.sessions _ _ stored).1
  have own : progress.view later = later := by
    rw [Progress.view, begun.writes]
    rfl
  change execute (.revokeSession context.sessionId chance.later) (progress.view later) =
    .ran answer writes locks at ran
  rw [own] at ran
  simp only [execute, indexed, stored] at ran
  cases ran
  refine ⟨⟨_, rfl⟩, context, _, ⟨stored, identified, owner, account⟩, submitted, ?_, ?_⟩
  · rw [Progress.extend, begun.writes]
    rfl
  · have pinned := pinned_written progress later
      (.revokeSession context.sessionId chance.later) ()
      [.put (.table (.session (provider.sha256 credentials.token)))
        ({ session with revokedAt := some chance.later } : Session)] [] _ List.mem_cons_self
    rwa [Write.key, stored] at pinned

/-- Every transaction is safe. -/
theorem safe_accounts (provider : Provider) (request : Request) (store : Accounts) :
    Safe (accounts provider) (accountContract provider) request (program provider request) .empty
      store := by
  cases request with
  | register body chance =>
    apply leads_mono _ _ _ _ _ _ _ _ (leads_register body chance store)
    rintro reply progress store ⟨⟨cookies, rfl⟩, adding⟩ later _ reached
    exact ⟨rfl, adding.adds reached⟩
  | login body chance =>
    apply leads_mono _ _ _ _ _ _ _ _ (leads_login body chance store)
    rintro reply progress store ⟨context, cookies, rfl, email, identified, account, verified, adding⟩
      later _ reached
    obtain ⟨passwordHash, credential, matching⟩ := verified
    have grows := grows_reaches reached
    exact ⟨email, identified, account.grows grows,
      ⟨passwordHash, grows.rows _ _ credential rfl, matching⟩, adding.adds reached⟩
  | session credentials chance =>
    apply leads_bind
    apply leads_mono _ _ _ _ _ _ _ _ (leads_authenticate credentials chance store)
    rintro ⟨context, csrfHash⟩ progress store ⟨adding, session, opened, _⟩ later _ reached
    obtain ⟨revokedAt, still⟩ := opened.grows (grows_reaches reached)
    exact ⟨⟨_, still⟩, (adding.adds reached).made⟩
  | logout credentials chance =>
    apply leads_mono _ _ _ _ _ _ _ _ (leads_logout credentials chance store)
    rintro reply progress store ⟨⟨deleted, rfl⟩, context, session, opened, submitted, writes, pinned⟩
      later _ reached
    obtain ⟨_, identified, owner, account⟩ := opened
    have stored := (keeps_reaches _ _ _ progress store later reached _ _ pinned).1
    refine ⟨context, session, ⟨stored, identified, owner, account.grows (grows_reaches reached)⟩,
      submitted, ?_⟩
    rw [Progress.view, writes, revoked]

/-- Every commit keeps accounts whole. -/
theorem whole_commits (request : Request) (reply : Reply) (before after : Accounts)
    (whole : Whole before) (commits : Commits provider request reply before after) :
    Whole after := by
  unfold Commits at commits
  split at commits
  · exact whole_registration _ whole commits.2
  · exact whole_opening whole _ _ commits.2.2.1.user commits.2.2.2.2
  · rw [commits.2]
    exact whole
  · obtain ⟨context, session, opened, _, rfl⟩ := commits
    exact whole_revocation whole _ session _ opened.1
  · exact commits.elim

end Running

/-- Every run is linked by such commits of whole accounts. -/
theorem run_admitted (provider : Provider) (db : Accounts)
    (last : System Empty AccountRow Res Failure Request Reply) (whole : Whole db)
    (run : Run (accounts provider) (fun _ _ => True) (System.initial db) last) :
    Sound (accounts provider) (accountContract provider) db last := by
  apply run_sound (accounts provider) (accountContract provider) (fun _ _ => True)
    (System.initial db) last db _ _ _ _ _ run
  · exact fun _ _ _ => trivial
  · intro system index process reply earlier _ found _
    exact never_stale (accounts provider) _ (System.initial db) system (fun _ _ _ _ => rfl)
      earlier (by simp [System.initial]) process (List.mem_of_getElem? found)
  · exact fun request store _ _ => safe_accounts provider request store
  · exact fun request reply before after _ => whole_commits request reply before after
  · exact sound_initial _ _ db whole

/-- In every interleaving of registrations, logins, session checks and logouts accounts stay
whole, and each commit does what its request says. -/
theorem accounts_stay_whole (provider : Provider) (db : Accounts)
    (last : System Empty AccountRow Res Failure Request Reply) (whole : Whole db)
    (run : Run (accounts provider) (fun _ _ => True) (System.initial db) last) :
    Whole last.db ∧ Linked (Commits provider) db last.history last.db := by
  have sound := run_admitted provider db last whole run
  exact ⟨sound.invariant, sound.linked.mono fun _ _ _ _ admitted => admitted.2.2.2⟩

/-- Nobody has registered yet. -/
theorem whole_empty : Whole ∅ where
  emails := by simp
  owners := by simp
  credentials := by simp
  workspaces := by simp
  members := by simp
  single context other account := by
    have found := account.user
    simp at found
  sessions := by simp

/-- A run of two registrations, one login and one logout, and the session that stands then. -/
theorem visit_run :
    ∃ last, Run (accounts Sample.provider) (fun _ _ => True) (System.initial ∅) last ∧
      last.history.map (fun commit => commit.request) =
        [Sample.registration, Sample.signIn, Sample.signOut] ∧
      last.history.map (fun commit => commit.reply) = Sample.replies ∧
      findSession (plain last.db) (Sample.provider.sha256 ['t']) 50 =
        some (Sample.owner, Sample.provider.sha256 ['c']) := by
  have made : ((System.initial ∅).steps (accounts Sample.provider) Sample.visit).map
      (fun last => (last.history.map (fun commit => commit.request),
        last.history.map (fun commit => commit.reply),
        findSession (plain last.db) (Sample.provider.sha256 ['t']) 50)) =
          some ([Sample.registration, Sample.signIn, Sample.signOut], Sample.replies,
            some (Sample.owner, Sample.provider.sha256 ['c'])) := by
    decide +kernel
  obtain ⟨last, ran, observed⟩ := Option.map_eq_some_iff.mp made
  obtain ⟨requests, rest⟩ := Prod.mk.inj observed
  obtain ⟨replies, opens⟩ := Prod.mk.inj rest
  exact ⟨last, run_of_steps _ _ _ _ _ (fun _ _ _ => trivial) ran, requests, replies, opens⟩

/-- Three commits of one account. -/
theorem accounts_stay_whole_visit :
    ∃ last : System Empty AccountRow Res Failure Request Reply,
      last.history.map (fun commit => commit.reply) = Sample.replies ∧
        Whole last.db ∧ Linked (Commits Sample.provider) ∅ last.history last.db := by
  obtain ⟨last, run, _, replies, _⟩ := visit_run
  exact ⟨last, replies, accounts_stay_whole Sample.provider ∅ last whole_empty run⟩

end TraxOs.Auth
