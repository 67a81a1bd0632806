import TraxOs.Auth.AccountRuns

/-!
# Sessions

A token opens a session from the commit that issued it until it expires or is logged out, for
the account of that commit and for no other. Behind every login there is the registration of
its email, whose password it has verified.
-/

namespace TraxOs.Auth

open TraxOs.Theory TraxOs.Api

/-- A commit of the accounts. -/
abbrev AccountCommit := Commit AccountRow Request Reply

/-- The random values of a request that opens a session. -/
def Request.opens : Request → Option Chance
  | .register _ chance => some chance
  | .login _ chance => some chance
  | _ => none

section Steps

variable (provider : Provider)

/-- The commit opens this session. -/
def Issues (commit : AccountCommit) (tokenHash : Text) (context : AuthContext)
    (session : Session) : Prop :=
  ∃ chance statusCode cookies, commit.request.opens = some chance ∧
    commit.reply = .opened statusCode context cookies ∧
      provider.sha256 chance.token = tokenHash ∧
        session = issuedSession provider chance context.userId chance.now

/-- The commit logs the session with this token out. -/
def Revokes (commit : AccountCommit) (tokenHash : Text) : Prop :=
  ∃ credentials chance, commit.request = .logout credentials chance ∧
    provider.sha256 credentials.token = tokenHash

/-- The session is there and not revoked. -/
def Standing (db : Accounts) (tokenHash : Text) (context : AuthContext) (session : Session) :
    Prop :=
  Opened db tokenHash context session ∧ session.revokedAt = none

variable {provider} {db before after : Accounts}

/-- The user and the session determine a context. -/
theorem account_unique (whole : Whole db) (context other : AuthContext)
    (first : Account db context) (second : Account db other) (user : context.userId = other.userId)
    (session : context.sessionId = other.sessionId) : context = other := by
  obtain ⟨userId, workspaceId, sessionId, email, displayName, role⟩ := context
  obtain ⟨_, otherWorkspace, _, _, _, _⟩ := other
  simp only at user session
  subst user session
  obtain rfl : workspaceId = otherWorkspace := whole.single _ _ first second rfl
  have named := first.user.symm.trans second.user
  have owned := first.membership.symm.trans second.membership
  simp only [Option.some.injEq, User.mk.injEq, Membership.mk.injEq] at named owned
  obtain ⟨rfl, rfl⟩ := named
  rw [owned]

/-- After a commit that opens a session, the sessions that stand are those that did and the new
one. -/
theorem standing_opened {rows : List (Sigma AccountRow)} {chance : Chance} {opened : AuthContext}
    (whole : Whole after) (adds : Adds rows before after) (distinct : rows.NodupKeys)
    (account : Account after opened) (identified : opened.sessionId = chance.sessionId)
    (issued : ∀ tokenHash (session : Session), ⟨.table (.session tokenHash), session⟩ ∈ rows ↔
      provider.sha256 chance.token = tokenHash ∧
        session = issuedSession provider chance opened.userId chance.now)
    (earlier : ∀ tokenHash (session : Session) context,
      before.lookup (.table (.session tokenHash)) = some session →
        session.userId = context.userId → Account after context → Account before context)
    (tokenHash : Text) (context : AuthContext) (session : Session) :
    Standing after tokenHash context session ↔
      (context = opened ∧ provider.sha256 chance.token = tokenHash ∧
        session = issuedSession provider chance opened.userId chance.now) ∨
      Standing before tokenHash context session := by
  have found_iff := adds.lookup_iff distinct (.table (.session tokenHash)) session
  constructor
  · rintro ⟨⟨found, named, owner, theirs⟩, standing⟩
    rcases found_iff.mp found with old | new
    · exact Or.inr ⟨⟨old, named, owner, earlier tokenHash session context old owner theirs⟩, standing⟩
    · obtain ⟨hash, rfl⟩ := (issued tokenHash session).mp new
      have same := account_unique whole context opened theirs account owner.symm
        (named.symm.trans identified.symm)
      exact Or.inl ⟨same, hash, rfl⟩
  · rintro (⟨rfl, hash, rfl⟩ | ⟨⟨found, named, owner, theirs⟩, standing⟩)
    · refine ⟨⟨found_iff.mpr (Or.inr ((issued _ _).mpr ⟨hash, rfl⟩)), identified.symm, rfl, account⟩, rfl⟩
    · exact ⟨⟨found_iff.mpr (Or.inl found), named, owner, theirs.grows (adds.grows distinct)⟩, standing⟩

/-- A registration makes the account that it answers. -/
theorem registered_account (body : RegisterRequest) (chance : Chance)
    (adds : Adds (registration provider chance body) before after) :
    Account after (registeredContext provider chance body) := by
  have found_iff := adds.lookup_iff (registration_distinct body)
  refine ⟨(found_iff _ _).mpr (Or.inr ?_), (found_iff _ _).mpr (Or.inr ?_), chance.now,
    (found_iff _ _).mpr (Or.inr ?_)⟩
  · simp [registration, enrolment, registeredContext, registeredUser]
  · simp [registration, enrolment, registeredContext]
  · simp [registration, enrolment, registeredContext]

/-- An account was there before a session was opened for one. -/
theorem account_before_opening (chance : Chance) (userId : Uuid) (context : AuthContext)
    (adds : Adds (opening provider chance userId) before after) (account : Account after context) :
    Account before context := by
  obtain ⟨user, membership, createdAt, workspace⟩ := account
  rw [opening_elsewhere adds _ rfl (by simp)] at user membership workspace
  exact ⟨user, membership, createdAt, workspace⟩

/-- A revocation leaves the other sessions standing. -/
theorem standing_revoked (closed : Text) (stored : Session) (now : Timestamp)
    (found : before.lookup (.table (.session closed)) = some stored) (tokenHash : Text)
    (context : AuthContext) (session : Session) :
    Standing (revoked before closed stored now) tokenHash context session ↔
      Standing before tokenHash context session ∧ closed ≠ tokenHash := by
  have accounts : Account (revoked before closed stored now) context ↔ Account before context := by
    constructor
    · rintro ⟨user, membership, createdAt, workspace⟩
      rw [revoked_elsewhere _ _ _ _ _ (by simp)] at user membership workspace
      exact ⟨user, membership, createdAt, workspace⟩
    · exact fun account => account.grows (revocation_grows closed stored now found)
  simp only [Standing, Opened, accounts]
  by_cases same : closed = tokenHash
  · subst same
    constructor
    · rintro ⟨⟨there, _⟩, standing⟩
      rw [lookup_revoked, Option.some.injEq] at there
      rw [← there] at standing
      cases standing
    · exact fun both => absurd rfl both.2
  · rw [revoked_elsewhere _ _ _ _ _ fun clash =>
      same (Key.session.inj (AccountKey.table.inj clash)).symm]
    exact ⟨fun standing => ⟨standing, same⟩, fun both => both.1⟩

/-- A request that opens a session issues the one that it answers, and revokes none. -/
theorem issues_opened {request : Request} {chance : Chance} (opens : request.opens = some chance)
    (statusCode : Nat) (opened : AuthContext) (cookies : List Cookie) (tokenHash : Text)
    (context : AuthContext) (session : Session) (standing : Prop) :
    Issues provider ⟨request, .opened statusCode opened cookies, before, after⟩ tokenHash context
        session ∨ (standing ∧ ¬ Revokes provider
          ⟨request, .opened statusCode opened cookies, before, after⟩ tokenHash) ↔
      (context = opened ∧ provider.sha256 chance.token = tokenHash ∧
        session = issuedSession provider chance opened.userId chance.now) ∨ standing := by
  have keeps : ¬ Revokes provider ⟨request, .opened statusCode opened cookies, before, after⟩
      tokenHash := by
    rintro ⟨credentials, other, rfl, _⟩
    cases opens
  have issues : Issues provider ⟨request, .opened statusCode opened cookies, before, after⟩
      tokenHash context session ↔ context = opened ∧ provider.sha256 chance.token = tokenHash ∧
        session = issuedSession provider chance opened.userId chance.now := by
    constructor
    · rintro ⟨other, _, _, same, answered, hash, rfl⟩
      cases opens.symm.trans same
      cases answered
      exact ⟨rfl, hash, rfl⟩
    · rintro ⟨rfl, hash, rfl⟩
      exact ⟨chance, statusCode, cookies, opens, rfl, hash, rfl⟩
  rw [issues, and_iff_left keeps]

/-- What stands after a commit was opened by it, or stood and was not revoked by it. -/
theorem standing_commit (commit : AccountCommit) (whole : Whole commit.before)
    (kept : Whole commit.after)
    (commits : Commits provider commit.request commit.reply commit.before commit.after)
    (tokenHash : Text) (context : AuthContext) (session : Session) :
    Standing commit.after tokenHash context session ↔
      Issues provider commit tokenHash context session ∨
        (Standing commit.before tokenHash context session ∧
          ¬ Revokes provider commit tokenHash) := by
  obtain ⟨request, reply, before, after⟩ := commit
  simp only at whole kept commits ⊢
  cases request with
  | register body chance =>
    cases reply with
    | opened statusCode opened cookies =>
      obtain ⟨rfl, adds⟩ := commits
      rw [issues_opened rfl]
      apply standing_opened kept adds (registration_distinct body)
        (registered_account body chance adds) rfl
      · intro hash stored
        simp [registration, enrolment, opening, registeredContext, eq_comm]
      · intro hash stored theirs found owner account
        refine ((account_earlier body whole adds theirs account).resolve_right ?_).1
        rintro ⟨mine, _⟩
        obtain ⟨_, user, there⟩ := whole.sessions hash stored found
        rw [owner, mine, registered_unused body adds] at there
        cases there
    | _ => exact commits.elim
  | login body chance =>
    cases reply with
    | opened statusCode opened cookies =>
      obtain ⟨_, identified, account, _, adds⟩ := commits
      rw [issues_opened rfl]
      apply standing_opened kept adds (opening_distinct _)
        (account.grows (adds.grows (opening_distinct _))) identified
      · intro hash stored
        simp [opening, eq_comm]
      · exact fun _ _ theirs _ _ => account_before_opening chance _ theirs adds
    | _ => exact commits.elim
  | session credentials chance =>
    cases reply with
    | current checked =>
      obtain ⟨_, rfl⟩ := commits
      constructor
      · intro standing
        refine Or.inr ⟨standing, ?_⟩
        rintro ⟨_, _, other, _⟩
        cases other
      · rintro (⟨_, _, _, other, _⟩ | ⟨standing, _⟩)
        · cases other
        · exact standing
    | _ => exact commits.elim
  | logout credentials chance =>
    cases reply with
    | closed deleted =>
      obtain ⟨checked, stored, ⟨found, _⟩, _, rfl⟩ := commits
      rw [standing_revoked _ stored _ found]
      constructor
      · rintro ⟨standing, different⟩
        refine Or.inr ⟨standing, ?_⟩
        rintro ⟨_, _, same, hash⟩
        cases same
        exact different hash
      · rintro (⟨_, _, _, other, _⟩ | ⟨standing, keeps⟩)
        · cases other
        · exact ⟨standing, fun same => keeps ⟨credentials, chance, rfl, same⟩⟩
    | _ => exact commits.elim

/-- The history has opened this session and not logged it out since. -/
def Vouched (provider : Provider) (history : List AccountCommit) (tokenHash : Text)
    (context : AuthContext) (session : Session) : Prop :=
  ∃ earlier commit later, history = earlier ++ commit :: later ∧
    Issues provider commit tokenHash context session ∧
      ∀ revoker ∈ later, ¬ Revokes provider revoker tokenHash

theorem vouched_snoc (history : List AccountCommit) (latest : AccountCommit) (tokenHash : Text)
    (context : AuthContext) (session : Session) :
    Vouched provider (history ++ [latest]) tokenHash context session ↔
      Issues provider latest tokenHash context session ∨
        (Vouched provider history tokenHash context session ∧
          ¬ Revokes provider latest tokenHash) := by
  constructor
  · rintro ⟨earlier, commit, later, split, issues, unrevoked⟩
    rcases List.eq_nil_or_concat later with rfl | ⟨middle, final, rfl⟩
    · obtain ⟨_, same⟩ := List.append_inj' split rfl
      rw [← List.singleton_injective same] at issues
      exact Or.inl issues
    · rw [List.concat_eq_append, ← List.cons_append, ← List.append_assoc] at split
      obtain ⟨rfl, same⟩ := List.append_inj' split rfl
      obtain rfl := List.singleton_injective same
      refine Or.inr ⟨⟨earlier, commit, middle, rfl, issues, ?_⟩, ?_⟩
      · exact fun revoker member => unrevoked revoker (by simp [member])
      · exact unrevoked _ (by simp)
  · rintro (issues | ⟨⟨earlier, commit, later, rfl, issues, unrevoked⟩, keeps⟩)
    · exact ⟨history, latest, [], rfl, issues, by simp⟩
    · refine ⟨earlier, commit, later ++ [latest], by simp, issues, ?_⟩
      intro revoker member
      rcases List.mem_append.mp member with early | last
      · exact unrevoked revoker early
      · rw [List.mem_singleton.mp last]
        exact keeps

/-- The sessions that stand after a history. -/
theorem standing_linked {first last : Accounts} {history : List AccountCommit}
    (linked : Linked (accountContract provider).Admits first history last) (tokenHash : Text)
    (context : AuthContext) (session : Session) :
    Standing last tokenHash context session ↔
      Vouched provider history tokenHash context session ∨
        (Standing first tokenHash context session ∧
          ∀ revoker ∈ history, ¬ Revokes provider revoker tokenHash) := by
  induction linked with
  | nil => simp [Vouched]
  | snoc history commit earlier related inductionHypothesis =>
    obtain ⟨_, whole, kept, commits⟩ := related
    rw [standing_commit commit whole kept commits, vouched_snoc, inductionHypothesis]
    simp only [List.mem_append, List.mem_singleton, or_imp, forall_and, forall_eq]
    tauto

end Steps

/-- In every interleaving, a token opens a session for an account exactly when a committed
registration or login of that account has issued it, it has not expired, and no logout with it
has been committed since. What stood at first goes on until it expires or is logged out. -/
theorem session_opens_iff (provider : Provider) (db : Accounts)
    (last : System Empty AccountRow Res Failure Request Reply) (whole : Whole db)
    (run : Run (accounts provider) (fun _ _ => True) (System.initial db) last)
    (tokenHash csrfHash : Text) (now : Timestamp) (context : AuthContext) :
    findSession (plain last.db) tokenHash now = some (context, csrfHash) ↔
      ∃ session : Session, session.csrfHash = csrfHash ∧ now < session.expiresAt ∧
        (Vouched provider last.history tokenHash context session ∨
          (Standing db tokenHash context session ∧
            ∀ revoker ∈ last.history, ¬ Revokes provider revoker tokenHash)) := by
  have sound := run_admitted provider db last whole run
  rw [findSession_iff sound.invariant]
  apply exists_congr
  intro session
  rw [← standing_linked sound.linked, Standing]
  tauto

/-- The session of the registration stands, and its commit vouches for it. -/
theorem session_opens_iff_visit :
    ∃ (history : List AccountCommit) (session : Session), 50 < session.expiresAt ∧
      Vouched Sample.provider history (Sample.provider.sha256 ['t']) Sample.owner session := by
  obtain ⟨last, run, _, _, opens⟩ := visit_run
  obtain ⟨session, _, live, vouched | ⟨⟨⟨found, _⟩, _⟩, _⟩⟩ :=
    (session_opens_iff Sample.provider ∅ last whole_empty run _ _ _ _).mp opens
  · exact ⟨last.history, session, live, vouched⟩
  · simp at found

section Registrations

variable {provider : Provider} {first last : Accounts} {history : List AccountCommit}

/-- The request registers this user under this password hash. -/
def Registers (provider : Provider) (request : Request) (id : Uuid) (user : User)
    (passwordHash : Text) : Prop :=
  ∃ body chance, request = .register body chance ∧ chance.userId = id ∧
    registeredUser provider body = user ∧ provider.hash body.password chance.salt = passwordHash

/-- The user was there with this credential, or a commit has registered it. -/
def Known (provider : Provider) (first : Accounts) (history : List AccountCommit) (id : Uuid)
    (user : User) (passwordHash : Text) : Prop :=
  (first.lookup (.table (.user id)) = some user ∧
      first.lookup (.credential id) = some passwordHash) ∨
    ∃ commit ∈ history, Registers provider commit.request id user passwordHash

/-- A commit that is no registration leaves users and credentials alone. -/
theorem identities_kept (commit : AccountCommit)
    (commits : Commits provider commit.request commit.reply commit.before commit.after)
    (other : ∀ body chance, commit.request ≠ .register body chance) (key : AccountKey)
    (plain : key.isSession = false) (indexless : ∀ id, key ≠ .sessionId id) :
    commit.after.lookup key = commit.before.lookup key := by
  obtain ⟨request, reply, before, after⟩ := commit
  simp only at commits other ⊢
  unfold Commits at commits
  split at commits
  · exact absurd rfl (other _ _)
  · exact opening_elsewhere commits.2.2.2.2 key plain indexless
  · rw [commits.2]
  · obtain ⟨context, session, _, _, rfl⟩ := commits
    apply revoked_elsewhere
    rintro rfl
    cases plain
  · exact commits.elim

/-- Every credential was made by the registration of its user. -/
theorem credentials_known (linked : Linked (accountContract provider).Admits first history last)
    (id : Uuid) (user : User) (passwordHash : Text)
    (found : last.lookup (.table (.user id)) = some user)
    (credential : last.lookup (.credential id) = some passwordHash) :
    Known provider first history id user passwordHash := by
  induction linked with
  | nil => exact Or.inl ⟨found, credential⟩
  | snoc history commit earlier related inductionHypothesis =>
    obtain ⟨_, whole, kept, commits⟩ := related
    have grown : Known provider first history id user passwordHash →
        Known provider first (history ++ [commit]) id user passwordHash := by
      rintro (there | ⟨registered, member, registers⟩)
      · exact Or.inl there
      · exact Or.inr ⟨registered, List.mem_append_left _ member, registers⟩
    by_cases registers : ∃ body chance, commit.request = .register body chance
    · obtain ⟨body, chance, request⟩ := registers
      rw [request] at commits
      cases reply : commit.reply with
      | opened statusCode opened cookies =>
        rw [reply] at commits
        obtain ⟨_, adds⟩ := commits
        have found_iff := adds.lookup_iff (registration_distinct body)
        rcases (found_iff _ _).mp found with old | new
        · rcases (found_iff _ _).mp credential with older | newer
          · exact grown (inductionHypothesis old older)
          · have own : id = chance.userId := by
              simp [registration, enrolment, opening] at newer
              exact newer.1
            rw [own, registered_unused body adds] at old
            cases old
        · obtain ⟨rfl, rfl⟩ : id = chance.userId ∧ user = registeredUser provider body := by
            simpa [registration, enrolment, opening] using new
          have made := (found_iff (.credential chance.userId)
            (provider.hash body.password chance.salt)).mpr
              (Or.inr (by simp [registration, enrolment]))
          exact Or.inr ⟨commit, by simp, body, chance, request, rfl, rfl,
            Option.some.inj (made.symm.trans credential)⟩
      | _ =>
        rw [reply] at commits
        exact commits.elim
    · have same := identities_kept commit commits fun body chance is => registers ⟨body, chance, is⟩
      rw [same _ rfl (by simp)] at found credential
      exact grown (inductionHypothesis found credential)

end Registrations

/-- Behind every login that is committed there is the account of its email. Its password
verifies against the credential that the account had at first, or against the one that the
committed registration of the same email has made. -/
theorem login_knows_password (provider : Provider) (db : Accounts)
    (last : System Empty AccountRow Res Failure Request Reply) (whole : Whole db)
    (run : Run (accounts provider) (fun _ _ => True) (System.initial db) last)
    (earlier later : List AccountCommit) (commit : AccountCommit) (body : LoginRequest)
    (chance : Chance) (statusCode : Nat) (context : AuthContext) (cookies : List Cookie)
    (split : last.history = earlier ++ commit :: later)
    (request : commit.request = .login body chance)
    (reply : commit.reply = .opened statusCode context cookies) :
    ∃ user passwordHash, user.email = normalized provider body.email ∧
      Known provider db earlier context.userId user passwordHash ∧
        provider.verify passwordHash body.password = true := by
  have sound := run_admitted provider db last whole run
  obtain ⟨front, admitted, _⟩ := (split ▸ sound.linked).parts
  obtain ⟨_, _, _, commits⟩ := admitted
  rw [request, reply] at commits
  obtain ⟨email, _, account, ⟨passwordHash, credential, verified⟩, _⟩ := commits
  exact ⟨_, passwordHash, email, credentials_known front _ _ _ account.user credential, verified⟩

/-- The login has verified the password of the registration. -/
theorem login_knows_password_visit :
    ∃ (earlier : List AccountCommit) (user : User) (passwordHash : Text),
      Known Sample.provider ∅ earlier Sample.signedIn.userId user passwordHash ∧
        Sample.provider.verify passwordHash Sample.signInBody.password = true := by
  obtain ⟨last, run, requests, replies, _⟩ := visit_run
  obtain ⟨first, second, third, history⟩ : ∃ first second third,
      last.history = [first, second, third] := by
    have length : last.history.length = 3 := by simpa using congrArg List.length requests
    exact List.length_eq_three.mp length
  rw [history] at requests replies
  simp only [List.map_cons, List.map_nil, List.cons.injEq, Sample.replies] at requests replies
  obtain ⟨user, passwordHash, _, known, verified⟩ := login_knows_password Sample.provider ∅ last
    whole_empty run [first] [third] second _ _ _ _ _ history requests.2.1 replies.2.1
  exact ⟨[first], user, passwordHash, known, verified⟩

end TraxOs.Auth
