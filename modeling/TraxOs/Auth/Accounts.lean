import TraxOs.Api.Routes

/-!
# Accounts and sessions

Registration, login, the session check and logout, as transactions over the tables that every
other route authenticates against. The statements reuse the rows of these tables and add the
password credentials.

Two unique indexes get keys of their own, so that an insertion locks its entry: the email of a
user and the identifier of a session. The token hash of a session is its key already. The role
of the application in the database may insert into these tables and update sessions, and may
delete from none of them.
-/

namespace TraxOs.Auth

open TraxOs.Theory TraxOs.Api

/-- `Settings`, as far as sessions depend on them. -/
structure Settings where
  sessionCookieSecure : Bool
  sessionTtlSeconds : Int

/-- What the module takes from elsewhere: the password hasher, Unicode lower case, the salt of
the hash that stands in for a missing one, and the settings. -/
structure Provider extends Platform where
  hash : Text → Text → Text
  verify : Text → Text → Bool
  lower : Text → Text
  dummySalt : Text
  settings : Settings

/-- The keys of all tables and of the two indexes. -/
inductive AccountKey where
  | table (key : Key)
  | credential (userId : Uuid)
  | email (email : Text)
  | sessionId (id : Uuid)
deriving DecidableEq

/-- A credential is a password hash, and an entry of an index refers to its row. -/
@[reducible] def AccountRow : AccountKey → Type
  | .table key => Row key
  | .credential _ => Text
  | .email _ => Uuid
  | .sessionId _ => Text

/-- A committed state of the database, with the credentials. -/
abbrev Accounts := AList AccountRow

/-- A row of the tables without the credentials. -/
def plainEntry : Sigma AccountRow → Option (Sigma Row)
  | ⟨.table key, row⟩ => some ⟨key, row⟩
  | _ => none

theorem plainEntry_eq (entry : Sigma AccountRow) (key : Key) (row : Row key) :
    plainEntry entry = some ⟨key, row⟩ ↔ entry = ⟨.table key, row⟩ := by
  obtain ⟨stored, content⟩ := entry
  constructor
  · intro same
    cases stored with
    | table stored =>
      simp only [plainEntry, Option.some.injEq, Sigma.mk.injEq] at same
      obtain ⟨rfl, same⟩ := same
      rw [eq_of_heq same]
    | _ => cases same
  · intro same
    rw [same]
    rfl

/-- The database as the other routes know it. -/
def plain (db : Accounts) : Database where
  entries := db.entries.filterMap plainEntry
  nodupKeys := by
    rw [List.nodupKeys_iff_pairwise]
    refine List.Pairwise.filterMap plainEntry ?_ (List.nodupKeys_iff_pairwise.mp db.nodupKeys)
    rintro one two apart ⟨key, row⟩ first ⟨other, content⟩ second rfl
    rw [(plainEntry_eq one key row).mp first, (plainEntry_eq two key content).mp second] at apart
    exact apart rfl

@[simp] theorem lookup_plain (db : Accounts) (key : Key) :
    (plain db).lookup key = db.lookup (.table key) := by
  apply Option.ext
  intro row
  rw [← Option.mem_def, ← Option.mem_def, AList.mem_lookup_iff, AList.mem_lookup_iff]
  simp only [plain, List.mem_filterMap, plainEntry_eq]
  exact ⟨fun ⟨entry, member, same⟩ => same ▸ member, fun member => ⟨_, member, rfl⟩⟩

deriving instance DecidableEq for Credentials

/-- `RegisterRequest`. -/
structure RegisterRequest where
  email : Text
  password : Text
  displayName : Text
  passwordLength : 12 ≤ password.length ∧ password.length ≤ 256
  displayNameLength : 1 ≤ displayName.length ∧ displayName.length ≤ 120
deriving DecidableEq

/-- `LoginRequest`. -/
structure LoginRequest where
  email : Text
  password : Text
  passwordLength : 1 ≤ password.length ∧ password.length ≤ 256
deriving DecidableEq

/-- The two readings of the clock and the random values of one request. -/
structure Chance where
  now : Timestamp
  later : Timestamp
  userId : Uuid
  workspaceId : Uuid
  sessionId : Uuid
  salt : Text
  token : Text
  csrf : Text
deriving DecidableEq

/-- The row that a login reads. -/
structure LoginRow where
  id : Uuid
  email : Text
  displayName : Text
  passwordHash : Text
  workspaceId : Uuid
  role : Role

/-- The statements. -/
inductive Op where
  | insertUser (id : Uuid) (row : User)
  | insertCredential (userId : Uuid) (passwordHash : Text)
  | insertWorkspace (id : Uuid) (name : Text) (row : Workspace)
  | insertMembership (workspaceId userId : Uuid) (row : Membership)
  | insertSession (tokenHash : Text) (row : Session)
  | selectLogin (email : Text)
  | findSession (tokenHash : Text) (now : Timestamp)
  | revokeSession (id : Uuid) (now : Timestamp)

/-- The rows that each statement returns. -/
@[reducible] def Res : Op → Type
  | .selectLogin _ => Option LoginRow
  | .findSession _ _ => Option (AuthContext × Text)
  | _ => Unit

/-- What a statement does. -/
abbrev Effect (α : Type) := Outcome Empty AccountRow Failure α

/-- The refusal of a statement by the database. -/
def refused {α : Type} (error : DatabaseError) : Effect α := .failed (.database error)

/-- Lock a row against its removal, as a foreign key does. -/
def keeps (key : Key) : Resource AccountKey Empty × LockMode := (.row (.table key), .keyShare)

/-- The join of `login`: the user with this email, and the user's oldest personal workspace. -/
def selectLogin (db : Accounts) (email : Text) : Option LoginRow := do
  let id ← db.lookup (.email email)
  let user ← db.lookup (AccountKey.table (.user id))
  let passwordHash ← db.lookup (.credential id)
  let (_, workspaceId, role) ← (personalWorkspaces (plain db) id).head?
  some ⟨id, user.email, user.displayName, passwordHash, workspaceId, role⟩

/-- The meaning of every statement on the store it sees. -/
def execute : (op : Op) → Accounts → Effect (Res op)
  | .insertUser id row, db =>
    if ¬ storable 320 row.email ∨ ¬ storable 120 row.displayName then refused .valueRejected
    else if (db.lookup (.table (.user id))).isSome ∨ (db.lookup (.email row.email)).isSome then
      refused .uniqueViolation
    else .ran () [.put (.table (.user id)) row, .put (.email row.email) id] []
  | .insertCredential userId passwordHash, db =>
    if nul ∈ passwordHash then refused .valueRejected
    else if (db.lookup (.credential userId)).isSome then refused .uniqueViolation
    else if (db.lookup (.table (.user userId))).isNone then refused .foreignKeyViolation
    else .ran () [.put (.credential userId) passwordHash] [keeps (.user userId)]
  | .insertWorkspace id name row, db =>
    if ¬ storable 160 name then refused .valueRejected
    else if (db.lookup (.table (.workspace id))).isSome then refused .uniqueViolation
    else .ran () [.put (.table (.workspace id)) row] []
  | .insertMembership workspaceId userId row, db =>
    if (db.lookup (.table (.membership workspaceId userId))).isSome then refused .uniqueViolation
    else if (db.lookup (.table (.workspace workspaceId))).isNone ∨
        (db.lookup (.table (.user userId))).isNone then refused .foreignKeyViolation
    else .ran () [.put (.table (.membership workspaceId userId)) row]
      [keeps (.workspace workspaceId), keeps (.user userId)]
  | .insertSession tokenHash row, db =>
    if ¬ storable 64 tokenHash ∨ ¬ storable 64 row.csrfHash then refused .valueRejected
    else if (db.lookup (.table (.session tokenHash))).isSome ∨
        (db.lookup (.sessionId row.id)).isSome then refused .uniqueViolation
    else if (db.lookup (.table (.user row.userId))).isNone then refused .foreignKeyViolation
    else .ran () [.put (.table (.session tokenHash)) row, .put (.sessionId row.id) tokenHash]
      [keeps (.user row.userId)]
  | .selectLogin email, db => .ran (selectLogin db email) [] []
  | .findSession tokenHash now, db => .ran (Api.findSession (plain db) tokenHash now) [] []
  | .revokeSession id now, db =>
    match db.lookup (.sessionId id) with
    | none => .ran () [] []
    | some tokenHash =>
      match db.lookup (AccountKey.table (.session tokenHash)) with
      | none => .ran () [] []
      | some row =>
        .ran () [.put (.table (.session tokenHash)) { row with revokedAt := some now }] []

/-- A transaction over these statements. -/
abbrev Action (α : Type) := Program Op Res Failure α

/-- A cookie that a response sets. Its path is `/` and it is `lax`. -/
structure Cookie where
  name : String
  value : Text
  httpOnly : Bool
  secure : Bool
  maxAge : Int
deriving DecidableEq

/-- A response before it is encoded. The body of the first two is made from the context. -/
inductive Reply where
  | opened (statusCode : Nat) (context : AuthContext) (cookies : List Cookie)
  | current (context : AuthContext)
  | closed (deleted : List String)
deriving DecidableEq

/-- The requests of the module, with the credentials or the body that each of them brings. -/
inductive Request where
  | register (body : RegisterRequest) (chance : Chance)
  | login (body : LoginRequest) (chance : Chance)
  | session (credentials : Credentials) (chance : Chance)
  | logout (credentials : Credentials) (chance : Chance)
deriving DecidableEq

def sessionCookie : String := "trax_session"

def csrfCookie : String := "trax_csrf"

def invalidCredentials : ApplicationError :=
  ⟨401, "invalid_credentials", "Email or password is incorrect."⟩

def emailAlreadyRegistered : ApplicationError :=
  ⟨409, "email_already_registered", "An account already exists."⟩

section Routes

variable (provider : Provider) (chance : Chance)

/-- The spelling of an email under which an account is kept. -/
def normalized (email : Text) : Text := provider.lower (strip email)

/-- When a session that is opened at `now` expires. -/
def expiry (now : Timestamp) : Timestamp :=
  (now + provider.settings.sessionTtlSeconds * 1000000 : Int).toNat

/-- The session that `_issue_session` stores. -/
def issuedSession (userId : Uuid) (now : Timestamp) : Session where
  id := chance.sessionId
  userId := userId
  csrfHash := provider.sha256 chance.csrf
  expiresAt := expiry provider now
  revokedAt := none

/-- The cookies that `_issue_session` sets. -/
def issuedCookies : List Cookie :=
  let cookie name value httpOnly : Cookie :=
    ⟨name, value, httpOnly, provider.settings.sessionCookieSecure, provider.settings.sessionTtlSeconds⟩
  [cookie sessionCookie chance.token true, cookie csrfCookie chance.csrf false]

/-- `_issue_session`. -/
def issueSession (userId : Uuid) (now : Timestamp) : Action (List Cookie) := do
  Program.ask (Op.insertSession (provider.sha256 chance.token)
    (issuedSession provider chance userId now))
  pure (issuedCookies provider chance)

/-- The user that a registration stores. -/
def registeredUser (body : RegisterRequest) : User where
  email := normalized provider body.email
  displayName := strip body.displayName

/-- The context of a registration. -/
def registeredContext (body : RegisterRequest) : AuthContext where
  userId := chance.userId
  workspaceId := chance.workspaceId
  sessionId := chance.sessionId
  email := normalized provider body.email
  displayName := strip body.displayName
  role := .owner

/-- `register`. -/
def register (body : RegisterRequest) : Action Reply := do
  let now := chance.now
  Program.ask (Op.insertUser chance.userId (registeredUser provider body))
  Program.ask (Op.insertCredential chance.userId (provider.hash body.password chance.salt))
  Program.ask (Op.insertWorkspace chance.workspaceId
    (strip body.displayName ++ "'s workspace".toList) ⟨.personal, now⟩)
  Program.ask (Op.insertMembership chance.workspaceId chance.userId ⟨.owner⟩)
  let cookies ← issueSession provider chance chance.userId now
  pure (.opened 201 (registeredContext provider chance body) cookies)

/-- The hash that is verified when there is no account. -/
def dummyPasswordHash : Text :=
  provider.hash "trax-invalid-credential-timing-value".toList provider.dummySalt

/-- `login`. -/
def login (body : LoginRequest) : Action Reply := do
  let row ← Program.ask (Op.selectLogin (normalized provider body.email))
  let encoded := (row.map LoginRow.passwordHash).getD (dummyPasswordHash provider)
  let passwordValid := provider.verify encoded body.password
  match row, passwordValid with
  | some row, true =>
    let cookies ← issueSession provider chance row.id chance.now
    pure (.opened 200
      ⟨row.id, row.workspaceId, chance.sessionId, row.email, row.displayName, row.role⟩ cookies)
  | _, _ => .fail (.application invalidCredentials)

/-- `authenticate`, with the CSRF hash that it leaves on the request. -/
def authenticate (credentials : Credentials) : Action (AuthContext × Text) := do
  if credentials.token.isEmpty then .fail (.application authenticationRequired)
  else
    match ← Program.ask (Op.findSession (provider.sha256 credentials.token) chance.now) with
    | none => .fail (.application authenticationRequired)
    | some session => pure session

/-- `require_csrf`. -/
def requireCsrf (credentials : Credentials) (csrfHash : Text) : Action Unit :=
  if credentials.csrfCookie.isEmpty || credentials.csrfHeader.isEmpty ||
      credentials.csrfCookie ≠ credentials.csrfHeader ||
        provider.sha256 credentials.csrfHeader ≠ csrfHash then .fail (.application csrfFailed)
  else pure ()

/-- `logout`. -/
def logout (credentials : Credentials) : Action Reply := do
  let (context, csrfHash) ← authenticate provider chance credentials
  requireCsrf provider credentials csrfHash
  Program.ask (Op.revokeSession context.sessionId chance.later)
  pure (.closed [sessionCookie, csrfCookie])

end Routes

/-- The transaction of each request. -/
def program (provider : Provider) : Request → Action Reply
  | .register body chance => register provider chance body
  | .login body chance => login provider chance body
  | .session credentials chance => do
    let (context, _) ← authenticate provider chance credentials
    pure (.current context)
  | .logout credentials chance => logout provider chance credentials

/-- What the client is told about a failure. A registration takes every violated uniqueness or
reference for an account that exists. -/
def failureResponse : Request → Failure → ApplicationError
  | .register _ _, .database .uniqueViolation => emailAlreadyRegistered
  | .register _ _, .database .foreignKeyViolation => emailAlreadyRegistered
  | _, failure => failure.response

/-- The accounts, as a service. -/
def accounts (provider : Provider) :
    Service Empty AccountRow Res Failure Request Reply where
  execute := execute
  program := program provider
  current _ _ _ _ := true

/-! ## Two people and one email

The hashes and digests of the texts that are used below are the real ones. -/

namespace Sample

/-- The password of the first registration. -/
def password : Text := "correct horse battery".toList

/-- Its hash under the salt of sixteen bytes `saltsaltsaltsalt`. -/
def passwordHash : Text :=
  ("$argon2id$v=19$m=65536,t=3,p=4$c2FsdHNhbHRzYWx0c2FsdA$" ++
    "sZAsNK5gGhQ9XCl86YZ48p29sjS3kOLiDzh53ydZrNE").toList

/-- The hash of the text that stands in for a password, under the salt `pepperpepper1234`. -/
def dummyHash : Text :=
  ("$argon2id$v=19$m=65536,t=3,p=4$cGVwcGVycGVwcGVyMTIzNA$" ++
    "RIBMGT8An7H70F4FjicdiGnyp8X6DSviycWnJ5qxhNE").toList

/-- The platform, as far as the requests below use it. -/
def provider : Provider where
  sha256 text :=
    if text = ['t'] then
      "e3b98a4da31a127d4bde6e43033f66ba274cab0eb7eb1c70ec41402bf6273dd8".toList
    else if text = ['c'] then
      "2e7d2c03a9507ae265ecf5b5356885a53393a2029d241394997265a1a25aefc6".toList
    else if text = ['u'] then
      "0bfe935e70c321c7ca3afc75ce0d0ca2f98b5422e008bb31c00c6d7f1f1c0ad6".toList
    else "18ac3e7343f016890c510e93f935261169d9e3f565436429830faf0934f4f8e4".toList
  collate left right := decide (left ≤ right)
  hash _ salt := if salt = "pepperpepper1234".toList then dummyHash else passwordHash
  verify encoded tried := decide (encoded = passwordHash ∧ tried = password)
  lower text := text.map Char.toLower
  dummySalt := "pepperpepper1234".toList
  settings := { sessionCookieSecure := false, sessionTtlSeconds := 60 * 60 * 24 * 30 }

/-- What nobody sees of the login. -/
def signInChance : Chance := ⟨20, 21, 7, 8, 9, [], ['u'], ['d']⟩

/-- What the login sends. -/
def signInBody : LoginRequest := ⟨"Ann@Example.org".toList, password, by decide⟩

/-- Two registrations with the same email, spelt differently. -/
def registration : Request :=
  .register ⟨"ann@example.org".toList, password, "Ann".toList, by decide, by decide⟩
    ⟨10, 11, 1, 2, 3, "saltsaltsaltsalt".toList, ['t'], ['c']⟩

def rival : Request :=
  .register ⟨" ANN@example.org".toList, password, "Anna".toList, by decide, by decide⟩
    ⟨12, 13, 4, 5, 6, "saltsaltsaltsalt".toList, ['u'], ['d']⟩

/-- A login to the account that was made first. -/
def signIn : Request := .login signInBody signInChance

/-- The context that the registration answers. -/
def owner : AuthContext := ⟨1, 2, 3, "ann@example.org".toList, "Ann".toList, .owner⟩

/-- The context that the login answers. -/
def signedIn : AuthContext := { owner with sessionId := 9 }

/-- The logout. -/
def signOut : Request :=
  .logout ⟨['u'], ['d'], ['d']⟩ ⟨30, 31, 0, 0, 0, [], [], []⟩

/-- The rival comes when the email is taken and is refused. The first signs in and out. -/
def visit : List (Event Request) :=
  [.arrive registration, .arrive rival] ++ List.replicate 6 (.advance 0) ++ [.advance 1] ++
    [.arrive signIn] ++ List.replicate 3 (.advance 2) ++
      [.arrive signOut] ++ List.replicate 3 (.advance 3)

/-- The replies to the three that commit. -/
def replies : List Reply :=
  [.opened 201 owner (issuedCookies provider ⟨10, 11, 1, 2, 3, [], ['t'], ['c']⟩),
    .opened 200 signedIn (issuedCookies provider signInChance),
    .closed [sessionCookie, csrfCookie]]

end Sample

end TraxOs.Auth
