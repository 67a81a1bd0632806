import TraxOs.PowerSync.Histories

/-!
# Rotation of replica credentials

A replica is identified by its epoch and its credential. A reset that is accepted
raises the epoch by one and derives the next credential from the reset request, so
that its duplicates lead to the same session until the reset is acknowledged or
another reset follows.

Every commit turns the row of one replica in one of a few ways. The row always
holds the digest of a credential that arose at its epoch, and no credential arises
at two epochs. From there the protocol is an induction over the history: what a
reset staged stays staged until a commit closes it, and is over afterwards.
-/

namespace TraxOs.PowerSync

open TraxOs.Theory

/-- Neither hash collides. -/
structure Platform.CollisionFree (platform : Platform) : Prop where
  sha256 : ∀ one two, platform.sha256 one = platform.sha256 two → one = two
  hmac : ∀ one two, platform.hmac one = platform.hmac two → one = two

/-- A credential of random bytes, which no reset ever derives. -/
def Platform.Drawn (platform : Platform) (credential : Text) : Prop :=
  ∀ replicaId resetRequestId epoch,
    credential ≠ rotatedCredential platform replicaId resetRequestId epoch

/-- What a registration draws is such a credential. -/
def Request.Draws (platform : Platform) : Request → Prop
  | .register _ _ credential => platform.Drawn credential
  | _ => True

/-- Any request may arrive at any time; a registration has drawn its credential. -/
def DrawsCredentials (platform : Platform) (_ : System Name Row Res Failure Request Reply) :
    Event Request → Prop
  | .arrive request => request.Draws platform
  | _ => True

/-- A request for a reset. -/
structure ResetCall where
  userId : Uuid
  binding : ReplicaBinding
  credential : Text
  resetRequestId : Text

namespace ResetCall

/-- Its request. -/
def request (call : ResetCall) : Request :=
  .reset call.userId call.binding call.credential call.resetRequestId

/-- The session that it leads to. -/
def session (platform : Platform) (call : ResetCall) : ReplicaSession :=
  nextSession platform call.binding call.resetRequestId

end ResetCall

/-- The credential that a request presents, unless it asks for a reset. -/
def Request.presented : Request → Option (Uuid × ReplicaBinding × Text)
  | .rateWindow userId binding credential => some (userId, binding, credential)
  | .command userId binding credential _ _ _ => some (userId, binding, credential)
  | .challenge userId binding credential _ => some (userId, binding, credential)
  | .acknowledge userId binding credential _ => some (userId, binding, credential)
  | .acknowledgeReset userId binding credential _ => some (userId, binding, credential)
  | .classify userId binding credential _ _ => some (userId, binding, credential)
  | _ => none

/-- An accepted reset acknowledgement of a replica. -/
def Settles (replicaId : Uuid) (request : Request) (reply : Reply) : Prop :=
  reply = .resetAcknowledged ∧ ∃ userId binding credential resetRequestId,
    request = .acknowledgeReset userId binding credential resetRequestId ∧
      binding.replicaId = replicaId

/-- What ends the time in which a reset is staged: its acknowledgement, or a reset that
leads to another session. -/
def Closes (session : ReplicaSession) (request : Request) (reply : Reply) : Prop :=
  Settles session.replicaId request reply ∨
    ∃ other, reply = .reset other ∧ other.replicaId = session.replicaId ∧ other ≠ session

/-- A reset is accepted with the current epoch and credential. -/
def Raises (platform : Platform) (call : ResetCall) (request : Request) (reply : Reply)
    (before : Database) : Prop :=
  request = call.request ∧ reply = .reset (call.session platform) ∧
    ∃ row, Presents platform before call.userId call.binding call.credential row

/-- How a commit turns the row of a replica. -/
inductive Turns (platform : Platform) (id : Uuid) : Request → Reply → Option Replica →
    Option Replica → Prop where
  | kept (request : Request) (reply : Reply) (row : Option Replica)
      (unsettled : ¬ Settles id request reply)
      (elsewhere : ∀ session, reply = .reset session → session.replicaId ≠ id) :
      Turns platform id request reply row row
  | registered (userId : Uuid) (credential : Text) (now : Timestamp) :
      Turns platform id (.register userId id credential) (.registered ⟨id, 1, credential⟩) none
        (some (registeredReplica userId (platform.sha256 credential) now))
  | acknowledged (userId : Uuid) (binding : ReplicaBinding) (credential challengeId : Text)
      (row : Replica) (now : Timestamp) (sequence : Nat) :
      Turns platform id (.acknowledge userId binding credential challengeId) .acknowledged (some row)
        (some (row.acknowledged now sequence))
  | disabled (row : Replica) (now : Timestamp) :
      Turns platform id (.disable id) .done (some row) (some (row.disabled now))
  | rotated (call : ResetCall) (row : Replica) (now : Timestamp)
      (positive : 0 < call.binding.replicaEpoch + 1) (here : call.binding.replicaId = id)
      (valid : isVersion4Uuid call.resetRequestId = true)
      (accepts : row.accepts platform call.userId call.binding call.credential) :
      Turns platform id call.request (.reset (call.session platform)) (some row)
        (some (row.rotated now (call.binding.replicaEpoch + 1)
          (platform.sha256 (call.session platform).credential) call.resetRequestId positive))
  | repeated (call : ResetCall) (row : Replica) (here : call.binding.replicaId = id)
      (repeats : row.repeatsReset platform call.binding call.credential call.resetRequestId = true) :
      Turns platform id call.request (.reset (call.session platform)) (some row) (some row)
  | settled (userId : Uuid) (binding : ReplicaBinding) (credential resetRequestId : Text)
      (row : Replica) (here : binding.replicaId = id)
      (staged : row.stagedResetRequestId = some resetRequestId) :
      Turns platform id (.acknowledgeReset userId binding credential resetRequestId)
        .resetAcknowledged (some row) (some (row.settled resetRequestId))
  | settledBefore (userId : Uuid) (binding : ReplicaBinding) (credential resetRequestId : Text)
      (row : Replica) (here : binding.replicaId = id)
      (unstaged : row.previousCredentialDigest = none) :
      Turns platform id (.acknowledgeReset userId binding credential resetRequestId)
        .resetAcknowledged (some row) (some row)

section Commits

variable {platform : Platform}

/-- A commit that spares the replica and neither resets nor settles one. -/
theorem turns_spared (id : Uuid) (request : Request) (reply : Reply) (before after : Database)
    (same : after.lookup (Key.replica id) = before.lookup (Key.replica id))
    (unsettled : reply ≠ .resetAcknowledged) (unset : ∀ session, reply ≠ .reset session) :
    Turns platform id request reply (before.lookup (Key.replica id))
      (after.lookup (Key.replica id)) := by
  rw [same]
  apply Turns.kept
  · exact fun settles => unsettled settles.1
  · exact fun session told => absurd told (unset session)

/-- Every commit turns the row of every replica. -/
theorem commit_turns (id : Uuid) (request : Request) (reply : Reply) (before after : Database)
    (committed : Committed platform request reply before after) :
    Turns platform id request reply (before.lookup (Key.replica id))
      (after.lookup (Key.replica id)) := by
  cases committed with
  | quiet request reply db negative =>
    apply turns_spared id _ _ _ _ rfl
    · rintro rfl
      cases negative
    · rintro session rfl
      cases negative
  | counted _ _ _ _ _ _ _ spares =>
    exact turns_spared id _ _ _ _ (spares _ (by simp)) (by simp) (by simp)
  | registered userId replicaId credential now _ _ free written spares =>
    by_cases same : replicaId = id
    · subst same
      rw [free, written]
      exact .registered userId credential now
    · exact turns_spared id _ _ _ _ (spares _ (by simp [Ne.symm same])) (by simp) (by simp)
  | challenged _ _ _ _ _ _ _ _ _ _ spares =>
    exact turns_spared id _ _ _ _ (spares _ (by simp)) (by simp) (by simp)
  | acknowledged userId binding credential challengeId sequence now row _ _ presents written spares =>
    by_cases same : binding.replicaId = id
    · subst same
      rw [presents.1, written]
      exact .acknowledged userId binding credential challengeId row now sequence
    · exact turns_spared id _ _ _ _ (spares _ (by simp [Ne.symm same])) (by simp) (by simp)
  | rotated userId binding credential resetRequestId now row positive _ _ valid presents written
      spares =>
    by_cases same : binding.replicaId = id
    · have here := presents.1
      rw [same] at here written
      rw [here, written]
      exact .rotated ⟨userId, binding, credential, resetRequestId⟩ row now positive same valid
        presents.2
    · rw [spares _ (by simp [Ne.symm same])]
      apply Turns.kept
      · exact fun settles => by cases settles.1
      · rintro session told
        cases told
        exact same
  | repeated userId binding credential resetRequestId row _ valid found owner enabled repeats =>
    by_cases same : binding.replicaId = id
    · have here := found
      rw [same] at here
      rw [here]
      exact .repeated ⟨userId, binding, credential, resetRequestId⟩ row same repeats
    · apply Turns.kept
      · exact fun settles => by cases settles.1
      · rintro session told
        cases told
        exact same
  | settled userId binding credential resetRequestId row _ _ presents staged written spares =>
    by_cases same : binding.replicaId = id
    · have here := presents.1
      rw [same] at here written
      rw [here, written]
      exact .settled userId binding credential resetRequestId row same staged
    · rw [spares _ (by simp [Ne.symm same])]
      apply Turns.kept
      · rintro ⟨_, _, _, _, _, told, here⟩
        cases told
        exact same here
      · simp
  | settledBefore userId binding credential resetRequestId row _ presents last unstaged =>
    by_cases same : binding.replicaId = id
    · have here := presents.1
      rw [same] at here
      rw [here]
      exact .settledBefore userId binding credential resetRequestId row same unstaged
    · apply Turns.kept
      · rintro ⟨_, _, _, _, _, told, here⟩
        cases told
        exact same here
      · simp
  | classified => exact turns_spared id _ _ _ _ rfl (by simp) (by simp)
  | disabled replicaId row now _ _ found written spares =>
    by_cases same : replicaId = id
    · subst same
      rw [found, written]
      exact .disabled row now
    · exact turns_spared id _ _ _ _ (spares _ (by simp [Ne.symm same])) (by simp) (by simp)
  | replayed => exact turns_spared id _ _ _ _ rfl (by simp) (by simp)
  | deniedAgain => exact turns_spared id _ _ _ _ rfl (by simp) (by simp)
  | denied _ _ _ _ _ _ records =>
    exact turns_spared id _ _ _ _ (records.spared _ (by simp)) (by simp) (by simp)
  | refused _ _ _ _ _ _ _ _ _ _ records =>
    exact turns_spared id _ _ _ _ (records.spared _ (by simp)) (by simp) (by simp)
  | applied call row reply _ _ presents applies =>
    rw [applies.told]
    rcases applies.buries with ⟨_, spares⟩ | ⟨_, _, _, _, _, spares⟩
    · exact turns_spared id _ _ _ _ (spares _ (by simp)) (by simp) (by simp)
    · exact turns_spared id _ _ _ _ (spares _ (by simp)) (by simp) (by simp)
  | created _ _ _ _ _ _ _ _ _ spares =>
    exact turns_spared id _ _ _ _ (spares _ (by simp)) (by simp) (by simp)
  | refreshed _ _ _ _ spares =>
    exact turns_spared id _ _ _ _ (spares _ (by simp)) (by simp) (by simp)
  | buried _ _ _ _ _ _ _ _ spares =>
    exact turns_spared id _ _ _ _ (spares _ (by simp)) (by simp) (by simp)
  | reburied _ _ _ _ _ _ _ _ _ spares =>
    exact turns_spared id _ _ _ _ (spares _ (by simp)) (by simp) (by simp)
  | timed _ _ _ _ _ _ _ spares =>
    exact turns_spared id _ _ _ _ (spares _ (by simp)) (by simp) (by simp)
  | prolonged _ _ _ _ _ _ _ spares =>
    exact turns_spared id _ _ _ _ (spares _ (by simp)) (by simp) (by simp)
  | retained _ _ _ _ _ _ _ _ retains =>
    exact turns_spared id _ _ _ _ (retains.spared _ (by simp) (by simp) (by simp) (by simp))
      (by simp) (by simp)

/-- A request other than a reset is answered only under the current credential. -/
theorem commit_presents (request : Request) (reply : Reply) (before after : Database)
    (committed : Committed platform request reply before after) (userId : Uuid)
    (binding : ReplicaBinding) (credential : Text)
    (presented : request.presented = some (userId, binding, credential))
    (positive : reply.negative = false) :
    ∃ row, Presents platform before userId binding credential row := by
  cases committed with
  | quiet _ _ _ negative =>
    rw [negative] at positive
    cases positive
  | counted _ _ _ row _ _ presents =>
    cases presented
    exact ⟨row, presents⟩
  | challenged _ _ _ _ _ _ row _ _ presents =>
    cases presented
    exact ⟨row, presents⟩
  | acknowledged _ _ _ _ _ _ row _ _ presents =>
    cases presented
    exact ⟨row, presents⟩
  | settled _ _ _ _ row _ _ presents =>
    cases presented
    exact ⟨row, presents⟩
  | settledBefore _ _ _ _ row _ presents =>
    cases presented
    exact ⟨row, presents⟩
  | classified _ _ _ _ _ _ row _ presents =>
    cases presented
    exact ⟨row, presents⟩
  | replayed _ row _ _ presents =>
    cases presented
    exact ⟨row, presents⟩
  | deniedAgain _ row _ _ presents =>
    cases presented
    exact ⟨row, presents⟩
  | denied _ row _ _ presents =>
    cases presented
    exact ⟨row, presents⟩
  | refused _ row _ _ _ _ presents =>
    cases presented
    exact ⟨row, presents⟩
  | applied _ row _ _ _ presents =>
    cases presented
    exact ⟨row, presents⟩
  | _ => cases presented

end Commits

/-- A credential digest that arises at an epoch: of the credential that the
registration drew, or of the one that the reset to that epoch derived. -/
def DigestAt (platform : Platform) (replicaId : Uuid) (epoch : Nat) (digest : Text) : Prop :=
  (epoch = 1 ∧ ∃ credential, platform.Drawn credential ∧ digest = platform.sha256 credential) ∨
    (1 < epoch ∧ isUuid replicaId = true ∧ ∃ resetRequestId, isVersion4Uuid resetRequestId = true ∧
      digest = platform.sha256 (rotatedCredential platform replicaId resetRequestId epoch))

/-- No digest arises at two epochs. -/
theorem digestAt_unique (platform : Platform) (hashes : platform.CollisionFree) (replicaId : Uuid)
    (left right : Nat) (digest : Text) (one : DigestAt platform replicaId left digest)
    (two : DigestAt platform replicaId right digest) : left = right := by
  rcases one with ⟨rfl, first, drawn, same⟩ | ⟨_, valid, first, version4, same⟩
  · rcases two with ⟨rfl, _⟩ | ⟨_, _, second, _, equal⟩
    · rfl
    · exact absurd (hashes.sha256 _ _ (same.symm.trans equal)) (drawn replicaId second right)
  · rcases two with ⟨_, second, drawn, equal⟩ | ⟨_, _, second, otherVersion4, equal⟩
    · exact absurd (hashes.sha256 _ _ (equal.symm.trans same)) (drawn replicaId first left)
    · have credentials := hashes.sha256 _ _ (same.symm.trans equal)
      exact (rotatedCredential_injective platform hashes.hmac replicaId replicaId first second left
        right valid valid version4 otherVersion4 credentials).2.2

/-- The invariant of the row of one replica. -/
structure Rotating (platform : Platform) (replicaId : Uuid) (row : Replica) : Prop where
  current : DigestAt platform replicaId row.replicaEpoch row.credentialDigest
  previous : ∀ digest, row.previousCredentialDigest = some digest →
    ∃ epoch, epoch < row.replicaEpoch ∧ DigestAt platform replicaId epoch digest

/-- A reset is staged on the row: its session is current, and the credential that it
replaced is kept. -/
structure Staged (platform : Platform) (call : ResetCall) (row : Replica) : Prop where
  owner : row.userId = call.userId
  epoch : row.replicaEpoch = call.binding.replicaEpoch + 1
  request : row.stagedResetRequestId = some call.resetRequestId
  previous : row.previousCredentialDigest = some (platform.sha256 call.credential)
  current : row.credentialDigest = platform.sha256 (call.session platform).credential

/-- A reset is over: it was acknowledged, or another reset followed. -/
def Over (call : ResetCall) (row : Replica) : Prop :=
  call.binding.replicaEpoch + 1 < row.replicaEpoch ∨
    (row.replicaEpoch = call.binding.replicaEpoch + 1 ∧ row.previousCredentialDigest = none)

section Rows

variable {platform : Platform} {id : Uuid} {request : Request} {reply : Reply}

/-- The epoch of a replica grows, and the replica keeps its user. -/
theorem turns_grows (row : Replica) (after : Option Replica)
    (turns : Turns platform id request reply (some row) after) :
    ∃ next, after = some next ∧ row.replicaEpoch ≤ next.replicaEpoch := by
  cases turns with
  | kept => exact ⟨row, rfl, le_rfl⟩
  | acknowledged _ _ _ _ _ now sequence => exact ⟨row.acknowledged now sequence, rfl, le_rfl⟩
  | disabled _ now => exact ⟨row.disabled now, rfl, le_rfl⟩
  | rotated call _ now positive here valid accepts =>
    refine ⟨_, rfl, ?_⟩
    simp only [Replica.rotated, accepts.2.2.1]
    omega
  | repeated => exact ⟨row, rfl, le_rfl⟩
  | settled _ _ _ resetRequestId => exact ⟨row.settled resetRequestId, rfl, le_rfl⟩
  | settledBefore => exact ⟨row, rfl, le_rfl⟩

/-- The invariant of a row is kept, and a registration establishes it. -/
theorem turns_rotating (before after : Option Replica) (draws : request.Draws platform)
    (turns : Turns platform id request reply before after)
    (holds : ∀ row, before = some row → Rotating platform id row) :
    ∀ row, after = some row → Rotating platform id row := by
  rintro final rfl
  cases turns with
  | kept => exact holds final rfl
  | registered userId credential now =>
    refine ⟨Or.inl ⟨rfl, credential, draws, rfl⟩, ?_⟩
    intro digest none
    cases none
  | acknowledged _ _ _ _ row =>
    have earlier := holds row rfl
    exact ⟨earlier.current, earlier.previous⟩
  | disabled row =>
    have earlier := holds row rfl
    exact ⟨earlier.current, earlier.previous⟩
  | rotated call row now positive here valid accepts =>
    have earlier := holds row rfl
    have epoch : row.replicaEpoch = call.binding.replicaEpoch := accepts.2.2.1
    constructor
    · refine Or.inr ⟨?_, here ▸ call.binding.identified, call.resetRequestId, valid, ?_⟩
      · simp only [Replica.rotated]
        have started := call.binding.positive
        omega
      · subst here
        rfl
    · intro digest same
      simp only [Replica.rotated, Option.some.injEq] at same ⊢
      refine ⟨row.replicaEpoch, by omega, ?_⟩
      rw [← same]
      exact earlier.current
  | repeated => exact holds final rfl
  | settled _ _ _ _ row =>
    have earlier := holds row rfl
    refine ⟨earlier.current, ?_⟩
    intro digest none
    cases none
  | settledBefore => exact holds final rfl

/-- The two live credentials of a row are different. -/
theorem rotating_apart (hashes : platform.CollisionFree) (row : Replica)
    (rotating : Rotating platform id row) (digest : Text)
    (previous : row.previousCredentialDigest = some digest) : row.credentialDigest ≠ digest := by
  intro same
  obtain ⟨epoch, below, arises⟩ := rotating.previous digest previous
  rw [← same] at arises
  have equal := digestAt_unique platform hashes id _ _ _ rotating.current arises
  omega

/-- A staged reset is not over. -/
theorem staged_not_over (call : ResetCall) (row : Replica) (staged : Staged platform call row) :
    ¬ Over call row := by
  have epoch := staged.epoch
  rintro (later | ⟨_, none⟩)
  · omega
  · rw [staged.previous] at none
    cases none

/-- A staged reset stays staged exactly until a commit closes it. -/
theorem turns_staged (call : ResetCall) (row : Replica) (after : Option Replica)
    (turns : Turns platform call.binding.replicaId request reply (some row) after)
    (staged : Staged platform call row) :
    ∃ next, after = some next ∧
      ((Staged platform call next ∧ ¬ Closes (call.session platform) request reply) ∨
        (Over call next ∧ Closes (call.session platform) request reply)) := by
  cases turns with
  | kept _ _ _ unsettled elsewhere =>
    refine ⟨row, rfl, Or.inl ⟨staged, ?_⟩⟩
    rintro (settles | ⟨other, told, here, _⟩)
    · exact unsettled settles
    · exact elsewhere other told here
  | acknowledged _ _ _ _ _ now sequence =>
    refine ⟨row.acknowledged now sequence, rfl, Or.inl ⟨?_, ?_⟩⟩
    · exact ⟨staged.owner, staged.epoch, staged.request, staged.previous, staged.current⟩
    · simp [Closes, Settles]
  | disabled _ now =>
    refine ⟨row.disabled now, rfl, Or.inl ⟨?_, ?_⟩⟩
    · exact ⟨staged.owner, staged.epoch, staged.request, staged.previous, staged.current⟩
    · simp [Closes, Settles]
  | rotated other _ now positive here valid accepts =>
    have epoch : row.replicaEpoch = other.binding.replicaEpoch := accepts.2.2.1
    have earlier := staged.epoch
    refine ⟨_, rfl, Or.inr ⟨Or.inl ?_, Or.inr ⟨_, rfl, here, ?_⟩⟩⟩
    · simp only [Replica.rotated]
      omega
    · intro same
      have epochs := congrArg ReplicaSession.replicaEpoch same
      simp only [ResetCall.session, nextSession] at epochs
      omega
  | repeated other _ here repeats =>
    simp only [Replica.repeatsReset, Bool.and_eq_true, decide_eq_true_eq] at repeats
    obtain ⟨⟨⟨epoch, request⟩, _⟩, _⟩ := repeats
    have same : other.session platform = call.session platform := by
      have requests := Option.some.inj (request.symm.trans staged.request)
      have epochs : other.binding.replicaEpoch = call.binding.replicaEpoch := by
        have earlier := staged.epoch
        omega
      simp only [ResetCall.session, nextSession, requests, epochs, here]
    refine ⟨row, rfl, Or.inl ⟨staged, ?_⟩⟩
    rintro (⟨told, _⟩ | ⟨session, told, _, differ⟩)
    · cases told
    · cases told
      exact differ same
  | settled userId binding credential resetRequestId _ here _ =>
    refine ⟨row.settled resetRequestId, rfl, Or.inr ⟨Or.inr ⟨staged.epoch, rfl⟩, Or.inl ⟨rfl, ?_⟩⟩⟩
    exact ⟨userId, binding, credential, resetRequestId, rfl, here⟩
  | settledBefore _ _ _ _ _ _ unstaged =>
    rw [staged.previous] at unstaged
    cases unstaged

/-- What is over stays over. -/
theorem turns_over (call : ResetCall) (row : Replica) (after : Option Replica)
    (turns : Turns platform call.binding.replicaId request reply (some row) after)
    (closed : Over call row) : ∃ next, after = some next ∧ Over call next := by
  cases turns with
  | kept => exact ⟨row, rfl, closed⟩
  | acknowledged _ _ _ _ _ now sequence => exact ⟨row.acknowledged now sequence, rfl, closed⟩
  | disabled _ now => exact ⟨row.disabled now, rfl, closed⟩
  | rotated other _ now positive here valid accepts =>
    have epoch : row.replicaEpoch = other.binding.replicaEpoch := accepts.2.2.1
    refine ⟨_, rfl, Or.inl ?_⟩
    simp only [Replica.rotated]
    rcases closed with later | ⟨same, _⟩
    · omega
    · omega
  | repeated => exact ⟨row, rfl, closed⟩
  | settled _ _ _ resetRequestId =>
    exact ⟨row.settled resetRequestId, rfl, closed.imp_right fun same => ⟨same.1, rfl⟩⟩
  | settledBefore => exact ⟨row, rfl, closed⟩

end Rows

section Histories

variable {platform : Platform}

/-- An accepted reset either rotates the row under the current credential, or repeats the
reset that is staged there and changes nothing. -/
theorem commit_resets (call : ResetCall) (session : ReplicaSession) (before after : Database)
    (committed : Committed platform call.request (.reset session) before after) :
    session = call.session platform ∧
      ∃ row, before.lookup (Key.replica call.binding.replicaId) = some row ∧
        ((row.accepts platform call.userId call.binding call.credential ∧
            ∃ next, after.lookup (Key.replica call.binding.replicaId) = some next ∧
              next.replicaEpoch = row.replicaEpoch + 1 ∧ Staged platform call next) ∨
          (Staged platform call row ∧ after = before)) := by
  obtain ⟨userId, binding, credential, resetRequestId⟩ := call
  cases committed with
  | quiet _ _ _ negative => cases negative
  | rotated _ _ _ _ now row positive _ _ valid presents written =>
    refine ⟨rfl, row, presents.1, Or.inl ⟨presents.2, _, written, ?_, presents.2.1, rfl, rfl, ?_, rfl⟩⟩
    · simp only [Replica.rotated, presents.2.2.2.1]
    · simp only [Replica.rotated, presents.2.2.2.2]
  | repeated _ _ _ _ row _ valid found owner enabled repeats =>
    simp only [Replica.repeatsReset, Bool.and_eq_true, decide_eq_true_eq] at repeats
    obtain ⟨⟨⟨epoch, request⟩, previous⟩, current⟩ := repeats
    exact ⟨rfl, row, found, Or.inr ⟨⟨owner, epoch, request, previous, current⟩, rfl⟩⟩

/-- The reset that raises the epoch is staged afterwards. -/
theorem raises_staged (call : ResetCall) (request : Request) (reply : Reply)
    (before after : Database) (committed : Committed platform request reply before after)
    (raises : Raises platform call request reply before) :
    ∃ next, after.lookup (Key.replica call.binding.replicaId) = some next ∧
      Staged platform call next := by
  obtain ⟨rfl, rfl, current, presents⟩ := raises
  obtain ⟨_, row, found, ⟨_, next, written, _, staged⟩ | ⟨staged, _⟩⟩ :=
    commit_resets call _ before after committed
  · exact ⟨next, written, staged⟩
  · obtain rfl : current = row := Option.some.inj (presents.1.symm.trans found)
    have epoch := staged.epoch
    have same : current.replicaEpoch = call.binding.replicaEpoch := presents.2.2.2.1
    omega

/-- Over a history, a staged reset stays staged exactly until a commit closes it. -/
theorem linked_staged (call : ResetCall) (first last : Database)
    (history : List (Commit Row Request Reply))
    (linked : Linked (Committed platform) first history last) (row : Replica)
    (found : first.lookup (Key.replica call.binding.replicaId) = some row)
    (staged : Staged platform call row) :
    ∃ next, last.lookup (Key.replica call.binding.replicaId) = some next ∧
      ((Staged platform call next ∧ ∀ commit ∈ history,
          ¬ Closes (call.session platform) commit.request commit.reply) ∨
        (Over call next ∧ ∃ commit ∈ history,
          Closes (call.session platform) commit.request commit.reply)) := by
  induction linked with
  | nil => exact ⟨row, found, Or.inl ⟨staged, by simp⟩⟩
  | snoc history commit _ committed inductionHypothesis =>
    have turns := commit_turns call.binding.replicaId _ _ _ _ committed
    obtain ⟨middle, there, ⟨open_, unclosed⟩ | ⟨closed, other, member, closes⟩⟩ := inductionHypothesis
    · rw [there] at turns
      obtain ⟨next, written, ⟨still, spared⟩ | ⟨closed, closes⟩⟩ := turns_staged call middle _ turns open_
      · refine ⟨next, written, Or.inl ⟨still, ?_⟩⟩
        intro tested member
        rcases List.mem_append.mp member with member | member
        · exact unclosed tested member
        · rw [List.mem_singleton.mp member]
          exact spared
      · exact ⟨next, written, Or.inr ⟨closed, commit, by simp, closes⟩⟩
    · rw [there] at turns
      obtain ⟨next, written, later⟩ := turns_over call middle _ turns closed
      exact ⟨next, written, Or.inr ⟨later, other, List.mem_append_left _ member, closes⟩⟩

/-- A previous credential that appears on a row was put there by a reset. -/
theorem turns_previous (id : Uuid) (request : Request) (reply : Reply) (before : Option Replica)
    (row : Replica) (turns : Turns platform id request reply before (some row))
    (previous : row.previousCredentialDigest ≠ none) :
    (∃ earlier, before = some earlier ∧
        earlier.previousCredentialDigest = row.previousCredentialDigest ∧
          earlier.replicaEpoch = row.replicaEpoch) ∨
      ∃ (call : ResetCall) (earlier : Replica), call.binding.replicaId = id ∧
        request = call.request ∧ reply = .reset (call.session platform) ∧ before = some earlier ∧
          earlier.accepts platform call.userId call.binding call.credential := by
  cases turns with
  | kept => exact Or.inl ⟨row, rfl, rfl, rfl⟩
  | registered => exact absurd rfl previous
  | acknowledged _ _ _ _ earlier => exact Or.inl ⟨earlier, rfl, rfl, rfl⟩
  | disabled earlier => exact Or.inl ⟨earlier, rfl, rfl, rfl⟩
  | rotated call earlier _ _ here _ accepts =>
    exact Or.inr ⟨call, earlier, here, rfl, rfl, rfl, accepts⟩
  | repeated => exact Or.inl ⟨row, rfl, rfl, rfl⟩
  | settled => exact absurd rfl previous
  | settledBefore => exact Or.inl ⟨row, rfl, rfl, rfl⟩

/-- A row with a previous credential was reset, and nothing has closed that since. -/
theorem linked_previous (replicaId : Uuid) (first last : Database)
    (history : List (Commit Row Request Reply))
    (linked : Linked (Committed platform) first history last)
    (unregistered : first.lookup (Key.replica replicaId) = none) (row : Replica)
    (found : last.lookup (Key.replica replicaId) = some row)
    (previous : row.previousCredentialDigest ≠ none) :
    ∃ (earlier rest : List (Commit Row Request Reply)) (commit : Commit Row Request Reply)
      (call : ResetCall), history = earlier ++ commit :: rest ∧
        call.binding.replicaId = replicaId ∧
          Raises platform call commit.request commit.reply commit.before ∧
            ∀ later ∈ rest, ¬ Closes (call.session platform) later.request later.reply := by
  induction linked generalizing row with
  | nil =>
    rw [unregistered] at found
    cases found
  | snoc history commit linked committed inductionHypothesis =>
    have turns := commit_turns replicaId _ _ _ _ committed
    rw [found] at turns
    rcases turns_previous replicaId _ _ _ row turns previous with
      ⟨old, there, same, epoch⟩ | ⟨call, old, here, request, reply, there, accepts⟩
    · obtain ⟨earlier, rest, raising, call, rfl, here, raises, unclosed⟩ :=
        inductionHypothesis old there (same ▸ previous)
      refine ⟨earlier, rest ++ [commit], raising, call, by simp, here, raises, ?_⟩
      obtain ⟨_, related, back⟩ := linked.parts
      obtain ⟨next, written, staged⟩ := raises_staged call _ _ _ _ related raises
      obtain ⟨middle, reached, ⟨still, _⟩ | ⟨_, other, member, closes⟩⟩ :=
        linked_staged call _ _ _ back next written staged
      · rw [here, there, Option.some.injEq] at reached
        subst reached
        rw [there, ← here] at turns
        obtain ⟨final, same_, ⟨_, spared⟩ | ⟨closed, _⟩⟩ := turns_staged call old _ turns still
        · intro later member
          rcases List.mem_append.mp member with member | member
          · exact unclosed later member
          · rw [List.mem_singleton.mp member]
            exact spared
        · obtain rfl : row = final := Option.some.inj same_
          have staging := still.epoch
          rcases closed with later | ⟨_, none⟩
          · omega
          · exact absurd none previous
      · exact absurd closes (unclosed other member)
    · refine ⟨history, [], commit, call, rfl, here, ⟨request, reply, old, ?_, accepts⟩, by simp⟩
      rw [here]
      exact there

/-- A duplicate of the staged reset is answered with the same session. -/
theorem serve_repeats (call : ResetCall) (db : Database) (row : Replica) (holds : Sequenced db)
    (valid : isVersion4Uuid call.resetRequestId = true)
    (found : db.lookup (Key.replica call.binding.replicaId) = some row)
    (staged : Staged platform call row) (enabled : row.disabledAt = none) :
    serve (commandServer platform) call.request db = (.ok (.reset (call.session platform)), db) := by
  obtain ⟨state, counted, _⟩ := holds.counted
  rw [stateOf] at counted
  have repeats : row.repeatsReset platform call.binding call.credential call.resetRequestId = true := by
    simp only [Replica.repeatsReset, staged.epoch, staged.request, staged.previous, staged.current,
      ResetCall.session, decide_true, Bool.and_self]
  simp only [serve, commandServer, ResetCall.request, program, resetReplica, if_pos valid,
    Program.ask_bind, alone, execute, found, counted, staged.owner, enabled, ne_eq, not_true,
    or_self, if_false, repeats, if_true, applyAll_nil, Program.pure_eq, ResetCall.session]

/-- A duplicate of a reset that is over is rejected. -/
theorem serve_rejects (call : ResetCall) (db : Database) (row : Replica) (holds : Sequenced db)
    (found : db.lookup (Key.replica call.binding.replicaId) = some row) (closed : Over call row) :
    serve (commandServer platform) call.request db = (.ok .invalidReplica, db) := by
  obtain ⟨state, counted, _⟩ := holds.counted
  rw [stateOf] at counted
  have later : row.replicaEpoch ≠ call.binding.replicaEpoch := by
    rcases closed with beyond | ⟨same, _⟩
    · omega
    · omega
  have repeats : row.repeatsReset platform call.binding call.credential call.resetRequestId = false := by
    rcases closed with beyond | ⟨_, none⟩
    · have differ : row.replicaEpoch ≠ call.binding.replicaEpoch + 1 := by omega
      simp only [Replica.repeatsReset, decide_eq_false differ, Bool.false_and]
    · simp [Replica.repeatsReset, none]
  by_cases valid : isVersion4Uuid call.resetRequestId = true
  · simp only [serve, commandServer, ResetCall.request, program, resetReplica, if_pos valid,
      Program.ask_bind, alone, execute, found, counted, repeats, applyAll_nil, Program.pure_eq,
      Bool.false_eq_true, if_false, later, ne_eq, not_false_eq_true, true_or, if_true, ite_self]
  · simp only [serve, commandServer, ResetCall.request, program, resetReplica, if_neg valid, alone,
      Program.pure_eq]

end Histories

/-- Epochs and credentials of one replica over a history, and what its reset requests
are answered at its end. -/
structure RotatesSafely (platform : Platform) (replicaId : Uuid) (first : Database)
    (history : List (Commit Row Request Reply)) (last : Database) : Prop where
  grows : ∀ (earlier later : Nat) (before after : Database) (row : Replica), earlier ≤ later →
    (states first history)[earlier]? = some before → (states first history)[later]? = some after →
      before.lookup (Key.replica replicaId) = some row →
        ∃ next, after.lookup (Key.replica replicaId) = some next ∧
          row.replicaEpoch ≤ next.replicaEpoch
  resets : ∀ commit ∈ history, ∀ (call : ResetCall) (session : ReplicaSession),
    call.binding.replicaId = replicaId → commit.request = call.request →
      commit.reply = .reset session → session = call.session platform ∧
        ∃ row, commit.before.lookup (Key.replica replicaId) = some row ∧
          ((row.accepts platform call.userId call.binding call.credential ∧
              ∃ next, commit.after.lookup (Key.replica replicaId) = some next ∧
                next.replicaEpoch = row.replicaEpoch + 1 ∧ Staged platform call next) ∨
            (Staged platform call row ∧ commit.after = commit.before))
  accepted : ∀ commit ∈ history, ∀ (userId : Uuid) (binding : ReplicaBinding) (credential : Text),
    commit.request.presented = some (userId, binding, credential) →
      binding.replicaId = replicaId → commit.reply.negative = false →
        ∃ row, Presents platform commit.before userId binding credential row ∧
          row.previousCredentialDigest ≠ some (platform.sha256 credential)
  once : ∀ (earlier later : Nat) (before after : Database) (row next : Replica),
    (states first history)[earlier]? = some before → (states first history)[later]? = some after →
      before.lookup (Key.replica replicaId) = some row →
        after.lookup (Key.replica replicaId) = some next →
          row.credentialDigest = next.credentialDigest → row.replicaEpoch = next.replicaEpoch
  staged : ∀ row, last.lookup (Key.replica replicaId) = some row →
    (row.previousCredentialDigest = none ↔ row.stagedResetRequestId = none) ∧
      (row.previousCredentialDigest ≠ none ↔
        ∃ (earlier rest : List (Commit Row Request Reply)) (commit : Commit Row Request Reply)
          (call : ResetCall), history = earlier ++ commit :: rest ∧
            call.binding.replicaId = replicaId ∧
              Raises platform call commit.request commit.reply commit.before ∧
                ∀ later ∈ rest, ¬ Closes (call.session platform) later.request later.reply)
  repeats : ∀ (earlier rest : List (Commit Row Request Reply)) (commit : Commit Row Request Reply)
    (call : ResetCall), history = earlier ++ commit :: rest → call.binding.replicaId = replicaId →
      Raises platform call commit.request commit.reply commit.before →
        (∀ later ∈ rest, ¬ Closes (call.session platform) later.request later.reply) →
          ∀ row, last.lookup (Key.replica replicaId) = some row → row.disabledAt = none →
            serve (commandServer platform) call.request last =
              (.ok (.reset (call.session platform)), last)
  rejects : ∀ (earlier rest : List (Commit Row Request Reply)) (commit : Commit Row Request Reply)
    (call : ResetCall), history = earlier ++ commit :: rest → call.binding.replicaId = replicaId →
      Raises platform call commit.request commit.reply commit.before →
        (∃ later ∈ rest, Closes (call.session platform) later.request later.reply) →
          serve (commandServer platform) call.request last = (.ok .invalidReplica, last)

section Runs

variable {platform : Platform}

/-- In every committed database the row of a replica that was registered meanwhile
satisfies its invariant. -/
theorem linked_rotating (replicaId : Uuid) (first last : Database)
    (history : List (Commit Row Request Reply))
    (linked : Linked (fun request reply before after => request.Draws platform ∧
      Committed platform request reply before after) first history last)
    (unregistered : first.lookup (Key.replica replicaId) = none) :
    ∀ row, last.lookup (Key.replica replicaId) = some row → Rotating platform replicaId row := by
  induction linked with
  | nil =>
    intro row found
    rw [unregistered] at found
    cases found
  | snoc history commit _ related inductionHypothesis =>
    exact turns_rotating _ _ related.1 (commit_turns replicaId _ _ _ _ related.2)
      inductionHypothesis

/-- The epoch of a replica grows over every history. -/
theorem linked_grows (replicaId : Uuid) (first last : Database)
    (history : List (Commit Row Request Reply))
    (linked : Linked (Committed platform) first history last) (row : Replica)
    (found : first.lookup (Key.replica replicaId) = some row) :
    ∃ next, last.lookup (Key.replica replicaId) = some next ∧
      row.replicaEpoch ≤ next.replicaEpoch := by
  induction linked with
  | nil => exact ⟨row, found, le_rfl⟩
  | snoc history commit _ committed inductionHypothesis =>
    obtain ⟨middle, present, above⟩ := inductionHypothesis
    have turns := commit_turns replicaId _ _ _ _ committed
    rw [present] at turns
    obtain ⟨next, written, grown⟩ := turns_grows middle _ turns
    exact ⟨next, written, above.trans grown⟩

/-- A version-4 request is the only one that an accepted reset has. -/
theorem raises_valid (call : ResetCall) (request : Request) (reply : Reply)
    (before after : Database) (committed : Committed platform request reply before after)
    (raises : Raises platform call request reply before) :
    isVersion4Uuid call.resetRequestId = true := by
  obtain ⟨rfl, rfl, _⟩ := raises
  obtain ⟨userId, binding, credential, resetRequestId⟩ := call
  cases committed with
  | quiet _ _ _ negative => cases negative
  | rotated _ _ _ _ _ _ _ _ _ valid => exact valid
  | repeated _ _ _ _ _ _ valid => exact valid

/-- After a run, a reset that was accepted is staged as long as nothing closed it, and
over afterwards. -/
theorem split_staged (call : ResetCall) (first last : Database)
    (earlier rest : List (Commit Row Request Reply)) (commit : Commit Row Request Reply)
    (linked : Linked (Committed platform) first (earlier ++ commit :: rest) last)
    (raises : Raises platform call commit.request commit.reply commit.before) :
    ∃ row, last.lookup (Key.replica call.binding.replicaId) = some row ∧
      isVersion4Uuid call.resetRequestId = true ∧
        ((Staged platform call row ∧ ∀ later ∈ rest,
            ¬ Closes (call.session platform) later.request later.reply) ∨
          (Over call row ∧ ∃ later ∈ rest,
            Closes (call.session platform) later.request later.reply)) := by
  obtain ⟨_, committed, back⟩ := linked.parts
  obtain ⟨next, written, staged⟩ := raises_staged call _ _ _ _ committed raises
  obtain ⟨row, found, state⟩ := linked_staged call _ last rest back next written staged
  exact ⟨row, found, raises_valid call _ _ _ _ committed raises, state⟩

/-- In every run, with any number of duplicated, delayed, reordered and lost requests of
any replicas, the epochs and credentials of a replica rotate safely. -/
theorem rotation_safe (platform : Platform) (hashes : platform.CollisionFree) (replicaId : Uuid)
    (db : Database) (holds : Sequenced db)
    (unregistered : db.lookup (Key.replica replicaId) = none)
    (last : System Name Row Res Failure Request Reply)
    (run : Run (commandServer platform) (DrawsCredentials platform) (System.initial db) last) :
    RotatesSafely platform replicaId db last.history last.db := by
  have admitted := history_admitted platform _ db holds last run
  have linked : Linked (Committed platform) db last.history last.db :=
    admitted.mono fun _ _ _ _ admits => admits.2.2.2
  have drawn : ∀ commit ∈ last.history, commit.request.Draws platform :=
    (requests_arrived (commandServer platform) (DrawsCredentials platform)
      (fun request => request.Draws platform) _ last (fun _ _ permitted => permitted)
      (by simp [System.initial]) (by simp [System.initial]) run).2
  have drawing := linked.restrict (fun request _ _ _ => request.Draws platform) drawn
  have final : Sequenced last.db :=
    linked.preserves (fun request reply before after committed inside =>
      commit_keeps_sequences platform request reply before after inside committed) holds
  have rotating : ∀ (index : Nat) (middle : Database),
      (states db last.history)[index]? = some middle → ∀ row,
        middle.lookup (Key.replica replicaId) = some row → Rotating platform replicaId row :=
    fun index middle here =>
      linked_rotating replicaId db middle _ (drawing.split index middle here).1 unregistered
  constructor
  · intro earlier later before after row ordered here there found
    exact linked_grows replicaId before after _
      (linked.between earlier later before after ordered here there).1 row found
  · rintro commit member call session rfl asked told
    obtain ⟨index, place⟩ := List.getElem?_of_mem member
    have committed := (linked.around index commit place).2.2
    rw [asked, told] at committed
    exact commit_resets call session _ _ committed
  · rintro commit member userId binding credential presented rfl positive
    obtain ⟨index, place⟩ := List.getElem?_of_mem member
    obtain ⟨before, _, committed⟩ := linked.around index commit place
    obtain ⟨row, presents⟩ := commit_presents _ _ _ _ committed userId binding credential presented
      positive
    refine ⟨row, presents, fun previous => ?_⟩
    exact rotating_apart hashes row (rotating index _ before row presents.1) _ previous
      presents.2.2.2.2
  · intro earlier later before after row next here there found present same
    have one := (rotating earlier before here row found).current
    have two := (rotating later after there next present).current
    rw [← same] at two
    exact digestAt_unique platform hashes replicaId _ _ _ one two
  · intro row found
    constructor
    · rw [← Option.isNone_iff_eq_none, ← Option.isNone_iff_eq_none, row.stagedTogether]
    · constructor
      · exact linked_previous replicaId db last.db last.history linked unregistered row found
      · rintro ⟨earlier, rest, commit, call, split, rfl, raises, unclosed⟩
        rw [split] at linked
        obtain ⟨next, there, _, ⟨staged, _⟩ | ⟨_, other, member, closes⟩⟩ :=
          split_staged call db last.db earlier rest commit linked raises
        · obtain rfl : row = next := Option.some.inj (found.symm.trans there)
          rw [staged.previous]
          exact Option.some_ne_none _
        · exact absurd closes (unclosed other member)
  · rintro earlier rest commit call split rfl raises unclosed row found enabled
    rw [split] at linked
    obtain ⟨next, there, valid, ⟨staged, _⟩ | ⟨_, other, member, closes⟩⟩ :=
      split_staged call db last.db earlier rest commit linked raises
    · obtain rfl : row = next := Option.some.inj (found.symm.trans there)
      exact serve_repeats call last.db row final valid found staged enabled
    · exact absurd closes (unclosed other member)
  · rintro earlier rest commit call split rfl raises ⟨other, member, closes⟩
    rw [split] at linked
    obtain ⟨next, there, _, ⟨_, unclosed⟩ | ⟨closed, _⟩⟩ :=
      split_staged call db last.db earlier rest commit linked raises
    · exact absurd closes (unclosed other member)
    · exact serve_rejects call last.db next final there closed

end Runs

namespace Sample

/-- A text in a frame, and what follows it. -/
def framed : Text → Text → Text
  | [], rest => 0 :: rest
  | unit :: units, rest => 1 :: unit :: framed units rest

/-- The frame shows where the text ends. -/
theorem framed_injective (left right after rest : Text)
    (same : framed left after = framed right rest) : left = right ∧ after = rest := by
  induction left generalizing right with
  | nil =>
    cases right with
    | nil => simpa [framed] using same
    | cons unit units => simp [framed] at same
  | cons unit units inductionHypothesis =>
    cases right with
    | nil => simp [framed] at same
    | cons other others =>
      simp only [framed, List.cons.injEq, true_and] at same
      obtain ⟨equal, later⟩ := inductionHypothesis others same.2
      exact ⟨by rw [same.1, equal], later⟩

/-- A platform whose hashes are the hashed texts themselves. -/
def platform : Platform where
  sha256 text := text
  sha256Json object :=
    framed object.replicaId (framed (decimal object.replicaEpoch) (framed object.commandId
      (framed object.type (framed object.resourceId (framed object.resourceIncarnationId
        (framed (decimal object.expectedRecordVersion)
          (object.payload.elim [] fun payload => framed payload [])))))))
  hmac text := text

/-- A retention state before the first deletion. -/
def retention : RetentionState where
  effectiveNow := 0
  graveyardRetention := days 90
  retainedGraveyardFloor := 1
  nextDeletionSequence := 1
  longEnough := le_rfl
  floorPositive := Nat.one_pos
  nextPositive := Nat.one_pos

/-- A database in which nothing has been registered or deleted. -/
def database : Database := (∅ : Database).insert Key.retentionState retention

/-- It satisfies the invariant of committed databases. -/
theorem database_sequenced : Sequenced database where
  counted := by
    refine ⟨retention, AList.lookup_insert _, by decide, ?_⟩
    intro id marker found
    rw [database, AList.lookup_insert_ne (by simp)] at found
    cases found
  distinct id other marker _ here := by
    rw [database, AList.lookup_insert_ne (by simp)] at here
    cases here
  grounded := by
    rw [grantsOf, database, AList.lookup_insert_ne (by simp)]
    simp

/-- The identifiers of a user, a replica and a reset request. -/
def userId : Uuid := ascii "0b7ff3c1-4d3c-4c9e-9a56-0d1e25b6a0f1"

def replicaId : Uuid := ascii "5f2d1c7e-8a44-4b6f-8d21-7c3e9b5a1d02"

def resetRequestId : Uuid := ascii "c4a8e1b2-3f57-4d90-b1c6-2e8f7a9d5b03"

/-- The session of the replica at its first epoch. -/
def binding : ReplicaBinding := ⟨replicaId, 1, by decide, Nat.one_pos, by decide⟩

/-- The credential that its registration drew. -/
def credential : Text := ascii "r2_drawn"

/-- A request arrives as the next transaction and takes its steps without interference. -/
def executed (index steps : Nat) (request : Request) : List (Event Request) :=
  .arrive request :: List.replicate steps (.advance index)

/-- The request for its reset. -/
def reset : ResetCall := ⟨userId, binding, credential, resetRequestId⟩

/-- The replica registers, and its reset is sent twice and executed twice. -/
def rotation : List (Event Request) :=
  List.flatten [executed 0 4 (.register userId replicaId credential), executed 1 4 reset.request,
    executed 2 2 reset.request]

/-- The drawn credential is none that a reset derives: it has no colon. -/
theorem credential_drawn : platform.Drawn credential := by
  intro replicaId resetRequestId epoch same
  have colon : (58 : UInt16) ∈ credential := by
    rw [same]
    simp [rotatedCredential, rotationMessage, platform]
  revert colon
  decide

end Sample

/-- A registered replica rotates safely: its reset raises the epoch to two, and a third
duplicate would again be answered with the same session. -/
theorem rotation_safe_registered :
    ∃ last, (System.initial Sample.database).steps (commandServer Sample.platform) Sample.rotation =
        some last ∧
      last.history.map Commit.reply = [.registered ⟨Sample.replicaId, 1, Sample.credential⟩,
        .reset (Sample.reset.session Sample.platform), .reset (Sample.reset.session Sample.platform)] ∧
      RotatesSafely Sample.platform Sample.replicaId Sample.database last.history last.db := by
  have made : ((System.initial Sample.database).steps (commandServer Sample.platform)
      Sample.rotation).map (fun last => last.history.map Commit.reply) =
        some [.registered ⟨Sample.replicaId, 1, Sample.credential⟩,
          .reset (Sample.reset.session Sample.platform),
          .reset (Sample.reset.session Sample.platform)] := by
    decide
  obtain ⟨last, ran, replies⟩ := Option.map_eq_some_iff.mp made
  have hashes : Sample.platform.CollisionFree := ⟨fun _ _ same => same, fun _ _ same => same⟩
  have permitted : ∀ event ∈ Sample.rotation, ∀ system,
      DrawsCredentials Sample.platform system event := by
    intro event member _
    simp only [Sample.rotation, Sample.executed, List.mem_flatten, List.mem_cons, List.not_mem_nil,
      or_false, exists_eq_or_imp, exists_eq_left, List.mem_replicate] at member
    rcases member with (rfl | ⟨_, rfl⟩) | (rfl | ⟨_, rfl⟩) | rfl | ⟨_, rfl⟩
    · exact Sample.credential_drawn
    · trivial
    · trivial
    · trivial
    · trivial
    · trivial
  exact ⟨last, ran, replies, rotation_safe Sample.platform hashes Sample.replicaId Sample.database
    Sample.database_sequenced (by decide) last (run_of_steps _ _ _ _ _ permitted ran)⟩

end TraxOs.PowerSync
