import TraxOs.Theory.Noninterference
import TraxOs.PowerSync.Receipts

/-!
# What a caller without a grant learns

Two databases that differ only in resources and tombstones to which a user has no active
grant are indistinguishable for the user. A command request is answered over HTTP after
two transactions, that of the rate window and that of the command. Both are blind: each
of their statements does the same on two such databases. The statements that read a
resource or its tombstone come after the grant was found, and then the resource is not
one of the hidden ones.

The server also counts the attempts of each command in its memory. The count is part of
the answer, and it depends on earlier answers only.
-/

namespace TraxOs.PowerSync

open TraxOs.Theory

section Responses

/-- The body of a response: an error, or the one result of an envelope. -/
inductive ResponseBody where
  | error (error : Text)
  | results (result : SpikeCommandResult)
deriving DecidableEq

/-- A response to a command request. -/
structure HttpResponse where
  status : Nat
  retryAfter : Option Nat
  body : ResponseBody
deriving DecidableEq

/-- `json`, with an error. -/
def jsonError (status : Nat) (error : String) : HttpResponse := ⟨status, none, .error (ascii error)⟩

/-- `retryableJson`. -/
def retryableJson (status : Nat) (error : String) : HttpResponse :=
  ⟨status, some 1, .error (ascii error)⟩

/-- The response to a request whose transaction was rolled back. -/
def refusalResponse : Failure → HttpResponse
  | .raised => jsonError 500 "internal_error"
  | .rolledBack .invalidReplica => jsonError 403 "invalid_replica"
  | .rolledBack .replicaResetRequired => jsonError 428 "replica_reset_required"
  | .rolledBack .commandRateLimited => retryableJson 429 "command_rate_limited"
  | .rolledBack .idempotencyConflict => jsonError 409 "idempotency_conflict"
  | .rolledBack .commandDenied => jsonError 403 "command_denied"

/-- The response to a request whose transaction was committed: `executeCommands` commits
with results only. -/
def commandResponse : Reply → HttpResponse
  | .results status result => ⟨status, none, .results result⟩
  | _ => jsonError 500 "internal_error"

/-- The attempts of each command, in the order in which they were first made. -/
abbrev Attempts := List (Text × Nat)

/-- `maxRetainedTestAttemptKeys`. -/
def maxRetainedTestAttemptKeys : Nat := 1024

/-- `attempts.set(key, count)`. -/
def Attempts.set (attempts : Attempts) (key : Text) (count : Nat) : Attempts :=
  if attempts.any fun entry => entry.1 = key then
    attempts.map fun entry => if entry.1 = key then (key, count) else entry
  else attempts ++ [(key, count)]

/-- `recordTestAttempt`: the number of the attempt, and the attempts with it. -/
def recordTestAttempt (attempts : Attempts) (key : Text) : Nat × Attempts :=
  let known := attempts.any fun entry => entry.1 = key
  let retained :=
    if !known && decide (maxRetainedTestAttemptKeys ≤ attempts.length) then attempts.tail
    else attempts
  let next := (List.lookup key retained).getD 0 + 1
  (next, Attempts.set retained key next)

/-- A request of `POST /spike/commands` whose body was parsed, with the identifier that
the server draws for a change event. -/
structure CommandRequest where
  binding : ReplicaBinding
  credential : Text
  command : SpikeCommand
  eventId : Uuid

/-- `attemptKey`. -/
def attemptKey (userId : Uuid) (request : CommandRequest) : Text :=
  userId ++ 58 :: (request.binding.replicaId ++ 58 ::
    (decimal request.binding.replicaEpoch ++ 58 :: request.command.commandId))

/-- The server between two requests: its memory and the database. -/
structure Server where
  attempts : Attempts
  db : Database

/-- `POST /spike/commands`, for a user whose token was verified. -/
def postCommand (platform : Platform) (userId : Uuid) (request : CommandRequest) (server : Server) :
    HttpResponse × Server :=
  let rate := serve (commandServer platform)
    (.rateWindow userId request.binding request.credential) server.db
  match rate.1 with
  | .error failure => (refusalResponse failure, ⟨server.attempts, rate.2⟩)
  | .ok _ =>
    let attempt := recordTestAttempt server.attempts (attemptKey userId request)
    let outcome := serve (commandServer platform) (.command userId request.binding
      request.credential request.command attempt.1 request.eventId) rate.2
    match outcome.1 with
    | .error failure => (refusalResponse failure, ⟨attempt.2, outcome.2⟩)
    | .ok reply => (commandResponse reply, ⟨attempt.2, outcome.2⟩)

/-- Command requests of one user, one after another. -/
def postCommands (platform : Platform) (userId : Uuid) :
    List CommandRequest → Server → List HttpResponse × Server
  | [], server => ([], server)
  | request :: requests, server =>
    let first := postCommand platform userId request server
    let rest := postCommands platform userId requests first.2
    (first.1 :: rest.1, rest.2)

end Responses

section Indistinguishability

/-- The keys of a resource and of its tombstone. -/
def Key.ofResource : Key → Option Uuid
  | .resource id => some id
  | .marker id => some id
  | _ => none

/-- Two databases differ at most in resources and tombstones that are hidden from a user,
and in grants that change nothing for the user. Hidden resources are such to which the
user has no active grant. -/
structure Indistinguishable (userId : Uuid) (hidden : Uuid → Prop) (left right : Database) : Prop where
  elsewhere : ∀ key, key ≠ .syncGrants → (∀ id, key.ofResource = some id → ¬ hidden id) →
    left.lookup key = right.lookup key
  grants : ∀ id, granted left userId id = granted right userId id
  ungranted : ∀ id, hidden id → granted left userId id = false

namespace Indistinguishable

variable {userId : Uuid} {hidden : Uuid → Prop} {left right : Database}

/-- The same writes, none of them to the grants, keep databases indistinguishable. -/
theorem applied (alike : Indistinguishable userId hidden left right) (writes : List (Write Row))
    (kept : ∀ write ∈ writes, write.key ≠ Key.syncGrants) :
    Indistinguishable userId hidden (applyAll writes left) (applyAll writes right) := by
  have same : ∀ db : Database, ∀ id, granted (applyAll writes db) userId id = granted db userId id := by
    intro db id
    rw [granted, granted, lookup_applyAll_untouched writes db _ kept]
  constructor
  case elsewhere =>
    intro key other visible
    exact lookup_applyAll_congr writes left right key (alike.elsewhere key other visible)
  case grants =>
    intro id
    rw [same left, same right]
    exact alike.grants id
  case ungranted =>
    intro id concealed
    rw [same left]
    exact alike.ungranted id concealed

/-- The rows of the other tables are the same. -/
theorem other (alike : Indistinguishable userId hidden left right) (key : Key)
    (table : key ≠ .syncGrants) (row : key.ofResource = none) :
    left.lookup key = right.lookup key :=
  alike.elsewhere key table (by simp [row])

/-- The rows of a resource that is not hidden are the same. -/
theorem visible (alike : Indistinguishable userId hidden left right) (key : Key) (id : Uuid)
    (row : key.ofResource = some id) (shown : ¬ hidden id) :
    left.lookup key = right.lookup key := by
  refine alike.elsewhere key ?_ ?_
  · rintro rfl
    cases row
  · intro found same
    obtain rfl := Option.some.inj (row.symm.trans same)
    exact shown

end Indistinguishable

end Indistinguishability

section Statements

/-- The statements of command requests, as far as they concern resources that are not
hidden. -/
def Visible (hidden : Uuid → Prop) : Op → Prop
  | .lockReplica _ | .countRequest _ _ | .acquireGrantReadLock | .refreshReplica _
  | .selectReceipt _ _ | .insertReceiptOrNothing _ _ _ | .insertReceipt _ _ _
  | .insertChangeEvent _ _ _ _ _ _ _ => True
  | .lockResource id | .updateResource id _ _ | .evaluateSoftDelete id
  | .writeSoftDelete id _ _ => ¬ hidden id
  | _ => False

/-- A scan for change events finds something in both of two indistinguishable databases
or in neither. -/
theorem Indistinguishable.changeEvents {userId : Uuid} {hidden : Uuid → Prop}
    {left right : Database} (alike : Indistinguishable userId hidden left right)
    (actor commandId : Uuid) (ordinal : Nat) :
    collect (eventAt actor commandId ordinal) left ≠ [] ↔
      collect (eventAt actor commandId ordinal) right ≠ [] := by
  have found := collect_perm (eventAt actor commandId ordinal) left right (by
    intro key row picked
    cases key with
    | changeEvent id => exact alike.other _ (by simp) rfl
    | _ => simp [eventAt] at picked)
  rw [not_iff_not]
  constructor
  · intro empty
    exact List.nil_perm.mp (empty ▸ found)
  · intro empty
    exact List.perm_nil.mp (empty ▸ found)

/-- Each of these statements does the same on indistinguishable databases. -/
theorem visible_execute (userId : Uuid) (hidden : Uuid → Prop) (left right : Database)
    (alike : Indistinguishable userId hidden left right) (op : Op) (shown : Visible hidden op) :
    execute op left = execute op right := by
  have state : left.lookup Key.retentionState = right.lookup Key.retentionState :=
    alike.other _ (by simp) rfl
  have replicas : ∀ id, left.lookup (Key.replica id) = right.lookup (Key.replica id) :=
    fun id => alike.other _ (by simp) rfl
  have receipts : ∀ user id, left.lookup (Key.receipt user id) = right.lookup (Key.receipt user id) :=
    fun user id => alike.other _ (by simp) rfl
  cases op with
  | lockReplica replicaId => simp only [execute, replicas, state]
  | countRequest replicaId replicaEpoch =>
    have windows : left.lookup (Key.rateWindow replicaId) = right.lookup (Key.rateWindow replicaId) :=
      alike.other _ (by simp) rfl
    simp only [execute, withState, state, windows]
  | acquireGrantReadLock => rfl
  | refreshReplica replicaId => simp only [execute, replicas, state]
  | selectReceipt user commandId => simp only [execute, receipts]
  | insertReceiptOrNothing user commandId row => simp only [execute, receipts]
  | lockResource id => simp only [execute, alike.visible (Key.resource id) id rfl shown]
  | insertReceipt user commandId row => simp only [execute, receipts]
  | updateResource id payload version =>
    simp only [execute, alike.visible (Key.resource id) id rfl shown]
  | evaluateSoftDelete id =>
    simp only [execute, withState, state, alike.visible (Key.resource id) id rfl shown]
  | writeSoftDelete id version deletedAt =>
    simp only [execute, withState, state, alike.visible (Key.resource id) id rfl shown,
      alike.visible (Key.marker id) id rfl shown]
  | insertChangeEvent id user commandId resourceId ordinal type resultingVersion =>
    have events : left.lookup (Key.changeEvent id) = right.lookup (Key.changeEvent id) :=
      alike.other _ (by simp) rfl
    simp only [execute, events, alike.changeEvents user commandId ordinal]
  | _ => exact shown.elim

/-- None of these statements writes to the grants. -/
theorem visible_writes (hidden : Uuid → Prop) (db : Database) (op : Op) (shown : Visible hidden op)
    (answer : Res op) (writes : List (Write Row)) (locks : Locks Key Name)
    (ran : execute op db = .ran answer writes locks) :
    ∀ write ∈ writes, write.key ≠ Key.syncGrants := by
  cases op with
  | lockReplica replicaId => simp [(ran_lockReplica db _ _ _ _ ran).1]
  | countRequest replicaId replicaEpoch =>
    rcases ran_countRequest db _ _ _ _ _ ran with ⟨_, rfl⟩ | ⟨window, rfl⟩
    · simp
    · simp [Write.key]
  | acquireGrantReadLock => simp [(ran_acquireGrantReadLock db _ _ _ ran).1]
  | refreshReplica replicaId => simp [ran_refreshReplica db _ _ _ _ ran]
  | selectReceipt user commandId => simp [(ran_selectReceipt db _ _ _ _ _ ran).1]
  | insertReceiptOrNothing user commandId row =>
    rcases ran_insertReceiptOrNothing db _ _ _ _ _ _ ran with ⟨_, rfl⟩ | ⟨_, rfl⟩
    · simp
    · simp [Write.key]
  | lockResource id => simp [(ran_lockResource db _ _ _ _ ran).1]
  | insertReceipt user commandId row => simp [(ran_insertReceipt db _ _ _ _ _ _ ran).2, Write.key]
  | updateResource id payload version =>
    rcases ran_updateResource db _ _ _ _ _ _ ran with ⟨_, rfl⟩ | ⟨row, positive, _, rfl⟩
    · simp
    · simp [Write.key]
  | evaluateSoftDelete id => simp [(ran_evaluateSoftDelete db _ _ _ _ ran).1]
  | writeSoftDelete id version deletedAt =>
    rcases ran_writeSoftDelete db _ _ _ _ _ _ ran with
      ⟨_, rfl⟩ | ⟨row, final, _, ⟨_, rfl⟩ | ⟨_, state, _, _, rfl⟩⟩
    · simp
    · simp [Write.key]
    · simp [Write.key]
  | insertChangeEvent id user commandId resourceId ordinal type resultingVersion =>
    obtain ⟨_, row, _, _, _, _, rfl⟩ := ran_insertChangeEvent db _ _ _ _ _ _ _ _ _ _ ran
    simp [Write.key]
  | _ => exact shown.elim

variable (platform : Platform) (userId : Uuid) (hidden : Uuid → Prop)

/-- These statements are blind to what is hidden. -/
theorem visible_blind (op : Op) (shown : Visible hidden op) :
    BlindStatement (commandServer platform) (Indistinguishable userId hidden) op := by
  intro left right alike
  refine ⟨visible_execute userId hidden left right alike op shown, ?_⟩
  intro answer writes locks ran
  exact alike.applied writes (visible_writes hidden left op shown answer writes locks ran)

/-- Whether the user has an active grant is not hidden from the user. -/
theorem selectActiveGrant_blind (resourceId : Uuid) :
    BlindStatement (commandServer platform) (Indistinguishable userId hidden)
      (.selectActiveGrant userId resourceId) := by
  intro left right alike
  have same : execute (.selectActiveGrant userId resourceId) left =
      execute (.selectActiveGrant userId resourceId) right :=
    congrArg answered (alike.grants resourceId)
  refine ⟨same, ?_⟩
  intro answer writes locks ran
  obtain ⟨rfl, _⟩ := ran_selectActiveGrant left userId resourceId answer writes locks ran
  exact alike

end Statements

section Programs

variable (platform : Platform) (userId : Uuid) (hidden : Uuid → Prop)

/-- `lockReplica` asks for the row of the replica only. -/
theorem lockReplica_visible (binding : ReplicaBinding) (credential : Text) :
    (lockReplica platform userId binding credential).Only (Visible hidden) := by
  simp only [lockReplica, Program.ask_bind]
  refine ⟨trivial, fun found => ?_⟩
  cases found with
  | none => trivial
  | some locked =>
    dsimp only
    split <;> trivial

/-- The rate window says nothing about resources. -/
theorem consumeCommandRateWindow_visible (binding : ReplicaBinding) (credential : Text) :
    (consumeCommandRateWindow platform userId binding credential).Only (Visible hidden) := by
  refine Program.only_bind _ _ _ (lockReplica_visible platform userId hidden binding credential) ?_
  intro replica
  cases replica with
  | none => trivial
  | some locked =>
    simp only [Program.ask_bind]
    split
    · trivial
    · refine ⟨trivial, fun count => ?_⟩
      cases count <;> trivial

/-- A denial asks for the receipt only. -/
theorem denyCommand_visible (binding : ReplicaBinding) (command : SpikeCommand)
    (attemptNumber : Nat) :
    (denyCommand platform userId binding command attemptNumber).Only (Visible hidden) := by
  simp only [denyCommand, Program.ask_bind]
  refine ⟨trivial, fun receipt => ?_⟩
  cases receipt with
  | some row =>
    dsimp only
    split <;> trivial
  | none =>
    refine ⟨trivial, fun _ => ⟨trivial, fun stored => ?_⟩⟩
    cases stored with
    | none => trivial
    | some row =>
      dsimp only
      split <;> trivial

/-- A granted command asks for its own resource only, besides receipts and events. -/
theorem settleCommand_visible (binding : ReplicaBinding) (command : SpikeCommand)
    (attemptNumber : Nat) (eventId : Uuid) (shown : ¬ hidden command.resourceId) :
    (settleCommand platform userId binding command attemptNumber eventId).Only (Visible hidden) := by
  have updates : ∀ version, (updateTarget command version).Only (Visible hidden) := by
    intro version
    cases kind : command.kind with
    | update payload =>
      simp only [updateTarget, kind, Program.only_ask]
      exact shown
    | softDelete =>
      simp only [updateTarget, kind]
      refine ⟨shown, fun evaluated => ?_⟩
      cases evaluated with
      | none => trivial
      | some pair => exact ⟨shown, fun _ => trivial⟩
  simp only [settleCommand, refuseCommand, applyCommand, Program.ask_bind]
  refine ⟨shown, fun found => ?_⟩
  cases found with
  | none => trivial
  | some resource =>
    refine ⟨trivial, fun receipt => ?_⟩
    cases receipt with
    | some row =>
      dsimp only
      split <;> trivial
    | none =>
      dsimp only
      split
      · exact ⟨trivial, fun _ => trivial⟩
      · split
        · exact ⟨trivial, fun _ => trivial⟩
        · refine Program.only_bind _ _ _ (updates _) fun _ => ?_
          exact ⟨trivial, fun _ => ⟨trivial, fun _ => trivial⟩⟩

/-- A command is blind: its resource is asked for only after the grant was found, and a
resource with an active grant is not hidden. -/
theorem executeCommands_blind (binding : ReplicaBinding) (credential : Text)
    (command : SpikeCommand) (attemptNumber : Nat) (eventId : Uuid) :
    Blind (commandServer platform) (Indistinguishable userId hidden)
      (executeCommands platform userId binding credential command attemptNumber eventId) := by
  have blind := visible_blind platform userId hidden
  refine blind_bind _ _ _ _ (blind_only _ _ _ blind _
    (lockReplica_visible platform userId hidden binding credential)) ?_
  intro replica
  cases replica with
  | none => trivial
  | some locked =>
    simp only [Program.ask_bind]
    refine ⟨blind _ trivial, fun _ _ _ _ _ _ _ => ⟨blind _ trivial, ?_⟩⟩
    intro _ _ stale _ _ _ _
    dsimp only
    split
    · trivial
    · refine ⟨selectActiveGrant_blind platform userId hidden command.resourceId, ?_⟩
      intro left right hasActiveGrant writes locks alike ran
      obtain ⟨_, decided⟩ := ran_selectActiveGrant left _ _ hasActiveGrant writes locks ran
      cases hasActiveGrant with
      | false =>
        exact blind_only _ _ _ blind _
          (denyCommand_visible platform userId hidden binding command attemptNumber)
      | true =>
        have shown : ¬ hidden command.resourceId := by
          intro concealed
          have refused := alike.ungranted command.resourceId concealed
          rw [granted, ← decided] at refused
          cases refused
        exact blind_only _ _ _ blind _
          (settleCommand_visible platform userId hidden binding command attemptNumber eventId shown)

end Programs

section Callers

variable (platform : Platform) (userId : Uuid) (hidden : Uuid → Prop)

/-- One command request is answered the same on indistinguishable databases. -/
theorem postCommand_blind (request : CommandRequest) (attempts : Attempts) (left right : Database)
    (alike : Indistinguishable userId hidden left right) :
    ∃ response recorded after other,
      postCommand platform userId request ⟨attempts, left⟩ = (response, ⟨recorded, after⟩) ∧
      postCommand platform userId request ⟨attempts, right⟩ = (response, ⟨recorded, other⟩) ∧
      Indistinguishable userId hidden after other := by
  have rates := blind_serve (commandServer platform) (Indistinguishable userId hidden)
    (.rateWindow userId request.binding request.credential)
    (blind_only _ _ _ (visible_blind platform userId hidden) _
      (consumeCommandRateWindow_visible platform userId hidden request.binding request.credential))
    left right alike
  simp only [postCommand]
  cases rate : (serve (commandServer platform)
      (.rateWindow userId request.binding request.credential) left).1 with
  | error failure =>
    have also := rates.1.symm.trans rate
    simp only [also]
    exact ⟨_, _, _, _, rfl, rfl, rates.2⟩
  | ok reply =>
    have also := rates.1.symm.trans rate
    have outcomes := blind_serve (commandServer platform) (Indistinguishable userId hidden)
      (.command userId request.binding request.credential request.command
        (recordTestAttempt attempts (attemptKey userId request)).1 request.eventId)
      (executeCommands_blind platform userId hidden _ _ _ _ _) _ _ rates.2
    simp only [also]
    rw [outcomes.1]
    split
    · exact ⟨_, _, _, _, rfl, rfl, outcomes.2⟩
    · exact ⟨_, _, _, _, rfl, rfl, outcomes.2⟩

/-- So is every sequence of command requests. -/
theorem postCommands_blind (requests : List CommandRequest) (attempts : Attempts)
    (left right : Database) (alike : Indistinguishable userId hidden left right) :
    ∃ responses recorded after other,
      postCommands platform userId requests ⟨attempts, left⟩ = (responses, ⟨recorded, after⟩) ∧
      postCommands platform userId requests ⟨attempts, right⟩ = (responses, ⟨recorded, other⟩) ∧
      Indistinguishable userId hidden after other := by
  induction requests generalizing attempts left right with
  | nil => exact ⟨[], attempts, left, right, rfl, rfl, alike⟩
  | cons request requests inductionHypothesis =>
    obtain ⟨response, recorded, middle, between, one, two, kept⟩ :=
      postCommand_blind platform userId hidden request attempts left right alike
    obtain ⟨responses, counted, after, other, rest, also, still⟩ :=
      inductionHypothesis recorded middle between kept
    refine ⟨response :: responses, counted, after, other, ?_, ?_, still⟩
    · simp only [postCommands, one, rest]
    · simp only [postCommands, two, also]

/-- A user cannot tell two databases apart that differ in what is hidden from the user.
The transaction of a command, whatever resource it names, is answered the same in both
and leaves the same receipts; and so is every sequence of command requests over HTTP,
replays among them. -/
theorem unauthorised_callers_learn_nothing (left right : Database)
    (alike : Indistinguishable userId hidden left right) :
    (∀ (binding : ReplicaBinding) (credential : Text) (command : SpikeCommand)
        (attemptNumber : Nat) (eventId : Uuid),
      let request := Request.command userId binding credential command attemptNumber eventId
      let one := serve (commandServer platform) request left
      let two := serve (commandServer platform) request right
      one.1 = two.1 ∧ (∀ user commandId, one.2.lookup (Key.receipt user commandId) =
        two.2.lookup (Key.receipt user commandId)) ∧
          Indistinguishable userId hidden one.2 two.2) ∧
    ∀ (requests : List CommandRequest) (attempts : Attempts),
      let one := postCommands platform userId requests ⟨attempts, left⟩
      let two := postCommands platform userId requests ⟨attempts, right⟩
      one.1 = two.1 ∧ (∀ user commandId, one.2.db.lookup (Key.receipt user commandId) =
        two.2.db.lookup (Key.receipt user commandId)) ∧
          Indistinguishable userId hidden one.2.db two.2.db := by
  constructor
  · intro binding credential command attemptNumber eventId
    obtain ⟨replies, kept⟩ := blind_serve (commandServer platform)
      (Indistinguishable userId hidden) (.command userId binding credential command attemptNumber
        eventId) (executeCommands_blind platform userId hidden _ _ _ _ _) left right alike
    exact ⟨replies, fun user commandId => kept.other _ (by simp) rfl, kept⟩
  · intro requests attempts
    obtain ⟨responses, recorded, after, other, one, two, kept⟩ :=
      postCommands_blind platform userId hidden requests attempts left right alike
    simp only [one, two]
    exact ⟨trivial, fun user commandId => kept.other _ (by simp) rfl, kept⟩

end Callers

namespace Sample

/-- A resource without any grant. -/
def secret : Uuid := ascii "88888888-8888-4888-8888-888888888888"

/-- The database with that resource. -/
def guarded : Database :=
  shared.insert (Key.resource secret) ⟨incarnationId, some (ascii "secret"), 7, none, by decide⟩

/-- The user of the sample replica cannot tell it from the one without. -/
theorem guarded_indistinguishable :
    Indistinguishable userId (fun id => id = secret) guarded shared where
  elsewhere key _ visible := by
    refine AList.lookup_insert_ne ?_
    rintro rfl
    exact visible secret rfl rfl
  grants id := by
    rw [granted, granted, guarded, AList.lookup_insert_ne (by simp)]
  ungranted id concealed := by
    subst concealed
    decide

/-- An update of the resource, with a guessed incarnation and version. -/
def guess : CommandRequest where
  binding := binding
  credential := credential
  command :=
    { commandId := ascii "99999999-9999-4999-8999-999999999999"
      kind := .update (ascii "text")
      resourceId := secret
      resourceIncarnationId := incarnationId
      expectedRecordVersion := 7 }
  eventId := ascii "77777777-7777-4777-8777-777777777777"

end Sample

/-- A guess that is right and one that is wrong are both denied, also when it is repeated. -/
theorem unauthorised_callers_learn_nothing_guess :
    (postCommands Sample.platform Sample.userId [Sample.guess, Sample.guess]
        ⟨[], Sample.guarded⟩).1.map HttpResponse.status = [403, 403] ∧
      (postCommands Sample.platform Sample.userId [Sample.guess, Sample.guess]
        ⟨[], Sample.guarded⟩).1 =
      (postCommands Sample.platform Sample.userId [Sample.guess, Sample.guess]
        ⟨[], Sample.shared⟩).1 :=
  ⟨by decide +kernel,
    ((unauthorised_callers_learn_nothing Sample.platform Sample.userId _ Sample.guarded
      Sample.shared Sample.guarded_indistinguishable).2 [Sample.guess, Sample.guess] []).1⟩

end TraxOs.PowerSync
