import TraxOs.Web.Retries

/-!
# Retries are harmless

The server and the repository are the two sides of an exchange of updates. A journey that
row security shows is an entry with its version, a receipt is a verdict, and what the
repository has loaded is a reading. Every step of a world is a move of its exchange, or
leaves it as it is. What the invariant of an exchange says therefore holds of every world.
-/

namespace TraxOs.Web

open TraxOs.Theory
open TraxOs.Api (Uuid Text Platform Credentials Failure Reply Scope StoredJourney JourneyValues
  JourneyUpdateCommand plainApi receiptIn statusAndCode visibleJourney findSession SameIdentities)

/-! ## The exchange of a world -/

/-- What a stored journey shows. -/
def rowShown (row : StoredJourney) : Nat × JourneyValues :=
  (row.1.recordVersion, ⟨row.1.name, row.1.startDate, row.1.endDate, row.1.status⟩)

/-- What a loaded journey shows. -/
def journeyShown (journey : ServerJourney) : Nat × JourneyValues :=
  (journey.recordVersion, ⟨journey.name, journey.startDate, journey.endDate, journey.status⟩)

/-- What the server stores for an update: it strips the name. -/
def written (signature : UpdateSignature) : JourneyValues :=
  ⟨Api.strip signature.name, signature.startDate, signature.endDate, signature.status⟩

/-- The journeys that a scope shows. -/
def entriesIn (db : Api.Database) (scope : Scope) (id : Uuid) : Option (Nat × JourneyValues) :=
  (visibleJourney db scope id).map rowShown

/-- The verdict of a receipt. -/
def verdictOf (receipt : Api.CommandReceipt) : Verdict :=
  if (Api.raisedAfterCommit receipt.outcome).isNone then .applied else .refused

/-- The verdicts of the receipts. -/
def verdictsIn (db : Api.Database) (scope : Scope) (commandId : Uuid) : Option Verdict :=
  (receiptIn db scope commandId).map verdictOf

/-- The journeys of a list. -/
def readIn (journeys : List ServerJourney) (id : Uuid) : Option (Nat × JourneyValues) :=
  (journeys.find? fun journey => journey.id == id).map journeyShown

/-- A request for an update as an update. -/
def SentUpdate.update (sent : SentUpdate) : Update Uuid Uuid UpdateSignature :=
  ⟨sent.commandId, sent.change.journey.id, sent.change.old.recordVersion, sent.signature⟩

/-- A pending request as an update. -/
def PendingUpdate.update (id : Uuid) (pending : PendingUpdate) : Update Uuid Uuid UpdateSignature :=
  ⟨pending.commandId, id, pending.signature.expectedRecordVersion, pending.signature⟩

/-- The reading of a load that is under way. -/
def Activity.reading : Activity → Option (Uuid → Option (Nat × JourneyValues))
  | .loading journeys => some (readIn (journeys.map journeyFrom))
  | _ => none

/-- The exchange that a world is, for the scope of its session. -/
def World.exchange (scope : Scope) (world : World) :
    Exchange Uuid Uuid UpdateSignature JourneyValues where
  entries := entriesIn world.db scope
  verdicts := verdictsIn world.db scope
  known := readIn world.current.journeys
  reading := world.activity.reading
  pending id := (world.pending id).map (PendingUpdate.update id)
  earlier := (world.sent.take world.before).map SentUpdate.update
  since := (world.sent.drop world.before).map SentUpdate.update

/-- Everything that was sent was asked for. -/
theorem asked_exchange (scope : Scope) (world : World) :
    (world.exchange scope).asked = world.sent.map SentUpdate.update := by
  rw [Exchange.asked, World.exchange, ← List.map_append, List.take_append_drop]

/-! ## Plans and commands -/

/-- A change of a plan is one of its updates. -/
theorem mem_changesOf (plan : List Planned) (changes : List Change)
    (consists : changesOf plan = some changes) (change : Change) (member : change ∈ changes) :
    .updateJourney change.old change.journey ∈ plan := by
  induction plan generalizing changes with
  | nil =>
    cases consists
    cases member
  | cons planned rest inductionHypothesis =>
    cases planned with
    | updateJourney old journey =>
      simp only [changesOf, Option.map_eq_some_iff] at consists
      obtain ⟨others, consists, rfl⟩ := consists
      rcases List.mem_cons.mp member with rfl | member
      · exact List.mem_cons_self
      · exact List.mem_cons_of_mem _ (inductionHypothesis others consists member)
    | _ => cases consists

/-- A change replaces a journey of the last load. -/
theorem change_loaded (previous next : ServerData) (changes : List Change)
    (consists : changesOf (savePlan previous next) = some changes) (change : Change)
    (member : change ∈ changes) :
    previous.journeys.find? (fun old => old.id == change.journey.id) = some change.old := by
  have planned := mem_changesOf _ changes consists change member
  simp only [savePlan, deletedJourneys, deletedSegments, deletedItems, List.mem_append,
    List.mem_map, List.mem_flatMap, reduceCtorEq, and_false, exists_false, false_or, or_false,
    reorderRequests, Option.mem_toList, Option.map_eq_some_iff] at planned
  rcases planned with ((⟨journey, _, planned⟩ | ⟨segment, _, planned⟩)) | ⟨item, _, planned⟩
  · unfold journeyRequests at planned
    split at planned
    · cases List.mem_singleton.mp planned
    · next old found =>
      split at planned
      · cases List.mem_singleton.mp planned
        exact found
      · cases planned
  · unfold segmentRequests at planned
    split at planned
    · cases List.mem_singleton.mp planned
    · split at planned
      · cases List.mem_singleton.mp planned
      · cases planned
  · unfold packingRequests at planned
    split at planned
    · cases List.mem_singleton.mp planned
    · split at planned
      · cases List.mem_singleton.mp planned
      · split at planned
        · cases List.mem_singleton.mp planned
        · cases planned

/-- The command of an update says what was asked for. -/
theorem updateCommand_some (commandId : Uuid) (commandVersion : Nat) (old journey : ServerJourney)
    (call : Api.Call) (made : updateCommand commandId commandVersion old journey = some call) :
    ∃ command : JourneyUpdateCommand, call = .journeyUpdateCommand command ∧
      command.commandId = commandId ∧ command.payload.journeyId = journey.id ∧
        command.payload.expectedRecordVersion = old.recordVersion ∧
          Api.journeyValues command.payload.toJourneyUpdate =
            written (updateSignature commandVersion old journey) := by
  unfold updateCommand updatePayload journeyInput at made
  simp only [Option.bind_eq_some_iff, Option.dite_none_right_eq_some, Option.some.injEq] at made
  obtain ⟨payload, ⟨input, ⟨_, rfl⟩, _, rfl⟩, _, rfl⟩ := made
  exact ⟨_, rfl, rfl, rfl, rfl, rfl⟩

/-! ## What serving a request moves -/

section Serving

variable {platform : Platform} {scope : Scope} {command : JourneyUpdateCommand}
  {db after : Api.Database} {reply : Except Failure Reply}

/-- A journey is visible as long as it and the membership stay. -/
theorem visibleJourney_same (left right : Api.Database) (id : Uuid)
    (journey : left.lookup (Api.Key.journey id) = right.lookup (Api.Key.journey id))
    (membership : left.lookup (Api.Key.membership scope.workspaceId scope.userId) =
      right.lookup (Api.Key.membership scope.workspaceId scope.userId)) :
    visibleJourney left scope id = visibleJourney right scope id := by
  unfold visibleJourney Api.isMember
  rw [journey, membership]

/-- Serving a command keeps what is known of people. -/
theorem outcomes_identities (outcomes : Api.Outcomes platform scope command db reply after) :
    SameIdentities db after := by
  cases outcomes with
  | applied _ _ _ _ _ _ _ _ _ _ _ _ _ _ _ _ _ spared =>
    intro key identity
    refine (spared key ?_).symm
    intro among
    simp only [List.mem_cons, List.not_mem_nil, or_false] at among
    rcases among with rfl | rfl | rfl | rfl <;> cases identity
  | refused _ _ _ _ _ _ =>
    intro key identity
    rw [AList.lookup_insert_ne]
    rintro rfl
    cases identity
  | _ => exact fun _ _ => rfl

/-- A receipt of the scope is never changed. -/
theorem outcomes_receipts (outcomes : Api.Outcomes platform scope command db reply after)
    (commandId : Uuid) :
    receiptIn after scope commandId = receiptIn db scope commandId ∨
      commandId = command.commandId ∧ receiptIn db scope commandId = none ∧
        ∃ receipt, receiptIn after scope commandId = some receipt ∧
          receipt.Records platform command := by
  by_cases own : commandId = command.commandId
  · subst own
    cases outcomes with
    | applied _ _ _ receipt _ _ _ _ _ unused _ _ _ _ recorded records =>
      exact Or.inr ⟨rfl, unused, receipt, recorded, records⟩
    | refused receipt _ unused _ records =>
      exact Or.inr ⟨rfl, unused, receipt, AList.lookup_insert _, records⟩
    | _ => exact Or.inl rfl
  · refine Or.inl ?_
    cases outcomes with
    | applied _ _ _ _ _ _ _ _ _ _ _ _ _ _ _ _ _ spared =>
      exact spared _ (by simp [own])
    | refused _ _ _ _ _ _ => exact AList.lookup_insert_ne (by simp [own])
    | _ => rfl

/-- A reply tells the verdict: a success, that the update is applied, and a conflict, that it
is refused. -/
structure Tells (db : Api.Database) (scope : Scope) (commandId : Uuid)
    (reply : Except Failure Reply) : Prop where
  success : succeeds reply = true → verdictsIn db scope commandId = some .applied
  conflict : (statusAndCode reply).1 = 409 → verdictsIn db scope commandId = some .refused
  version : (statusAndCode reply).1 = 409 → statusAndCode reply = (409, some "version_conflict")

/-- The only conflict that an outcome reports is one of versions. -/
theorem raised_conflict (outcome : Api.CommandOutcome) (error : Api.ApplicationError)
    (raised : Api.raisedAfterCommit outcome = some error) (conflict : error.statusCode = 409) :
    statusAndCode (.ok (.error error)) = (409, some "version_conflict") := by
  cases outcome <;> cases raised
  · rfl
  · cases conflict

/-- What the client is told is the verdict. -/
theorem outcomes_tell (outcomes : Api.Outcomes platform scope command db reply after)
    (records : ∀ receipt, receiptIn db scope command.commandId = some receipt →
      receipt.Records platform command) : Tells after scope command.commandId reply := by
  cases outcomes with
  | failed failure other =>
    exact ⟨(fun success => by cases success), fun conflict => absurd conflict other,
      fun conflict => absurd conflict other⟩
  | clashed receipt found differs => exact absurd (records receipt found) differs
  | repeated receipt version changeSetId body found applied =>
    refine ⟨fun _ => ?_, (fun conflict => by cases conflict), (fun conflict => by cases conflict)⟩
    rw [verdictsIn, found, Option.map_some, verdictOf, applied]
    rfl
  | refusedBefore receipt error found raised =>
    refine ⟨(fun success => by cases success), fun _ => ?_, raised_conflict _ error raised⟩
    rw [verdictsIn, found, Option.map_some, verdictOf, raised]
    rfl
  | applied _ _ _ receipt _ _ _ _ _ _ _ _ _ _ recorded _ outcome =>
    refine ⟨fun _ => ?_, (fun conflict => by cases conflict), (fun conflict => by cases conflict)⟩
    rw [verdictsIn, recorded, Option.map_some, verdictOf, outcome]
    rfl
  | refused receipt error _ _ _ raised =>
    refine ⟨(fun success => by cases success), fun _ => ?_, raised_conflict _ error raised⟩
    rw [verdictsIn, receiptIn, AList.lookup_insert, Option.map_some, verdictOf, raised]
    rfl

/-- A verdict is never changed. -/
theorem outcomes_verdicts (outcomes : Api.Outcomes platform scope command db reply after)
    (commandId : Uuid) (verdict : Verdict)
    (decided : verdictsIn db scope commandId = some verdict) :
    verdictsIn after scope commandId = some verdict := by
  rcases outcomes_receipts outcomes commandId with same | ⟨_, unused, _⟩
  · rw [verdictsIn, same]
    exact decided
  · rw [verdictsIn, unused] at decided
    cases decided

/-- The entries and the verdicts after a command: as they were, or with the update applied,
or with its refusal. -/
theorem outcomes_entries (outcomes : Api.Outcomes platform scope command db reply after) :
    (entriesIn after scope = entriesIn db scope ∧ verdictsIn after scope = verdictsIn db scope) ∨
      (verdictsIn db scope command.commandId = none ∧
        (∃ content, entriesIn db scope command.payload.journeyId =
          some (command.payload.expectedRecordVersion, content)) ∧
        entriesIn after scope = Function.update (entriesIn db scope) command.payload.journeyId
          (some (command.payload.expectedRecordVersion + 1,
            Api.journeyValues command.payload.toJourneyUpdate)) ∧
        verdictsIn after scope =
          Function.update (verdictsIn db scope) command.commandId (some .applied)) ∨
      verdictsIn db scope command.commandId = none ∧
        (∀ content, entriesIn db scope command.payload.journeyId ≠
          some (command.payload.expectedRecordVersion, content)) ∧
        entriesIn after scope = entriesIn db scope ∧
        verdictsIn after scope =
          Function.update (verdictsIn db scope) command.commandId (some .refused) := by
  cases outcomes with
  | applied row stored now receipt version changeSetId eventId body _ unused seen current revised
      stores recorded _ outcome spared =>
    have member := ((Api.visibleJourney_some db scope _ row).mp seen).2
    have membership : after.lookup (Api.Key.membership scope.workspaceId scope.userId) =
        db.lookup (Api.Key.membership scope.workspaceId scope.userId) := spared _ (by simp)
    refine Or.inr (Or.inl ⟨?_, ⟨(rowShown row).2, ?_⟩, ?_, ?_⟩)
    · rw [verdictsIn, unused]
      rfl
    · rw [entriesIn, seen, Option.map_some, rowShown, current]
    · funext id
      by_cases own : id = command.payload.journeyId
      · subst own
        have shown : visibleJourney after scope command.payload.journeyId = some stored := by
          refine (Api.visibleJourney_some after scope _ stored).mpr ⟨stores, ?_, ?_⟩
          · rw [revised]
            exact member.1
          · rw [Api.isMember, membership]
            exact member.2
        rw [Function.update_self, entriesIn, shown, Option.map_some, rowShown, revised, ← current]
        rfl
      · rw [Function.update_of_ne own, entriesIn, entriesIn,
          visibleJourney_same after db id (spared _ (by simp [own])) membership]
    · funext id
      by_cases own : id = command.commandId
      · subst own
        rw [Function.update_self, verdictsIn, recorded, Option.map_some, verdictOf, outcome]
        rfl
      · rw [Function.update_of_ne own, verdictsIn, verdictsIn, receiptIn, spared _ (by simp [own])]
  | refused receipt error unused outdated records raised =>
    have journeys : ∀ id, visibleJourney (db.insert (Api.Key.receipt scope.workspaceId
        scope.userId command.commandId) receipt) scope id = visibleJourney db scope id :=
      fun id => visibleJourney_same _ _ id (AList.lookup_insert_ne (by simp))
        (AList.lookup_insert_ne (by simp))
    refine Or.inr (Or.inr ⟨?_, ?_, ?_, ?_⟩)
    · rw [verdictsIn, unused]
      rfl
    · intro content found
      obtain ⟨row, seen, shown⟩ := Option.map_eq_some_iff.mp found
      exact outdated row seen (congrArg Prod.fst shown)
    · funext id
      rw [entriesIn, entriesIn, journeys]
    · funext id
      by_cases own : id = command.commandId
      · subst own
        rw [Function.update_self, verdictsIn, receiptIn, AList.lookup_insert, Option.map_some,
          verdictOf, raised]
        rfl
      · rw [Function.update_of_ne own, verdictsIn, verdictsIn, receiptIn,
          AList.lookup_insert_ne (by simp [own])]
  | _ => exact Or.inl ⟨rfl, rfl⟩

end Serving

/-! ## What a load reads -/

/-- The listed journeys are as row security shows them. -/
theorem listed_shown (platform : Platform) (credentials : Credentials) (runtime : Api.Runtime)
    (db : Api.Database) (scope : Scope)
    (acts : ∀ context csrfHash,
      findSession db (platform.sha256 credentials.token) (runtime.clock 0) =
        some (context, csrfHash) → context.scope = scope)
    (journeys : List Api.JourneyResponse)
    (listed : (served platform credentials .listJourneys runtime db).1 = .ok (.journeys journeys)) :
    ∀ journey ∈ journeys, ∃ row, visibleJourney db scope journey.id = some row ∧
      journeyShown (journeyFrom journey) = rowShown row := by
  have program : (plainApi platform).program (.http credentials .listJourneys runtime) =
      (Api.authenticate platform runtime credentials >>= fun found => pure found.1) >>=
        fun context => Api.listJourneys context >>= fun items => pure (.journeys items) := rfl
  rw [served, serve, program, alone_bind, alone_bind, Api.authenticate_alone] at listed
  by_cases anonymous : credentials.token.isEmpty = true
  · rw [if_pos anonymous] at listed
    cases listed
  rw [if_neg anonymous] at listed
  cases found : findSession db (platform.sha256 credentials.token) (runtime.clock 0) with
  | none =>
    rw [found] at listed
    cases listed
  | some pair =>
    obtain rfl := acts pair.1 pair.2 found
    have scanned : (plainApi platform).execute (Api.Op.listJourneys pair.1.scope) db =
        .ran (if Api.isMember db pair.1.scope then
          sortBy Api.byRecency (collect (Api.journeyOf pair.1.scope.workspaceId) db) else []) []
            [] := rfl
    rw [found] at listed
    simp only [Api.listJourneys, Program.ask_bind, Program.perform_bind, Program.pure_eq,
      alone_done] at listed
    rw [alone_ran _ _ _ db _ _ _ scanned] at listed
    cases listed
    intro journey among
    obtain ⟨⟨id, row⟩, member, rfl⟩ := List.mem_map.mp among
    split at member
    · next belongs =>
      obtain ⟨key, stored, present, picked⟩ :=
        (mem_collect _ db _).mp ((mem_sortBy _ _ _).mp member)
      cases key with
      | journey other =>
        obtain ⟨inside, same⟩ := Option.ite_none_right_eq_some.mp picked
        cases same
        exact ⟨row, (Api.visibleJourney_some db _ id row).mpr ⟨present, inside, belongs⟩, rfl⟩
      | _ => cases picked
    · cases member

/-- A reading of listed journeys shows entries as they are. -/
theorem readIn_entries (db : Api.Database) (scope : Scope) (journeys : List Api.JourneyResponse)
    (shown : ∀ journey ∈ journeys, ∃ row, visibleJourney db scope journey.id = some row ∧
      journeyShown (journeyFrom journey) = rowShown row) (id : Uuid)
    (entry : Nat × JourneyValues)
    (read : readIn (journeys.map journeyFrom) id = some entry) :
    entriesIn db scope id = some entry := by
  obtain ⟨journey, found, rfl⟩ := Option.map_eq_some_iff.mp read
  have same : journey.id = id := by simpa using List.find?_some found
  obtain ⟨response, member, rfl⟩ := List.mem_map.mp (List.mem_of_find?_eq_some found)
  obtain ⟨row, visible, equal⟩ := shown response member
  rw [entriesIn, ← same, equal, show (journeyFrom response).id = response.id from rfl, visible]
  rfl

/-! ## The invariant of a world -/

/-- A session acts in a scope. -/
def SessionScope (db : Api.Database) (tokenHash : Text) (scope : Scope) : Prop :=
  ∀ now context csrfHash, findSession db tokenHash now = some (context, csrfHash) →
    context.scope = scope

/-- What holds of a world, for the scope of its session. -/
structure World.Sound (platform : Platform) (credentials : Credentials) (scope : Scope)
    (world : World) : Prop where
  acts : SessionScope world.db (platform.sha256 credentials.token) scope
  coherent : (world.exchange scope).Coherent written
  bounded : world.before ≤ world.sent.length
  recorded : ∀ sent ∈ world.sent, ∀ command, sent.call = some (.journeyUpdateCommand command) →
    ∀ receipt, receiptIn world.db scope sent.commandId = some receipt →
      receipt.Records platform command
  answered : ∀ entry ∈ world.replies, ∃ sent, world.sent[entry.1]? = some sent ∧
    Tells world.db scope sent.commandId entry.2
  planned : ∀ next finished rest awaiting, world.activity = .saving next finished rest awaiting →
    changesOf (savePlan world.current next) = some (finished ++ rest) ∧
      ∀ change ∈ finished, ∃ sent ∈ world.sent.drop world.before, sent.change = change ∧
        verdictsIn world.db scope sent.commandId = some .applied
  awaited : ∀ next finished rest index, world.activity = .saving next finished rest (some index) →
    ∃ sent remaining, rest = sent.change :: remaining ∧ world.before ≤ index ∧
      world.sent[index]? = some sent ∧
        world.pending sent.change.journey.id = some ⟨sent.commandId, sent.signature⟩

section Steps

variable {platform : Platform} {credentials : Credentials} {scope : Scope}

/-- A session belongs to one scope, whenever it is used. -/
theorem session_scope (db : Api.Database) (tokenHash : Text) :
    ∃ scope, SessionScope db tokenHash scope := by
  by_cases known : ∃ now context csrfHash, findSession db tokenHash now = some (context, csrfHash)
  · obtain ⟨now, context, csrfHash, found⟩ := known
    refine ⟨context.scope, fun later other otherHash again => ?_⟩
    have same : (context, csrfHash) = (other, otherHash) := by
      unfold findSession at found again
      split at found
      · cases found
      · next session stored =>
        simp only [stored] at again
        obtain ⟨_, found⟩ := Option.ite_none_right_eq_some.mp found
        obtain ⟨_, again⟩ := Option.ite_none_right_eq_some.mp again
        exact Option.some.inj (found.symm.trans again)
    rw [(Prod.mk.inj same).1]
  · refine ⟨⟨0, 0⟩, fun now context csrfHash found => absurd ⟨now, context, csrfHash, found⟩ known⟩

/-- Requests with one identifier and one signature have one call. -/
theorem call_same (left right : SentUpdate) (identifier : left.commandId = right.commandId)
    (signed : left.signature = right.signature) : left.call = right.call := by
  obtain ⟨_, _, old, journey⟩ := left
  obtain ⟨_, _, other, another⟩ := right
  simp only [SentUpdate.signature, updateSignature, UpdateSignature.mk.injEq] at identifier signed
  obtain ⟨rfl, sameId, sameName, sameStart, sameEnd, sameStatus, sameVersion⟩ := signed
  simp only [SentUpdate.call, updateCommand, updatePayload, journeyInput, identifier, sameId,
    sameName, sameStart, sameEnd, sameStatus, sameVersion]

variable {world : World}

/-- The request that a save makes is what a retry asks for. -/
theorem retry_makeUpdate (drawn : Uuid) (commandVersion : Nat) (change : Change) :
    (world.exchange scope).retry drawn change.journey.id change.old.recordVersion
        (updateSignature commandVersion change.old change.journey) =
      (world.makeUpdate drawn commandVersion change).update := by
  unfold Exchange.retry World.makeUpdate World.commandId
  simp only [World.exchange, SentUpdate.update, SentUpdate.signature]
  cases world.pending change.journey.id with
  | none => rfl
  | some existing =>
    simp only [Option.map_some, PendingUpdate.update]
    by_cases same : existing.signature = updateSignature commandVersion change.old change.journey
    · rw [if_pos same, if_pos same, same]
      rfl
    · rw [if_neg same, if_neg same]

/-- The pending requests after another one. -/
theorem pending_requested (next : ServerData) (finished rest : List Change) (change : Change)
    (sent : SentUpdate) (named : sent.change = change) :
    ((world.requested next finished change rest sent).exchange scope).pending =
      Function.update (world.exchange scope).pending sent.update.key (some sent.update) := by
  subst named
  funext id
  simp only [World.exchange, World.requested, SentUpdate.update]
  by_cases own : id = sent.change.journey.id
  · subst own
    simp only [Function.update_self]
    rfl
  · simp only [Function.update_of_ne own]

/-- A save that made a request awaits the reply to it. -/
theorem requested_activity (next other : ServerData) (finished done rest remaining : List Change)
    (change : Change) (sent : SentUpdate) (awaiting : Option Nat)
    (going : (world.requested next finished change rest sent).activity =
      .saving other done remaining awaiting) :
    other = next ∧ done = finished ∧ remaining = change :: rest ∧
      awaiting = some world.sent.length := by
  unfold World.requested at going
  split at going
  · cases going
    exact ⟨rfl, rfl, rfl, rfl⟩
  · cases going

namespace World.Sound

variable (sound : world.Sound platform credentials scope)

include sound

/-- A world is sound whatever it is about, if that says the truth about it. -/
theorem acting (activity : Activity)
    (coherent : Exchange.Coherent written
      { world.exchange scope with reading := activity.reading })
    (planned : ∀ next finished rest awaiting, activity = .saving next finished rest awaiting →
      changesOf (savePlan world.current next) = some (finished ++ rest) ∧
        ∀ change ∈ finished, ∃ sent ∈ world.sent.drop world.before, sent.change = change ∧
          verdictsIn world.db scope sent.commandId = some .applied)
    (awaited : ∀ next finished rest index, activity = .saving next finished rest (some index) →
      ∃ sent remaining, rest = sent.change :: remaining ∧ world.before ≤ index ∧
        world.sent[index]? = some sent ∧
          world.pending sent.change.journey.id = some ⟨sent.commandId, sent.signature⟩) :
    ({ world with activity := activity } : World).Sound platform credentials scope :=
  ⟨sound.acts, coherent, sound.bounded, sound.recorded, sound.answered, planned, awaited⟩

/-- Without a load under way, the exchange is as it was. -/
theorem unread : Exchange.Coherent written { world.exchange scope with reading := none } :=
  Exchange.moves_coherent _ _ (.overlooks _) sound.coherent

/-- A call may fail. -/
theorem idle : ({ world with activity := .idle } : World).Sound platform credentials scope :=
  sound.acting .idle sound.unread (fun _ _ _ _ impossible => by cases impossible)
    fun _ _ _ _ impossible => by cases impossible

/-- A save begins. -/
theorem saving (next : ServerData) (changes : List Change)
    (planned : changesOf (savePlan world.current next) = some changes) :
    ({ world with activity := .saving next [] changes none } : World).Sound platform credentials
      scope := by
  refine sound.acting _ sound.unread ?_ ?_
  · intro other finished rest awaiting same
    cases same
    exact ⟨planned, fun change member => by cases member⟩
  · intro other finished rest index same
    cases same

/-- A save hears of a success. -/
theorem heard (next : ServerData) (finished rest : List Change) (change : Change) (index : Nat)
    (reply : Except Failure Reply)
    (active : world.activity = .saving next finished (change :: rest) (some index))
    (answer : (index, reply) ∈ world.replies) (success : succeeds reply = true) :
    ({ world with activity := .saving next (finished ++ [change]) rest none } : World).Sound
      platform credentials scope := by
  obtain ⟨planned, told⟩ := sound.planned _ _ _ _ active
  obtain ⟨sent, remaining, same, later, found, _⟩ := sound.awaited _ _ _ _ active
  obtain ⟨again, there, tells⟩ := sound.answered _ answer
  obtain rfl := Option.some.inj (there.symm.trans found)
  cases same
  have among : again ∈ world.sent.drop world.before := by
    refine List.mem_of_getElem? (i := index - world.before) ?_
    rw [List.getElem?_drop, Nat.add_sub_cancel' later, found]
  refine sound.acting _ sound.unread ?_ ?_
  · intro other done remaining awaiting equal
    cases equal
    refine ⟨by rw [planned, List.append_assoc]; rfl, fun change member => ?_⟩
    rcases List.mem_append.mp member with member | member
    · exact told change member
    · obtain rfl := List.mem_singleton.mp member
      exact ⟨again, among, rfl, tells.success success⟩
  · intro other done remaining later equal
    cases equal

/-- A load lists the journeys. -/
theorem listing (runtime : Api.Runtime) (journeys : List Api.JourneyResponse)
    (listed : (served platform credentials .listJourneys runtime world.db).1 =
      .ok (.journeys journeys)) :
    ({ world with activity := .loading journeys } : World).Sound platform credentials scope := by
  have shown := listed_shown platform credentials runtime world.db scope
    (fun context csrfHash found => sound.acts _ context csrfHash found) journeys listed
  have looks : Exchange.Moves written (world.exchange scope)
      { world.exchange scope with reading := some (readIn (journeys.map journeyFrom)) } :=
    .looks _ _ (readIn_entries world.db scope journeys shown)
  refine sound.acting _ (Exchange.moves_coherent _ _ looks sound.coherent) ?_ ?_
  · intro other finished rest awaiting same
    cases same
  · intro other finished rest index same
    cases same

/-- A load is complete, or the page is loaded again. -/
theorem loaded (data : ServerData)
    (moves : Exchange.Moves written (world.exchange scope)
      ((world.exchange scope).reread (readIn data.journeys))) :
    (world.loaded data).Sound platform credentials scope := by
  have same : (world.loaded data).exchange scope =
      (world.exchange scope).reread (readIn data.journeys) := by
    have earlier : ((world.loaded data).exchange scope).earlier =
        (world.exchange scope).asked := by
      rw [asked_exchange]
      exact congrArg _ List.take_length
    have since : ((world.loaded data).exchange scope).since = [] :=
      congrArg (List.map SentUpdate.update) List.drop_length
    exact Exchange.ext rfl rfl rfl rfl rfl earlier since
  refine ⟨sound.acts, same ▸ Exchange.moves_coherent _ _ moves sound.coherent, Nat.le_refl _,
    sound.recorded, sound.answered, ?_, ?_⟩
  · intro other finished rest awaiting impossible
    cases impossible
  · intro other finished rest index impossible
    cases impossible

/-- A save makes its next request. -/
theorem requested (drawn : Uuid) (commandVersion : Nat) (next : ServerData)
    (finished rest : List Change) (change : Change)
    (active : world.activity = .saving next finished (change :: rest) none)
    (unused : ∀ sent ∈ world.sent, sent.commandId ≠ drawn)
    (unknown : receiptIn world.db scope drawn = none) :
    (world.requested next finished change rest
      (world.makeUpdate drawn commandVersion change)).Sound platform credentials scope := by
  obtain ⟨planned, told⟩ := sound.planned _ _ _ _ active
  set sent := world.makeUpdate drawn commandVersion change with made
  set after := world.requested next finished change rest sent with requested
  have among : change ∈ finished ++ change :: rest := List.mem_append_right _ List.mem_cons_self
  have known : (world.exchange scope).known change.journey.id =
      some (change.old.recordVersion, (journeyShown change.old).2) :=
    congrArg (Option.map journeyShown) (change_loaded _ _ _ planned change among)
  have settled : (world.exchange scope).reading = none := congrArg Activity.reading active
  have coming : after.sent.drop world.before = world.sent.drop world.before ++ [sent] :=
    List.drop_append_of_le_length sound.bounded
  have same : after.exchange scope = (world.exchange scope).ask sent.update := by
    refine Exchange.ext rfl rfl rfl ?_ ?_ ?_ ?_
    · refine Eq.trans ?_ settled.symm
      change Activity.reading (if sent.call.isSome then _ else _) = none
      split <;> rfl
    · exact pending_requested next finished rest change sent rfl
    · exact congrArg (List.map SentUpdate.update) (List.take_append_of_le_length sound.bounded)
    · exact (congrArg (List.map SentUpdate.update) coming).trans List.map_append
  have asks : Exchange.Moves written (world.exchange scope) (after.exchange scope) := by
    rw [same, made, ← retry_makeUpdate]
    refine .asks _ drawn _ _ _ _ settled known ?_ ?_
    · rw [asked_exchange]
      intro update member
      obtain ⟨earlier, among, rfl⟩ := List.mem_map.mp member
      exact unused earlier among
    · exact congrArg (Option.map verdictOf) unknown
  refine ⟨sound.acts, Exchange.moves_coherent _ _ asks sound.coherent, ?_, ?_, ?_, ?_, ?_⟩
  · exact Nat.le_trans sound.bounded (List.length_append ▸ Nat.le_add_right _ _)
  · intro other member command called receipt found
    rcases List.mem_append.mp member with member | member
    · exact sound.recorded other member command called receipt found
    · obtain rfl := List.mem_singleton.mp member
      have cases := Exchange.retry_cases (world.exchange scope) drawn change.journey.id
        change.old.recordVersion (updateSignature commandVersion change.old change.journey)
      rw [retry_makeUpdate, ← made] at cases
      rcases cases with ⟨repeated, _⟩ | ⟨new, _⟩
      · obtain ⟨earlier, among, equal⟩ :=
          List.mem_map.mp (sound.coherent.pending _ _ repeated).1
        obtain ⟨identifier, _, _, signed⟩ := Update.mk.inj equal
        refine sound.recorded earlier (List.mem_of_mem_drop among) command ?_ receipt ?_
        · rw [call_same earlier sent identifier signed, called]
        · rw [show earlier.commandId = sent.commandId from identifier]
          exact found
      · rw [show sent.commandId = drawn from congrArg Update.id new] at found
        cases unknown.symm.trans found
  · intro entry member
    obtain ⟨earlier, found, tells⟩ := sound.answered entry member
    refine ⟨earlier, (List.getElem?_append_left ?_).trans found, tells⟩
    exact (List.getElem?_eq_some_iff.mp found).1
  · intro other done remaining awaiting going
    obtain ⟨rfl, rfl, rfl, _⟩ := requested_activity _ _ _ _ _ _ _ _ _ going
    refine ⟨planned, fun change member => ?_⟩
    obtain ⟨earlier, among, same, decided⟩ := told change member
    exact ⟨earlier, coming ▸ List.mem_append_left _ among, same, decided⟩
  · intro other done remaining index going
    obtain ⟨_, _, rfl, same⟩ := requested_activity _ _ _ _ _ _ _ _ _ going
    cases same
    exact ⟨sent, rest, rfl, sound.bounded, List.getElem?_concat_length, Function.update_self _ _ _⟩

/-- A request is served, for the first time or again. -/
theorem delivered (index : Nat) (runtime : Api.Runtime) (sent : SentUpdate) (call : Api.Call)
    (there : world.sent[index]? = some sent) (called : sent.call = some call) :
    ({ world with
        db := (served platform credentials call runtime world.db).2
        replies := world.replies ++
          [(index, (served platform credentials call runtime world.db).1)] } : World).Sound
      platform credentials scope := by
  obtain ⟨command, rfl, identifier, journey, version, values⟩ := updateCommand_some _ _ _ _ _ called
  have outcomes : Api.Outcomes platform scope command world.db
      (served platform credentials (.journeyUpdateCommand command) runtime world.db).1
      (served platform credentials (.journeyUpdateCommand command) runtime world.db).2 :=
    Api.serve_outcomes credentials command scope
      fun context csrfHash found => sound.acts _ context csrfHash found
  generalize (served platform credentials (.journeyUpdateCommand command) runtime world.db) =
    outcome at outcomes
  obtain ⟨reply, after⟩ := outcome
  have member : sent ∈ world.sent := List.mem_of_getElem? there
  have asked : sent.update ∈ (world.exchange scope).asked :=
    asked_exchange scope world ▸ List.mem_map_of_mem member
  have persists := outcomes_verdicts outcomes
  set moved : World := { world with db := after, replies := world.replies ++ [(index, reply)] }
  constructor
  · intro now context csrfHash found
    rw [Api.findSession_same after world.db
      (fun key identity => (outcomes_identities outcomes key identity).symm)] at found
    exact sound.acts now context csrfHash found
  · rcases outcomes_entries outcomes with ⟨entries, verdicts⟩ | ⟨new, ⟨content, current⟩, entries,
      verdicts⟩ | ⟨new, outdated, entries, verdicts⟩
    · have same : (moved.exchange scope) = world.exchange scope :=
        Exchange.ext entries verdicts rfl rfl rfl rfl rfl
      exact same ▸ sound.coherent
    · rw [journey, version] at current
      rw [identifier] at new verdicts
      rw [journey, version, values] at entries
      have same : (moved.exchange scope) = (world.exchange scope).raised written sent.update :=
        Exchange.ext entries verdicts rfl rfl rfl rfl rfl
      rw [same]
      exact Exchange.moves_coherent _ _ (.applies _ _ content asked new current) sound.coherent
    · rw [journey, version] at outdated
      rw [identifier] at new verdicts
      have same : (moved.exchange scope) = (world.exchange scope).decided sent.update .refused :=
        Exchange.ext entries verdicts rfl rfl rfl rfl rfl
      rw [same]
      exact Exchange.moves_coherent _ _ (.refuses _ _ asked new outdated) sound.coherent
  · exact sound.bounded
  · intro other among another named receipt found
    rcases outcomes_receipts outcomes other.commandId with
      same | ⟨own, _, recorded, stored, records⟩
    · exact sound.recorded other among another named receipt (same ▸ found)
    · obtain rfl := Option.some.inj (stored.symm.trans found)
      have equal := sound.coherent.distinct sent.update asked other.update
        (asked_exchange scope world ▸ List.mem_map_of_mem among) (identifier.symm.trans own.symm)
      obtain ⟨same, _, _, signed⟩ := Update.mk.inj equal
      rw [call_same other sent same.symm signed.symm, called] at named
      cases named
      exact records
  · intro entry among
    rcases List.mem_append.mp among with among | among
    · obtain ⟨other, found, tells⟩ := sound.answered entry among
      exact ⟨other, found, fun success => persists _ _ (tells.success success),
        fun conflict => persists _ _ (tells.conflict conflict), tells.version⟩
    · obtain rfl := List.mem_singleton.mp among
      refine ⟨sent, there, identifier ▸ outcomes_tell outcomes ?_⟩
      rw [identifier]
      exact sound.recorded sent member command called
  · intro next finished rest awaiting active
    obtain ⟨planned, told⟩ := sound.planned _ _ _ _ active
    refine ⟨planned, fun change among => ?_⟩
    obtain ⟨other, found, same, decided⟩ := told change among
    exact ⟨other, found, same, persists _ _ decided⟩
  · exact sound.awaited

end World.Sound

/-- An identifier that is drawn has no receipt. -/
theorem drawn_unknown (scope : Scope) (drawn : Uuid) (commandVersion : Nat)
    (new : world.drawsNew (.request drawn commandVersion) = true) :
    (∀ sent ∈ world.sent, sent.commandId ≠ drawn) ∧ receiptIn world.db scope drawn = none := by
  obtain ⟨unsent, absent⟩ := Bool.and_eq_true_iff.mp new
  rw [List.all_eq_true] at unsent absent
  refine ⟨fun sent member => by simpa using unsent sent member, ?_⟩
  refine AList.lookup_eq_none.mpr fun present => ?_
  have named := absent _ (AList.mem_keys.mp present)
  simp [World.receiptOf] at named

/-- Every step keeps a world sound. -/
theorem step_sound (sound : world.Sound platform credentials scope) (next : World)
    (event : WebEvent) (new : world.drawsNew event = true)
    (stepped : world.step platform credentials event = some next) :
    next.Sound platform credentials scope := by
  cases event with
  | save data =>
    simp only [World.step] at stepped
    split at stepped
    · next planned =>
      cases stepped
      exact sound.saving data _ planned
    · cases stepped
  | request drawn commandVersion =>
    simp only [World.step] at stepped
    split at stepped
    · next active =>
      cases stepped
      obtain ⟨unused, unknown⟩ := drawn_unknown scope drawn commandVersion new
      exact sound.requested drawn commandVersion _ _ _ _ active unused unknown
    · cases stepped
  | deliver index runtime =>
    simp only [World.step, Option.map_eq_some_iff, Option.bind_eq_some_iff] at stepped
    obtain ⟨call, ⟨sent, there, called⟩, rfl⟩ := stepped
    exact sound.delivered index runtime sent call there called
  | hear position =>
    simp only [World.step] at stepped
    split at stepped
    · next index _ reply active replied =>
      split at stepped
      · next answers =>
        cases stepped
        split
        · next success =>
          exact sound.heard _ _ _ _ index reply active
            (answers ▸ List.mem_of_getElem? replied) success
        · exact sound.idle
      · cases stepped
    · cases stepped
  | fail =>
    cases stepped
    exact sound.idle
  | list runtime =>
    simp only [World.step] at stepped
    split at stepped
    · split at stepped
      · next listed =>
        cases stepped
        exact sound.listing runtime _ listed
      · cases stepped
        exact sound.idle
    · cases stepped
  | complete runtime =>
    simp only [World.step] at stepped
    split at stepped
    · next journeys active =>
      split at stepped
      · next data read =>
        cases stepped
        obtain ⟨details, _, read⟩ := Option.bind_eq_some_iff.mp read
        obtain ⟨segments, _, rfl⟩ := Option.map_eq_some_iff.mp read
        exact sound.loaded _ (.rereads _ _ (congrArg Activity.reading active))
      · cases stepped
        exact sound.idle
    · cases stepped
  | restart =>
    cases stepped
    exact sound.loaded _ (.forgets _)

/-- A new repository. -/
theorem initial_sound (db : Api.Database)
    (acts : SessionScope db (platform.sha256 credentials.token) scope) :
    (World.initial db).Sound platform credentials scope where
  acts := acts
  coherent := Exchange.coherent_initial _ _
  bounded := Nat.le_refl _
  recorded := fun sent member => by cases member
  answered := fun entry member => by cases member
  planned := fun next finished rest awaiting impossible => by cases impossible
  awaited := fun next finished rest index impossible => by cases impossible

/-- A run keeps a world sound. -/
theorem steps_sound (events : List WebEvent) (world last : World)
    (sound : world.Sound platform credentials scope)
    (run : world.steps platform credentials events = some last) :
    last.Sound platform credentials scope := by
  induction events generalizing world with
  | nil =>
    cases run
    exact sound
  | cons event events inductionHypothesis =>
    obtain ⟨new, run⟩ := Option.ite_none_right_eq_some.mp run
    obtain ⟨next, stepped, run⟩ := Option.bind_eq_some_iff.mp run
    exact inductionHypothesis next (step_sound sound next event new stepped) run

/-- The world at the end of a run is sound. -/
theorem run_sound (platform : Platform) (credentials : Credentials) (db : Api.Database)
    (events : List WebEvent) (world : World)
    (run : (World.initial db).steps platform credentials events = some world) :
    ∃ scope, world.Sound platform credentials scope := by
  obtain ⟨scope, acts⟩ := session_scope db (platform.sha256 credentials.token)
  exact ⟨scope, steps_sound events _ world (initial_sound db acts) run⟩

end Steps

/-! ## Retries are harmless -/

/-- A journey of the last load is stored as it was loaded, or one version above it as a
request for that version says, which was applied. -/
def World.Follows (world : World) (scope : Scope) (id : Uuid) (journey : ServerJourney) : Prop :=
  ∃ row, visibleJourney world.db scope id = some row ∧
    (rowShown row = journeyShown journey ∨
      ∃ sent ∈ world.sent, sent.change.journey.id = id ∧
        sent.change.old.recordVersion = journey.recordVersion ∧
          verdictsIn world.db scope sent.commandId = some .applied ∧
            rowShown row = (journey.recordVersion + 1, written sent.signature))

/-- A change is stored, one version above the journey that it replaces. -/
def World.Stores (world : World) (scope : Scope) (change : Change) : Prop :=
  ∃ row, visibleJourney world.db scope change.journey.id = some row ∧
    rowShown row = (change.old.recordVersion + 1, ⟨Api.strip change.journey.name,
      change.journey.startDate, change.journey.endDate, change.journey.status⟩)

/-- Something else was asked for than a request: something for the same version of its journey
before the last load, or something different for its journey since then. -/
def World.Caused (world : World) (sent : SentUpdate) : Prop :=
  (∃ other ∈ world.sent.take world.before,
    other.change.journey.id = sent.change.journey.id ∧
      other.change.old.recordVersion = sent.change.old.recordVersion) ∨
    ∃ other ∈ world.sent.drop world.before,
      other.change.journey.id = sent.change.journey.id ∧ other.signature ≠ sent.signature

/-- Only a save is told of changes. -/
theorem saving_of_told (activity : Activity) (change : Change) (member : change ∈ activity.told) :
    ∃ next rest awaiting, activity = .saving next activity.told rest awaiting := by
  cases activity with
  | saving next finished rest awaiting => exact ⟨next, rest, awaiting, rfl⟩
  | _ => cases member

/-- Only a save awaits a reply. -/
theorem saving_of_awaiting (activity : Activity) (index : Nat)
    (awaits : activity.awaiting = some index) :
    ∃ next finished rest, activity = .saving next finished rest (some index) := by
  cases activity with
  | saving next finished rest awaiting =>
    cases awaits
    exact ⟨next, finished, rest, rfl⟩
  | _ => cases awaits

/-- However often the saves of a repository are retried, and whatever happens to the requests
and the replies: no journey rises by more than one version above what was loaded, and what a
save was told of is stored as it was meant. -/
theorem saves_apply_once (platform : Platform) (credentials : Credentials) (db : Api.Database)
    (events : List WebEvent) (world : World)
    (run : (World.initial db).steps platform credentials events = some world) :
    ∃ scope, SessionScope world.db (platform.sha256 credentials.token) scope ∧
      (∀ id journey, world.current.journeys.find? (fun other => other.id == id) = some journey →
        world.Follows scope id journey) ∧
      ∀ change ∈ world.activity.told, world.Stores scope change := by
  obtain ⟨scope, sound⟩ := run_sound platform credentials db events world run
  refine ⟨scope, sound.acts, fun id journey found => ?_, ?_⟩
  · have known : (world.exchange scope).known id = some (journeyShown journey) :=
      congrArg (Option.map journeyShown) found
    rcases sound.coherent.known.close _ _ _ known with there | ⟨update, raised, there⟩
    · obtain ⟨row, visible, shown⟩ := Option.map_eq_some_iff.mp there
      exact ⟨row, visible, Or.inl shown⟩
    · obtain ⟨row, visible, shown⟩ := Option.map_eq_some_iff.mp there
      obtain ⟨asked, named, version, applied⟩ := raised
      rw [asked_exchange] at asked
      obtain ⟨sent, member, rfl⟩ := List.mem_map.mp asked
      exact ⟨row, visible, Or.inr ⟨sent, member, named, version, applied, shown⟩⟩
  · intro change member
    obtain ⟨next, rest, awaiting, active⟩ := saving_of_told world.activity change member
    obtain ⟨sent, among, rfl, applied⟩ := (sound.planned _ _ _ _ active).2 change member
    have there := sound.coherent.shows sent.update (List.mem_map_of_mem among) applied
    obtain ⟨row, visible, shown⟩ := Option.map_eq_some_iff.mp there
    exact ⟨row, visible, shown⟩

/-- No identifier is used for two different requests, the only conflict that a reply reports
is one of versions, and one that a save awaits was caused by the repository itself. So a save
that is repeated as it was never hears of a conflict with itself. -/
theorem conflicts_have_causes (platform : Platform) (credentials : Credentials)
    (db : Api.Database) (events : List WebEvent) (world : World)
    (run : (World.initial db).steps platform credentials events = some world) :
    (∀ left ∈ world.sent, ∀ right ∈ world.sent, left.commandId = right.commandId →
      left.call = right.call) ∧
    (∀ entry ∈ world.replies, (statusAndCode entry.2).1 = 409 →
      statusAndCode entry.2 = (409, some "version_conflict")) ∧
    ∀ index sent reply, world.activity.awaiting = some index → world.sent[index]? = some sent →
      (index, reply) ∈ world.replies → (statusAndCode reply).1 = 409 → world.Caused sent := by
  obtain ⟨scope, sound⟩ := run_sound platform credentials db events world run
  refine ⟨fun left among right member same => ?_, fun entry member => ?_, ?_⟩
  · have equal := sound.coherent.distinct left.update
      (asked_exchange scope world ▸ List.mem_map_of_mem among) right.update
      (asked_exchange scope world ▸ List.mem_map_of_mem member) same
    exact call_same left right same (congrArg Update.body equal)
  · obtain ⟨_, _, tells⟩ := sound.answered entry member
    exact tells.version
  · intro index sent reply awaits found answer conflict
    obtain ⟨next, finished, rest, active⟩ := saving_of_awaiting world.activity index awaits
    obtain ⟨awaited, _, _, _, there, pending⟩ := sound.awaited _ _ _ _ active
    obtain rfl := Option.some.inj (found.symm.trans there)
    obtain ⟨again, there, tells⟩ := sound.answered _ answer
    obtain rfl := Option.some.inj (found.symm.trans there)
    have repeats : (world.exchange scope).pending sent.update.key = some sent.update :=
      congrArg (Option.map (PendingUpdate.update _)) pending
    rcases sound.coherent.blames sent.update repeats (tells.conflict conflict) with
      ⟨other, among, named, version⟩ | ⟨other, among, named, differs⟩
    · obtain ⟨cause, member, rfl⟩ := List.mem_map.mp among
      exact Or.inl ⟨cause, member, named, version⟩
    · obtain ⟨cause, member, rfl⟩ := List.mem_map.mp among
      exact Or.inr ⟨cause, member, named, differs⟩

namespace Sample

/-- The journey under another name. -/
def renamed (name : Text) : ServerData where
  journeys := [⟨7, name, none, none, .planning, 1, 0, 0⟩]
  segments := []
  packingItems := []

/-- A load, and a save whose reply is lost. It is repeated, and served twice. -/
def lostReply : List WebEvent :=
  [.list Api.Sample.runtime, .complete Api.Sample.runtime, .save (renamed "Rome".toList),
    .request 50 1, .deliver 0 Api.Sample.runtime, .fail, .save (renamed "Rome".toList),
    .request 51 1, .deliver 1 Api.Sample.runtime, .hear 1]

/-- A save fails before its request is served, and another one is made. -/
def lateRequest : List WebEvent :=
  [.list Api.Sample.runtime, .complete Api.Sample.runtime, .save (renamed "Rome".toList),
    .request 50 1, .fail, .save (renamed "Roma!".toList), .request 51 1,
    .deliver 0 Api.Sample.runtime, .deliver 1 Api.Sample.runtime]

/-- What is observed of a world: the identifiers of its requests, the statuses of its replies,
the version of the journey that was loaded, and where its save stands. -/
structure Observation where
  requests : List Uuid
  statuses : List (Nat × Nat)
  loaded : Option Nat
  told : Nat
  awaiting : Option Nat
deriving DecidableEq

/-- What is observed of a world. -/
def observe (world : World) : Observation where
  requests := world.sent.map SentUpdate.commandId
  statuses := world.replies.map fun entry => (entry.1, (statusAndCode entry.2).1)
  loaded := (world.current.journeys.find? fun journey => journey.id == 7).map Journey.recordVersion
  told := world.activity.told.length
  awaiting := world.activity.awaiting

end Sample

/-- The repeated save is told of its success, and the journey rises once. -/
theorem saves_apply_once_lost_reply :
    ∃ world : World, Sample.observe world = ⟨[50, 50], [(0, 200), (1, 200)], some 1, 1, none⟩ ∧
      ∃ scope, (∃ journey, journey.recordVersion = 1 ∧ world.Follows scope 7 journey) ∧
        ∃ change, world.Stores scope change := by
  have made : ((World.initial Api.Sample.database).steps Api.Sample.platform
      Api.Sample.credentials Sample.lostReply).map Sample.observe =
        some ⟨[50, 50], [(0, 200), (1, 200)], some 1, 1, none⟩ := by
    decide +kernel
  obtain ⟨world, run, observed⟩ := Option.map_eq_some_iff.mp made
  obtain ⟨scope, _, follows, stores⟩ := saves_apply_once _ _ _ _ world run
  obtain ⟨journey, found, version⟩ :=
    Option.map_eq_some_iff.mp (congrArg Sample.Observation.loaded observed)
  obtain ⟨change, told⟩ := List.length_eq_one_iff.mp (congrArg Sample.Observation.told observed)
  refine ⟨world, observed, scope, ⟨journey, version, follows 7 journey found⟩, change, stores _ ?_⟩
  rw [told]
  exact List.mem_singleton_self _

/-- The second save hears of a conflict that the first one caused. -/
theorem conflicts_have_causes_late_request :
    ∃ world : World, Sample.observe world = ⟨[50, 51], [(0, 200), (1, 409)], some 1, 0, some 1⟩ ∧
      ∃ sent, world.sent[1]? = some sent ∧ world.Caused sent := by
  have made : ((World.initial Api.Sample.database).steps Api.Sample.platform
      Api.Sample.credentials Sample.lateRequest).map Sample.observe =
        some ⟨[50, 51], [(0, 200), (1, 409)], some 1, 0, some 1⟩ := by
    decide +kernel
  obtain ⟨world, run, observed⟩ := Option.map_eq_some_iff.mp made
  obtain ⟨_, _, causes⟩ := conflicts_have_causes _ _ _ _ world run
  have requests := congrArg (fun seen => seen.requests[1]?) observed
  rw [Sample.observe, List.getElem?_map] at requests
  obtain ⟨sent, found, _⟩ := Option.map_eq_some_iff.mp requests
  have conflict : (1, 409) ∈ (Sample.observe world).statuses := by
    rw [observed]
    decide
  obtain ⟨⟨index, reply⟩, answer, same⟩ := List.mem_map.mp conflict
  obtain ⟨rfl, status⟩ := Prod.mk.inj same
  have awaits := congrArg Sample.Observation.awaiting observed
  exact ⟨world, observed, sent, found, causes 1 sent reply awaits found answer status⟩

end TraxOs.Web
