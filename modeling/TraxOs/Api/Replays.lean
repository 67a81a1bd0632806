import TraxOs.Api.CommandSafety

/-!
# Replays are grounded

A command that is answered as replayed has a receipt, and the receipt says that the
command was applied. The receipt was read without a lock, but a receipt is never
changed or removed, so it is still there when the replay commits.

The classification of commits leaves this out: for it a replay is a commit that
changes nothing. So the contract of the runs is strengthened by this one promise.
-/

namespace TraxOs.Api

open TraxOs.Theory

/-- The reply says that a command was applied before. -/
def Reply.replays : Reply → Bool
  | .command body => body.replayed
  | .executed execution => execution.replayed
  | _ => false

/-- The receipt of an applied command. -/
def HasApplied (db : Database) (context : AuthContext) (commandId : Uuid) : Prop :=
  ∃ (receipt : CommandReceipt) (version : Nat) (changeSetId : Uuid),
    db.lookup (Key.receipt context.workspaceId context.userId commandId) = some receipt ∧
      receipt.outcome = .applied version changeSetId

/-- A replay has its receipt. -/
def GroundedReplay (request : Request) (reply : Reply) (before : Database) : Prop :=
  ∀ call, request.commandCall = some call → reply.replays = true →
    ∃ context : AuthContext, HasApplied before context call.commandId

/-- The contract whose commits are classified and grounded. -/
def replayContract (platform : Platform) (anchor : Anchor) : Contract Row Request Reply where
  Allowed := (commitContract platform anchor).Allowed
  Inv := (commitContract platform anchor).Inv
  Commits request reply before after :=
    Committed platform anchor request reply before after ∧ GroundedReplay request reply before

section Receipts

variable {platform : Platform} {anchor : Anchor} {request : Request}

/-- No commit changes or removes a receipt. -/
theorem commit_keeps_receipt (request : Request) (reply : Reply) (before after : Database)
    (committed : Committed platform anchor request reply before after)
    (workspaceId userId commandId : Uuid) (receipt : CommandReceipt)
    (found : before.lookup (Key.receipt workspaceId userId commandId) = some receipt) :
    after.lookup (Key.receipt workspaceId userId commandId) = some receipt := by
  cases committed with
  | quiet unchanged => rw [unchanged, found]
  | changedParts _ _ _ _ _ _ spared => exact (spared _ rfl (by simp)).trans found
  | created _ _ _ _ _ _ _ _ _ _ _ spared => exact (spared _ (by simp)).trans found
  | deleted _ _ _ _ _ _ _ _ _ _ spared => exact (spared _ rfl (by simp)).trans found
  | applied command explained =>
    refine (explained.spared _ (by simp) ?_ (by simp) (by simp)).trans found
    intro own
    obtain ⟨rfl, rfl, rfl⟩ := Key.receipt.inj own
    cases explained.receiptFree.symm.trans found
  | rejected command explained =>
    refine (explained.spared _ ?_).trans found
    intro own
    obtain ⟨rfl, rfl, rfl⟩ := Key.receipt.inj own
    cases explained.receiptFree.symm.trans found
  | administered _ _ _ _ _ spared => exact (spared _ (by simp)).trans found

/-- Nor does interference. -/
theorem reaches_applied (progress : Progress Name Row Res) (store later : Database)
    (reached : Reaches (plainApi platform) (commitContract platform anchor) request progress store
      later) (context : AuthContext) (commandId : Uuid) (applied : HasApplied store context commandId) :
    HasApplied later context commandId := by
  induction reached with
  | refl => exact applied
  | tail _ interferes inductionHypothesis =>
    obtain ⟨_, _, other, reply, _, _, _, committed, _⟩ := interferes
    obtain ⟨receipt, version, changeSetId, found, outcome⟩ := inductionHypothesis
    exact ⟨receipt, version, changeSetId,
      commit_keeps_receipt other reply _ _ committed _ _ _ receipt found, outcome⟩

/-- Only an applied command raises nothing after its commit. -/
theorem raisedAfterCommit_none (outcome : CommandOutcome) (silent : raisedAfterCommit outcome = none) :
    ∃ version changeSetId, outcome = .applied version changeSetId := by
  cases outcome with
  | applied version changeSetId => exact ⟨version, changeSetId, rfl⟩
  | versionConflict => cases silent
  | resourceNotFound => cases silent

/-- A use of the executor that ends in a replay has found its receipt. -/
theorem proceeds_replayed (context : AuthContext) (call : CommandCall)
    (executes : request.commandCall = some call) (acts : request.actsFor context)
    (signed : request.signedBy platform anchor.sessions context)
    (progress : Progress Name Row Res) (store : Database) (clean : progress.writes = []) :
    Proceeds platform anchor request
      (executeJourneyUpdate platform context call.runtime call.commandId call.commandType
        call.commandVersion call.payload call.origin) progress store
      fun result _ later => ∀ execution, result = .ok execution → execution.replayed = true →
        HasApplied later context call.commandId := by
  unfold executeJourneyUpdate
  cases resolved : resolveCommand call.commandType call.commandVersion with
  | error error => exact trivial
  | ok definition =>
    obtain ⟨_, _, rfl⟩ := resolveCommand_ok _ _ definition resolved
    apply leads_bind
    simp only [operation]
    apply leads_bind
    apply leads_mono _ _ _ _ _ _ _ _ (proceeds_authorize context progress store clean)
    rintro _ first one ⟨firstClean, _, authority⟩
    simp only [Program.ask_bind]
    intro two _ reachedTwo answer writes locks ran
    obtain rfl := reads_only platform (first.view two) _ rfl answer writes locks ran
    have keepsTwo := keeps_step first one two (Op.lockCommand context.scope call.commandId) answer
      [] locks reachedTwo
    have cleanTwo : (first.extend (Op.lockCommand context.scope call.commandId) answer []
        locks).writes = [] := by simp [Progress.extend, firstClean]
    intro three _ reachedThree prior writes more ran
    obtain ⟨rfl, rfl, selected⟩ := ran_selectReceipt platform _ _ _ prior writes more ran
    have keepsThree := keeps_step _ two three (Op.selectReceipt context.scope call.commandId) prior
      [] [] reachedThree
    have cleanThree : ((first.extend (Op.lockCommand context.scope call.commandId) answer []
        locks).extend (Op.selectReceipt context.scope call.commandId) prior [] []).writes = [] := by
      simp [Progress.extend, firstClean]
    cases prior with
    | some receipt =>
      simp only [replayOrConflict]
      split
      · simp only [Program.pure_eq, leads_done]
        cases raised : raisedAfterCommit receipt.outcome with
        | some error =>
          rintro execution ⟨⟩
        | none =>
          rintro execution ⟨⟩ _
          obtain ⟨version, changeSetId, outcome⟩ := raisedAfterCommit_none receipt.outcome raised
          refine ⟨receipt, version, changeSetId, ?_, outcome⟩
          simp only [Progress.view, cleanTwo, applyAll_nil] at selected
          split at selected
          · exact selected.symm
          · cases selected
      · exact trivial
    | none =>
      apply leads_mono _ _ _ _ _ _ _ _ (proceeds_fresh context call executes acts signed _ three
        cleanThree (authority.keep (keepsTwo.trans keepsThree)))
      rintro execution grown later ⟨fresh, _⟩
      cases raised : raisedAfterCommit execution.outcome with
      | some error =>
        rintro other ⟨⟩
      | none =>
        rintro other ⟨⟩ replayed
        rw [fresh] at replayed
        cases replayed

/-- Where a route leads: to a reply that is grounded if it is a replay. -/
theorem proceeds_grounded (context : AuthContext) (runtime : Runtime) (call : Call)
    (running : request.call = some (call, runtime)) (acts : request.actsFor context)
    (signed : request.signedBy platform anchor.sessions context)
    (progress : Progress Name Row Res) (store : Database) (clean : progress.writes = []) :
    Proceeds platform anchor request (handle platform context runtime call) progress store
      fun reply _ later => GroundedReplay request reply later := by
  have sameCommand := commandCall_running call runtime running
  have ungrounded : call.commandCall runtime = none →
      Proceeds platform anchor request (handle platform context runtime call) progress store
        fun reply _ later => GroundedReplay request reply later := by
    intro none
    apply leads_mono _ _ _ _ _ (fun _ _ _ => True) _ _ (leads_trivial _ _ _ progress store)
    intro reply _ later _ command executes
    rw [sameCommand, none] at executes
    cases executes
  cases call with
  | updateJourney journeyId body =>
    simp only [handle, updateJourneyRoute]
    apply leads_bind
    apply leads_mono _ _ _ _ _ (fun _ _ _ => True) _ _ (leads_trivial _ _ _ progress store)
    rintro (error | execution) grown later _
    · intro command _ replays
      cases replays
    · intro command _ replays
      cases journey : execution.journey with
      | none =>
        rw [journey] at replays
        cases replays
      | some body =>
        rw [journey] at replays
        cases replays
  | journeyUpdateCommand body =>
    simp only [handle, canonicalUpdateJourney]
    apply leads_bind
    apply leads_mono _ _ _ _ _ _ _ _ (proceeds_replayed context
      ⟨body.commandId, "journey.update", body.commandVersion, body.payload, .web, runtime⟩
      sameCommand acts signed progress store clean)
    rintro (error | execution) grown later replayed
    · intro command _ replays
      cases replays
    · cases kind : execution.outcome with
      | applied recordVersion changeSetId =>
        simp only [kind, Program.pure_eq, leads_done]
        intro command executes replays
        obtain rfl := Option.some.inj (sameCommand.symm.trans executes)
        exact ⟨context, replayed execution rfl replays⟩
      | versionConflict =>
        simp only [kind, Program.pure_eq, leads_done]
        intro command _ replays
        cases replays
      | resourceNotFound =>
        simp only [kind, Program.pure_eq, leads_done]
        intro command _ replays
        cases replays
  | _ => exact ungrounded rfl

/-- Every request leads to a grounded reply. -/
theorem request_grounded (request : Request) (db : Database) :
    Proceeds platform anchor request (program platform request) .empty db
      fun reply _ later => GroundedReplay request reply later := by
  cases request with
  | http credentials call runtime =>
    apply leads_bind
    apply leads_mono _ _ _ _ _ _ _ _ (proceeds_routeContext runtime credentials call.mutates db)
    rintro context grown later ⟨clean, signed, _⟩
    have acts : (Request.http credentials call runtime).actsFor context := trivial
    exact proceeds_grounded context runtime call rfl acts signed grown later clean
  | operation context call runtime =>
    have acts : (Request.operation context call runtime).actsFor context := rfl
    exact proceeds_grounded context runtime call rfl acts trivial .empty db rfl
  | command context commandId commandType commandVersion payload origin runtime =>
    have acts : (Request.command context commandId commandType commandVersion payload origin
      runtime).actsFor context := rfl
    apply leads_bind
    apply leads_mono _ _ _ _ _ _ _ _ (proceeds_replayed context
      ⟨commandId, commandType, commandVersion, payload, origin, runtime⟩ rfl acts trivial .empty db rfl)
    rintro (error | execution) grown later replayed
    · intro command _ replays
      cases replays
    · intro command executes replays
      obtain rfl := Option.some.inj executes
      exact ⟨context, replayed execution rfl replays⟩
  | administer workspaceId userId role =>
    apply leads_mono _ _ _ _ _ (fun _ _ _ => True) _ _ (leads_trivial _ _ _ .empty db)
    intro reply _ later _ command executes
    cases executes

/-- The program of every allowed request is safe under the stronger contract. -/
theorem replays_safe (request : Request) (db : Database)
    (allowed : (replayContract platform anchor).Allowed request) :
    Safe (plainApi platform) (replayContract platform anchor) request (program platform request)
      .empty db := by
  have implies : (replayContract platform anchor).Implies (commitContract platform anchor) :=
    ⟨fun _ allowed => allowed, fun _ holds => holds, fun _ _ _ _ commits => commits.1⟩
  have both := leads_weaken (plainApi platform) _ _ implies _ _ _ _
    (leads_and _ _ _ _ _ _ _ (commits_safe request db allowed) (request_grounded request db))
  apply leads_mono _ _ _ _ _ _ _ _ both
  rintro reply progress store ⟨promised, grounded⟩ later holds reached
  have reached := reaches_weaken (plainApi platform) _ _ implies progress store later reached
  refine ⟨promised later holds reached, ?_⟩
  intro call executes replays
  obtain ⟨context, applied⟩ := grounded call executes replays
  exact ⟨context, reaches_applied progress store later reached context call.commandId applied⟩

end Receipts

/-- In every run the history is a chain of classified and grounded commits. -/
theorem history_grounded (platform : Platform)
    (permits : System Name Row Res Failure Request Reply → Event Request → Prop) (db : Database)
    (last : System Name Row Res Failure Request Reply)
    (run : Run (plainApi platform) permits (System.initial db) last) :
    Linked (fun request reply before after =>
        Committed platform ⟨sessionsOf db, none⟩ request reply before after ∧
          GroundedReplay request reply before) db last.history last.db := by
  have unanchored : ∀ request, (replayContract platform ⟨sessionsOf db, none⟩).Allowed request := by
    intro request journeyId workspaceId anchored
    cases anchored
  have sound : Sound (plainApi platform) (replayContract platform ⟨sessionsOf db, none⟩) db last := by
    apply run_sound (plainApi platform) (replayContract platform ⟨sessionsOf db, none⟩) permits
      (System.initial db) last db (fun _ request _ => unanchored request)
    · intro system index process reply earlier _ found _
      exact never_stale (plainApi platform) permits (System.initial db) system
        (fun _ _ _ _ => rfl) earlier (by simp [System.initial]) process (List.mem_of_getElem? found)
    · exact fun request store allowed _ => replays_safe request store allowed
    · exact fun request reply before after allowed inside committed =>
        commit_keeps_anchor platform ⟨sessionsOf db, none⟩ request reply before after allowed inside
          committed.1
    · exact sound_initial (plainApi platform) (replayContract platform ⟨sessionsOf db, none⟩) db
        ⟨rfl, fun journeyId workspaceId anchored => by cases anchored⟩
    · exact run
  exact sound.linked.mono fun _ _ _ _ admits => admits.2.2.2

end TraxOs.Api
