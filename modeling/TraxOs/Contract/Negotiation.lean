import Mathlib
import TraxOs.ApiClient.Values

/-!
# Version negotiation

The client reads the versions that a server advertises and settles on one version of
the API and one of each command type that it requires. It validates the metadata
first, all of it, and then intersects each of its own ranges with the server's.

Versions are integers here. A JSON number beyond the safe integers is rounded when it
is parsed, to one that is still beyond them, and a fraction is no safe integer, so
neither passes the check. Command types are of any type with decidable equality.

The second half says what the negotiation computes: the greatest version in both
ranges, wherever there is one, for the API and for every type required.
-/

namespace TraxOs.Contract

open TraxOs.ApiClient (maxSafeInteger)

/-- `InclusiveVersionRange`. -/
structure VersionRange where
  minimumSupported : Int
  maximumSupported : Int
deriving DecidableEq, Repr

/-- `SupportedVersionRange`: a range with the version that is current in it. -/
structure SupportedVersionRange extends VersionRange where
  current : Int
deriving DecidableEq, Repr

/-- `CommandVersionSupport`: what a server advertises of one command type. -/
structure CommandVersionSupport (Name : Type) extends SupportedVersionRange where
  commandType : Name
deriving DecidableEq, Repr

/-- `ContractDiscovery`: what a server advertises. -/
structure ContractDiscovery (Name : Type) where
  schemaVersion : String
  api : SupportedVersionRange
  commands : List (CommandVersionSupport Name)
deriving DecidableEq

/-- `clientSupport`: the ranges that a client was built for. An object has one member
of each name. -/
structure ClientSupport (Name : Type) where
  api : VersionRange
  commands : List (Name × VersionRange)
  distinct : (commands.map Prod.fst).Nodup

/-- `NegotiationFailureCode`. -/
inductive NegotiationFailure where
  | invalidContractMetadata
  | clientTooOld
  | clientTooNew
  | unsupportedCommand
  | commandVersionNoOverlap
deriving DecidableEq, Repr

/-- `messageFor`. -/
def NegotiationFailure.message : NegotiationFailure → String
  | .invalidContractMetadata => "The server returned invalid contract metadata."
  | .clientTooOld => "This client is older than the server's supported API range."
  | .clientTooNew => "This client is newer than the server's supported API range."
  | .unsupportedCommand => "The server does not advertise a required command."
  | .commandVersionNoOverlap => "The client and server command versions do not overlap."

/-- `NegotiatedContract`. -/
structure NegotiatedContract (Name : Type) where
  apiVersion : Int
  commandVersions : List (Name × Int)
deriving DecidableEq

variable {Name : Type} [DecidableEq Name]

/-- `positiveSafeInteger`. -/
def positiveSafeInteger (value : Int) : Bool :=
  decide (value.natAbs ≤ maxSafeInteger) && decide (0 < value)

/-- `validateRange`. -/
def validateRange (range : VersionRange) : Except NegotiationFailure Unit :=
  if !positiveSafeInteger range.minimumSupported || !positiveSafeInteger range.maximumSupported ||
      decide (range.maximumSupported < range.minimumSupported) then
    .error .invalidContractMetadata
  else .ok ()

/-- `validateServerRange`. -/
def validateServerRange (range : SupportedVersionRange) : Except NegotiationFailure Unit :=
  match validateRange range.toVersionRange with
  | .error failure => .error failure
  | .ok () =>
    if !positiveSafeInteger range.current then .error .invalidContractMetadata
    else if range.current < range.minimumSupported || range.maximumSupported < range.current then
      .error .invalidContractMetadata
    else .ok ()

/-- `negotiateRange`. -/
def negotiateRange (client server : VersionRange) : Except NegotiationFailure Int :=
  match validateRange client, validateRange server with
  | .error failure, _ => .error failure
  | .ok (), .error failure => .error failure
  | .ok (), .ok () =>
    if client.maximumSupported < server.minimumSupported then .error .clientTooOld
    else if server.maximumSupported < client.minimumSupported then .error .clientTooNew
    else .ok (min client.maximumSupported server.maximumSupported)

/-- The first loop of `negotiateContract`: the metadata of each command type, of which
`seen` were met before. -/
def validateCommands (seen : List Name) :
    List (CommandVersionSupport Name) → Except NegotiationFailure Unit
  | [] => .ok ()
  | command :: rest =>
    if command.commandType ∈ seen then .error .invalidContractMetadata
    else
      match validateServerRange command.toSupportedVersionRange with
      | .error failure => .error failure
      | .ok () => validateCommands (command.commandType :: seen) rest

/-- `serverCommands.get`. The map keeps the last entry of each type. -/
def serverRange (commands : List (CommandVersionSupport Name)) (commandType : Name) :
    Option (CommandVersionSupport Name) :=
  commands.reverse.find? fun command => command.commandType = commandType

/-- One turn of the second loop: the version of one command type. A failure to overlap
is reported as one of commands. -/
def negotiateCommand (commands : List (CommandVersionSupport Name)) (commandType : Name)
    (client : VersionRange) : Except NegotiationFailure Int :=
  match serverRange commands commandType with
  | none => .error .unsupportedCommand
  | some server =>
    match negotiateRange client server.toVersionRange with
    | .error .clientTooOld => .error .commandVersionNoOverlap
    | .error .clientTooNew => .error .commandVersionNoOverlap
    | .error failure => .error failure
    | .ok version => .ok version

/-- The second loop of `negotiateContract`: a version of each required command type. -/
def negotiateCommands (commands : List (CommandVersionSupport Name)) :
    List (Name × VersionRange) → Except NegotiationFailure (List (Name × Int))
  | [] => .ok []
  | (commandType, client) :: rest =>
    match negotiateCommand commands commandType client with
    | .error failure => .error failure
    | .ok version =>
      match negotiateCommands commands rest with
      | .error failure => .error failure
      | .ok versions => .ok ((commandType, version) :: versions)

/-- `negotiateContract`. -/
def negotiateContract (clientSupport : ClientSupport Name) (metadata : ContractDiscovery Name) :
    Except NegotiationFailure (NegotiatedContract Name) :=
  if metadata.schemaVersion ≠ "1" then .error .invalidContractMetadata
  else
    match validateServerRange metadata.api with
    | .error failure => .error failure
    | .ok () =>
      match validateCommands [] metadata.commands with
      | .error failure => .error failure
      | .ok () =>
        match negotiateRange clientSupport.api metadata.api.toVersionRange with
        | .error failure => .error failure
        | .ok apiVersion =>
          match negotiateCommands metadata.commands clientSupport.commands with
          | .error failure => .error failure
          | .ok commandVersions => .ok ⟨apiVersion, commandVersions⟩

/-! ## What the negotiation computes -/

/-- The versions in a range. -/
def VersionRange.versions (range : VersionRange) : Set Int :=
  Set.Icc range.minimumSupported range.maximumSupported

/-- A version that both sides can represent. -/
def Representable (version : Int) : Prop := 1 ≤ version ∧ version ≤ maxSafeInteger

instance (version : Int) : Decidable (Representable version) :=
  inferInstanceAs (Decidable (1 ≤ version ∧ version ≤ maxSafeInteger))

/-- The bounds of a range are representable. -/
def VersionRange.Bounded (range : VersionRange) : Prop :=
  Representable range.minimumSupported ∧ Representable range.maximumSupported

/-- A range that a server may advertise: representable bounds around the current
version. -/
structure SupportedVersionRange.Valid (range : SupportedVersionRange) : Prop where
  bounded : range.toVersionRange.Bounded
  current : range.current ∈ range.toVersionRange.versions

/-- Two ranges have a version in common. -/
def VersionRange.Overlaps (client server : VersionRange) : Prop :=
  (client.versions ∩ server.versions).Nonempty

theorem positiveSafeInteger_iff (value : Int) :
    positiveSafeInteger value = true ↔ Representable value := by
  unfold positiveSafeInteger Representable
  simp only [Bool.and_eq_true, decide_eq_true_eq]
  constructor
  · rintro ⟨bounded, positive⟩
    omega
  · rintro ⟨positive, bounded⟩
    omega

theorem validateRange_ok (range : VersionRange) :
    validateRange range = .ok () ↔
      range.Bounded ∧ range.minimumSupported ≤ range.maximumSupported := by
  unfold validateRange VersionRange.Bounded
  split
  · rename_i refused
    simp only [Bool.or_eq_true, Bool.not_eq_true', ← Bool.not_eq_true, positiveSafeInteger_iff,
      decide_eq_true_eq] at refused
    constructor
    · intro impossible
      cases impossible
    · rintro ⟨⟨least, greatest⟩, ordered⟩
      rcases refused with (low | high) | reversed
      · exact absurd least low
      · exact absurd greatest high
      · omega
  · rename_i accepted
    simp only [Bool.or_eq_true, Bool.not_eq_true', ← Bool.not_eq_true, positiveSafeInteger_iff,
      decide_eq_true_eq, not_or, not_not, Int.not_lt] at accepted
    exact ⟨fun _ => accepted, fun _ => rfl⟩

theorem validateServerRange_ok (range : SupportedVersionRange) :
    validateServerRange range = .ok () ↔ range.Valid := by
  unfold validateServerRange
  constructor
  · intro accepted
    split at accepted
    · cases accepted
    · rename_i ordered
      split at accepted
      · cases accepted
      · split at accepted
        · cases accepted
        · rename_i inside
          simp only [Bool.or_eq_true, decide_eq_true_eq, not_or, Int.not_lt] at inside
          exact ⟨((validateRange_ok _).mp ordered).1, inside⟩
  · rintro ⟨bounded, inside⟩
    have ordered : validateRange range.toVersionRange = .ok () :=
      (validateRange_ok _).mpr ⟨bounded, inside.1.trans inside.2⟩
    have representable : positiveSafeInteger range.current = true := by
      have positive := bounded.1.1
      have small := bounded.2.2
      have least := inside.1
      have greatest := inside.2
      exact (positiveSafeInteger_iff _).mpr ⟨by omega, by omega⟩
    have least : ¬range.current < range.minimumSupported := Int.not_lt.mpr inside.1
    have greatest : ¬range.maximumSupported < range.current := Int.not_lt.mpr inside.2
    simp [ordered, representable, least, greatest]

/-- A range is negotiated to the greatest common version, when both ranges are
bounded and there is one. -/
theorem negotiateRange_ok (client server : VersionRange) (version : Int) :
    negotiateRange client server = .ok version ↔
      client.Bounded ∧ server.Bounded ∧ IsGreatest (client.versions ∩ server.versions) version := by
  have common : client.versions ∩ server.versions =
      Set.Icc (max client.minimumSupported server.minimumSupported)
        (min client.maximumSupported server.maximumSupported) := Set.Icc_inter_Icc
  rw [common]
  constructor
  · intro negotiated
    unfold negotiateRange at negotiated
    split at negotiated
    · cases negotiated
    · cases negotiated
    · rename_i clientValid serverValid
      obtain ⟨clientBounded, clientOrdered⟩ := (validateRange_ok _).mp clientValid
      obtain ⟨serverBounded, serverOrdered⟩ := (validateRange_ok _).mp serverValid
      split at negotiated
      · cases negotiated
      · split at negotiated
        · cases negotiated
        · rename_i recent old
          cases negotiated
          refine ⟨clientBounded, serverBounded, isGreatest_Icc ?_⟩
          omega
  · rintro ⟨clientBounded, serverBounded, greatest⟩
    have inhabited : max client.minimumSupported server.minimumSupported ≤
        min client.maximumSupported server.maximumSupported :=
      greatest.1.1.trans greatest.1.2
    have clientValid : validateRange client = .ok () :=
      (validateRange_ok _).mpr ⟨clientBounded, by omega⟩
    have serverValid : validateRange server = .ok () :=
      (validateRange_ok _).mpr ⟨serverBounded, by omega⟩
    have value : version = min client.maximumSupported server.maximumSupported :=
      greatest.unique (isGreatest_Icc inhabited)
    have recent : ¬client.maximumSupported < server.minimumSupported := by omega
    have old : ¬server.maximumSupported < client.minimumSupported := by omega
    simp only [negotiateRange, clientValid, serverValid, if_neg recent, if_neg old, value]

/-- Metadata that a client accepts. -/
structure ContractDiscovery.Valid (metadata : ContractDiscovery Name) : Prop where
  schema : metadata.schemaVersion = "1"
  api : metadata.api.Valid
  distinct : (metadata.commands.map fun command => command.commandType).Nodup
  commands : ∀ command ∈ metadata.commands, command.Valid

/-- One required command type is settled: the server advertises it, and the version
agreed on is the greatest common one. -/
def Settles (commands : List (CommandVersionSupport Name)) (required : Name × VersionRange)
    (agreed : Name × Int) : Prop :=
  agreed.1 = required.1 ∧ required.2.Bounded ∧
    ∃ server ∈ commands, server.commandType = required.1 ∧
      IsGreatest (required.2.versions ∩ server.versions) agreed.2

/-- A contract in which every version is the greatest common one. -/
structure Agrees (clientSupport : ClientSupport Name) (metadata : ContractDiscovery Name)
    (contract : NegotiatedContract Name) : Prop where
  bounded : clientSupport.api.Bounded
  api : IsGreatest (clientSupport.api.versions ∩ metadata.api.versions) contract.apiVersion
  commands : List.Forall₂ (Settles metadata.commands) clientSupport.commands
    contract.commandVersions

theorem validateCommands_ok (commands : List (CommandVersionSupport Name)) (seen : List Name) :
    validateCommands seen commands = .ok () ↔
      (commands.map fun command => command.commandType).Nodup ∧
        (∀ command ∈ commands, command.commandType ∉ seen) ∧
        ∀ command ∈ commands, command.Valid := by
  induction commands generalizing seen with
  | nil => simp [validateCommands]
  | cons command rest inductionHypothesis =>
    by_cases repeated : command.commandType ∈ seen
    · simp only [validateCommands, if_pos repeated]
      constructor
      · intro impossible
        cases impossible
      · rintro ⟨_, fresh, _⟩
        exact absurd repeated (fresh command (by simp))
    · rw [validateCommands, if_neg repeated]
      constructor
      · intro accepted
        split at accepted
        · cases accepted
        · rename_i checked
          obtain ⟨distinct, fresh, valid⟩ := (inductionHypothesis _).mp accepted
          have valid_first := (validateServerRange_ok _).mp checked
          refine ⟨?_, ?_, List.forall_mem_cons.mpr ⟨valid_first, valid⟩⟩
          · rw [List.map_cons, List.nodup_cons]
            refine ⟨?_, distinct⟩
            intro again
            obtain ⟨other, member, same⟩ := List.mem_map.mp again
            exact fresh other member (same ▸ List.mem_cons_self)
          · refine List.forall_mem_cons.mpr ⟨repeated, ?_⟩
            intro other member among
            exact fresh other member (List.mem_cons_of_mem _ among)
      · rintro ⟨distinct, fresh, valid⟩
        rw [List.map_cons, List.nodup_cons] at distinct
        have checked := (validateServerRange_ok _).mpr (valid command (by simp))
        rw [checked]
        refine (inductionHypothesis _).mpr ⟨distinct.2, ?_, fun other member => valid other
          (List.mem_cons_of_mem _ member)⟩
        intro other member among
        rcases List.mem_cons.mp among with same | among
        · exact distinct.1 (List.mem_map.mpr ⟨other, member, same⟩)
        · exact fresh other (List.mem_cons_of_mem _ member) among

/-- The map of the server's commands has each command under its type. -/
theorem serverRange_iff (commands : List (CommandVersionSupport Name))
    (distinct : (commands.map fun command => command.commandType).Nodup) (commandType : Name)
    (server : CommandVersionSupport Name) :
    serverRange commands commandType = some server ↔
      server ∈ commands ∧ server.commandType = commandType := by
  constructor
  · intro found
    refine ⟨List.mem_reverse.mp (List.mem_of_find?_eq_some found), ?_⟩
    simpa using List.find?_some found
  · rintro ⟨member, named⟩
    cases found : serverRange commands commandType with
    | none =>
      have absent := List.find?_eq_none.mp found server (List.mem_reverse.mpr member)
      simp [named] at absent
    | some other =>
      have among := List.mem_reverse.mp (List.mem_of_find?_eq_some found)
      have same : other.commandType = commandType := by simpa using List.find?_some found
      exact congrArg some (List.inj_on_of_nodup_map distinct among member (same.trans named.symm))

theorem negotiateCommand_ok (commands : List (CommandVersionSupport Name))
    (distinct : (commands.map fun command => command.commandType).Nodup)
    (valid : ∀ command ∈ commands, command.Valid) (commandType : Name) (client : VersionRange)
    (version : Int) :
    negotiateCommand commands commandType client = .ok version ↔
      Settles commands (commandType, client) (commandType, version) := by
  constructor
  · intro negotiated
    unfold negotiateCommand at negotiated
    split at negotiated
    · cases negotiated
    · rename_i server found
      obtain ⟨member, named⟩ := (serverRange_iff commands distinct _ _).mp found
      split at negotiated
      · cases negotiated
      · cases negotiated
      · cases negotiated
      · rename_i settled
        cases negotiated
        obtain ⟨bounded, _, greatest⟩ := (negotiateRange_ok _ _ _).mp settled
        exact ⟨rfl, bounded, server, member, named, greatest⟩
  · rintro ⟨_, bounded, server, member, named, greatest⟩
    have found := (serverRange_iff commands distinct commandType server).mpr ⟨member, named⟩
    have settled := (negotiateRange_ok client server.toVersionRange version).mpr
      ⟨bounded, (valid server member).bounded, greatest⟩
    simp only [negotiateCommand, found, settled]

theorem negotiateCommands_ok (commands : List (CommandVersionSupport Name))
    (distinct : (commands.map fun command => command.commandType).Nodup)
    (valid : ∀ command ∈ commands, command.Valid) (required : List (Name × VersionRange))
    (agreed : List (Name × Int)) :
    negotiateCommands commands required = .ok agreed ↔
      List.Forall₂ (Settles commands) required agreed := by
  induction required generalizing agreed with
  | nil =>
    rw [negotiateCommands, Except.ok.injEq, List.forall₂_nil_left_iff]
    exact eq_comm
  | cons first rest inductionHypothesis =>
    obtain ⟨commandType, client⟩ := first
    constructor
    · intro negotiated
      unfold negotiateCommands at negotiated
      split at negotiated
      · cases negotiated
      · rename_i version settled
        split at negotiated
        · cases negotiated
        · rename_i versions others
          cases negotiated
          exact .cons ((negotiateCommand_ok commands distinct valid _ _ _).mp settled)
            ((inductionHypothesis _).mp others)
    · intro settled
      cases settled with
      | @cons _ agreedFirst _ agreedRest first others =>
        obtain ⟨agreedType, version⟩ := agreedFirst
        obtain rfl : agreedType = commandType := first.1
        have now := (negotiateCommand_ok commands distinct valid _ _ _).mpr first
        have later := (inductionHypothesis _).mpr others
        simp only [negotiateCommands, now, later]

/-- A negotiation succeeds exactly on valid metadata, and with the contract of the
greatest common versions. -/
theorem negotiateContract_ok (clientSupport : ClientSupport Name)
    (metadata : ContractDiscovery Name) (contract : NegotiatedContract Name) :
    negotiateContract clientSupport metadata = .ok contract ↔
      metadata.Valid ∧ Agrees clientSupport metadata contract := by
  constructor
  · intro negotiated
    unfold negotiateContract at negotiated
    split at negotiated
    · cases negotiated
    · rename_i schema
      split at negotiated
      · cases negotiated
      · rename_i api
        split at negotiated
        · cases negotiated
        · rename_i commands
          split at negotiated
          · cases negotiated
          · rename_i apiVersion apiSettled
            split at negotiated
            · cases negotiated
            · rename_i commandVersions settled
              cases negotiated
              obtain ⟨distinct, _, valid⟩ := (validateCommands_ok _ _).mp commands
              obtain ⟨bounded, _, greatest⟩ := (negotiateRange_ok _ _ _).mp apiSettled
              exact ⟨⟨not_not.mp schema, (validateServerRange_ok _).mp api, distinct, valid⟩,
                bounded, greatest, (negotiateCommands_ok _ distinct valid _ _).mp settled⟩
  · rintro ⟨valid, agrees⟩
    obtain ⟨apiVersion, commandVersions⟩ := contract
    have api := (validateServerRange_ok _).mpr valid.api
    have commands := (validateCommands_ok metadata.commands []).mpr
      ⟨valid.distinct, by simp, valid.commands⟩
    have apiSettled := (negotiateRange_ok clientSupport.api metadata.api.toVersionRange _).mpr
      ⟨agrees.bounded, valid.api.bounded, agrees.api⟩
    have settled := (negotiateCommands_ok _ valid.distinct valid.commands _ _).mpr agrees.commands
    have schema : ¬metadata.schemaVersion ≠ "1" := not_not.mpr valid.schema
    simp only [negotiateContract, if_neg schema, api, commands, apiSettled, settled]

end TraxOs.Contract
