import TraxOs.Contract.Agreement

/-!
# The support compatibility gate

A release is compared with the one before it by the support metadata of both: the gate
loads the two documents, checks them strictly and lists what the newer one no longer
supports. It passes when the list is empty.

The gate is sound for the clients: whoever negotiates with the older metadata
negotiates with the newer one, at versions at least as high, because an accepted range
contains the one that it replaces. No breaking change is reflexive and transitive on
accepted metadata, so the promise holds along a chain of releases.
-/

namespace TraxOs.Contract

open TraxOs.Theory
open TraxOs.ApiClient (Text Value Number literal)

/-- `fail`. -/
def fail {α : Type} (message : Text) : Except Text α :=
  .error (literal "Support compatibility failed: " ++ message)

/-- `positive`. An absent member is undefined, which is no number. -/
def positive (value : Option Value) (label : Text) : Except Text Int :=
  match value with
  | some (.number (.finite rational)) =>
    if !(Number.finite rational).isSafeInteger || decide (rational.num < 1) then
      fail (label ++ literal " must be a positive safe integer")
    else .ok rational.num
  | _ => fail (label ++ literal " must be a positive safe integer")

/-- `range`, without the check of the command type. -/
def range (value : Option Value) (label : Text) : Except Text SupportedVersionRange :=
  match value with
  | some (.object members) =>
    match positive (members.lookup (literal "minimum_supported"))
        (label ++ literal ".minimum_supported") with
    | .error refused => .error refused
    | .ok minimum =>
      match positive (members.lookup (literal "current")) (label ++ literal ".current") with
      | .error refused => .error refused
      | .ok current =>
        match positive (members.lookup (literal "maximum_supported"))
            (label ++ literal ".maximum_supported") with
        | .error refused => .error refused
        | .ok maximum =>
          if !(decide (minimum ≤ current) && decide (current ≤ maximum)) then
            fail (label ++ literal " has an invalid range")
          else .ok ⟨⟨minimum, maximum⟩, current⟩
  | _ => fail (label ++ literal " must be an object")

/-- `range` of a command: the same, with its command type, a text that is not empty. -/
def commandRange (value : Value) (label : Text) : Except Text (Text × SupportedVersionRange) :=
  match range (some value) label with
  | .error refused => .error refused
  | .ok supported =>
    match value with
    | .object members =>
      match members.lookup (literal "command_type") with
      | some (.text (unit :: units)) => .ok (unit :: units, supported)
      | _ => fail (label ++ literal ".command_type is invalid")
    | _ => fail (label ++ literal ".command_type is invalid")

/-- What `loadSupport` returns. -/
structure Support where
  api : SupportedVersionRange
  commands : List (Text × SupportedVersionRange)
deriving DecidableEq

theorem lawfulText : LawfulBEq Text := inferInstance

attribute [local instance] lawfulText

/-- The loop of `loadSupport`, at an index and with the commands loaded so far. -/
def loadCommands (index : Nat) (commands : List (Text × SupportedVersionRange)) :
    List Value → Except Text (List (Text × SupportedVersionRange))
  | [] => .ok commands
  | item :: rest =>
    match commandRange item
        (literal "contract.commands[" ++ literal (toString index) ++ literal "]") with
    | .error refused => .error refused
    | .ok parsed =>
      if parsed.1 ∈ commands.map Prod.fst then fail (literal "duplicate command " ++ parsed.1)
      else loadCommands (index + 1) (commands ++ [parsed]) rest

/-- `loadSupport`, on what reading and parsing the file at `path` gave. Without a
contract it returns nothing if that is allowed. -/
def loadSupport (path : Text) (read : Except Text Value) (allowMissing : Bool) :
    Except Text (Option Support) :=
  match read with
  | .error message => fail (literal "cannot read " ++ path ++ literal ": " ++ message)
  | .ok (.object document) =>
    match document.lookup (literal "contract") with
    | none =>
      if allowMissing then .ok none else fail (path ++ literal " is missing contract metadata")
    | some (.object contract) =>
      match contract.lookup (literal "schema_version"), contract.lookup (literal "commands") with
      | some (.text version), some (.array items) =>
        if version ≠ literal "1" then fail (path ++ literal " has invalid contract metadata")
        else
          match range (contract.lookup (literal "api")) (literal "contract.api") with
          | .error refused => .error refused
          | .ok api =>
            match loadCommands 0 [] items with
            | .error refused => .error refused
            | .ok commands => .ok (some ⟨api, commands⟩)
      | _, _ => fail (path ++ literal " has invalid contract metadata")
    | some _ => fail (path ++ literal " has invalid contract metadata")
  | .ok _ => fail (path ++ literal " must contain a JSON object")

/-- Whether a range no longer covers another. -/
def contracted (old next : VersionRange) : Bool :=
  decide (old.minimumSupported < next.minimumSupported) ||
    decide (next.maximumSupported < old.maximumSupported)

/-- What the loop of `supportBreakingChanges` reports of one command. -/
def commandChanges (candidate : Support) (name : Text) (old : SupportedVersionRange) : List Text :=
  match candidate.commands.lookup name with
  | none => [literal "command removed: " ++ name]
  | some next =>
    if contracted old.toVersionRange next.toVersionRange then
      [literal "command supported range contracted: " ++ name]
    else []

/-- `supportBreakingChanges`. -/
def supportBreakingChanges (base : Option Support) (candidate : Support) : List Text :=
  match base with
  | none => []
  | some base =>
    (if contracted base.api.toVersionRange candidate.api.toVersionRange then
        [literal "API supported range contracted"]
      else []) ++
      base.commands.flatMap fun command => commandChanges candidate command.1 command.2

/-- The metadata that a server with this support advertises. -/
def Support.discovery (support : Support) : ContractDiscovery Text where
  schemaVersion := "1"
  api := support.api
  commands := support.commands.map fun command =>
    { toSupportedVersionRange := command.2, commandType := command.1 }

/-- Metadata that `loadSupport` accepts, from some file. -/
def Accepted (support : Support) : Prop :=
  ∃ path read allowMissing, loadSupport path read allowMissing = .ok (some support)

/-! ## What is loaded -/

theorem positive_ok (value : Option Value) (label : Text) (version : Int)
    (loaded : positive value label = .ok version) : Representable version := by
  unfold positive at loaded
  split at loaded
  · rename_i rational
    split at loaded
    · cases loaded
    · rename_i accepted
      cases loaded
      simp only [Number.isSafeInteger, Number.rational, Option.any_some, Bool.or_eq_true,
        Bool.not_eq_true', ← Bool.not_eq_true, Bool.and_eq_true, beq_iff_eq, decide_eq_true_eq,
        not_or, not_not, Int.not_lt] at accepted
      obtain ⟨⟨_, small⟩, least⟩ := accepted
      exact ⟨least, by omega⟩
  · cases loaded

theorem range_ok (value : Option Value) (label : Text) (supported : SupportedVersionRange)
    (loaded : range value label = .ok supported) : supported.Valid := by
  unfold range at loaded
  split at loaded
  · split at loaded
    · cases loaded
    · rename_i minimum least
      split at loaded
      · cases loaded
      · rename_i current _
        split at loaded
        · cases loaded
        · rename_i maximum greatest
          split at loaded
          · cases loaded
          · rename_i ordered
            cases loaded
            simp only [Bool.not_eq_true', ← Bool.not_eq_true, Bool.and_eq_true, decide_eq_true_eq,
              not_not] at ordered
            exact ⟨⟨positive_ok _ _ _ least, positive_ok _ _ _ greatest⟩, ordered⟩
  · cases loaded

theorem commandRange_ok (value : Value) (label : Text) (parsed : Text × SupportedVersionRange)
    (loaded : commandRange value label = .ok parsed) : parsed.2.Valid := by
  unfold commandRange at loaded
  split at loaded
  · cases loaded
  · rename_i supported checked
    split at loaded
    · split at loaded
      · cases loaded
        exact range_ok _ _ _ checked
      · cases loaded
    · cases loaded

/-- Support that a client accepts when it is advertised. -/
structure Support.Valid (support : Support) : Prop where
  api : support.api.Valid
  distinct : (support.commands.map Prod.fst).Nodup
  commands : ∀ command ∈ support.commands, command.2.Valid

theorem loadCommands_ok (index : Nat) (commands result : List (Text × SupportedVersionRange))
    (items : List Value) (distinct : (commands.map Prod.fst).Nodup)
    (valid : ∀ command ∈ commands, command.2.Valid)
    (loaded : loadCommands index commands items = .ok result) :
    (result.map Prod.fst).Nodup ∧ ∀ command ∈ result, command.2.Valid := by
  induction items generalizing index commands with
  | nil =>
    cases loaded
    exact ⟨distinct, valid⟩
  | cons item rest inductionHypothesis =>
    unfold loadCommands at loaded
    split at loaded
    · cases loaded
    · rename_i parsed checked
      split at loaded
      · cases loaded
      · rename_i fresh
        refine inductionHypothesis _ _ ?_ ?_ loaded
        · rw [List.map_append, List.map_singleton, List.nodup_append]
          refine ⟨distinct, List.nodup_singleton _, ?_⟩
          rintro name member other single rfl
          exact fresh (List.mem_singleton.mp single ▸ member)
        · intro command member
          rcases List.mem_append.mp member with earlier | last
          · exact valid command earlier
          · exact List.mem_singleton.mp last ▸ commandRange_ok _ _ _ checked

/-- Accepted support is valid. -/
theorem Accepted.valid {support : Support} (accepted : Accepted support) : support.Valid := by
  obtain ⟨path, read, allowMissing, loaded⟩ := accepted
  unfold loadSupport at loaded
  split at loaded
  · cases loaded
  · split at loaded
    · split at loaded
      · cases loaded
      · cases loaded
    · split at loaded
      · split at loaded
        · cases loaded
        · split at loaded
          · cases loaded
          · rename_i api apiLoaded
            split at loaded
            · cases loaded
            · rename_i commands commandsLoaded
              cases loaded
              obtain ⟨distinct, valid⟩ :=
                loadCommands_ok 0 [] commands _ List.nodup_nil (by simp) commandsLoaded
              exact ⟨range_ok _ _ _ apiLoaded, distinct, valid⟩
      · cases loaded
    · cases loaded
  · cases loaded

/-- Valid support is advertised as valid metadata. -/
theorem Support.Valid.discovery {support : Support} (valid : support.Valid) :
    support.discovery.Valid where
  schema := rfl
  api := valid.api
  distinct := by
    simpa only [Support.discovery, List.map_map, Function.comp_def] using valid.distinct
  commands := by
    intro command member
    obtain ⟨loaded, among, rfl⟩ := List.mem_map.mp member
    exact valid.commands loaded among

/-! ## What the gate promises -/

/-- The gate finds no breaking change. -/
def NoBreakingChanges (base candidate : Support) : Prop :=
  supportBreakingChanges (some base) candidate = []

/-- A range covers another. -/
def VersionRange.Covers (next old : VersionRange) : Prop := old.versions ⊆ next.versions

theorem contracted_iff (old next : VersionRange) :
    contracted old next = false ↔
      next.minimumSupported ≤ old.minimumSupported ∧
        old.maximumSupported ≤ next.maximumSupported := by
  simp only [contracted, Bool.or_eq_false_iff, decide_eq_false_iff_not, Int.not_lt]

theorem covers_of_kept (old next : VersionRange) (kept : contracted old next = false) :
    next.Covers old := by
  obtain ⟨least, greatest⟩ := (contracted_iff old next).mp kept
  exact Set.Icc_subset_Icc least greatest

theorem commandChanges_none (candidate : Support) (name : Text) (old : SupportedVersionRange) :
    commandChanges candidate name old = [] ↔
      ∃ next, candidate.commands.lookup name = some next ∧
        contracted old.toVersionRange next.toVersionRange = false := by
  unfold commandChanges
  cases found : candidate.commands.lookup name with
  | none => simp
  | some next =>
    cases kept : contracted old.toVersionRange next.toVersionRange <;> simp [kept]

/-- The gate passes exactly when no range has contracted and no command is gone. -/
theorem noBreakingChanges_iff (base candidate : Support) :
    NoBreakingChanges base candidate ↔
      contracted base.api.toVersionRange candidate.api.toVersionRange = false ∧
        ∀ command ∈ base.commands, ∃ next, candidate.commands.lookup command.1 = some next ∧
          contracted command.2.toVersionRange next.toVersionRange = false := by
  have apiChanges : (if contracted base.api.toVersionRange candidate.api.toVersionRange then
      [literal "API supported range contracted"] else []) = [] ↔
      contracted base.api.toVersionRange candidate.api.toVersionRange = false := by
    cases contracted base.api.toVersionRange candidate.api.toVersionRange <;> simp
  simp only [NoBreakingChanges, supportBreakingChanges, List.append_eq_nil_iff, apiChanges,
    List.flatMap_eq_nil_iff, commandChanges_none]

/-- Loaded commands are found under their names. -/
theorem lookup_of_mem {commands : List (Text × SupportedVersionRange)}
    (distinct : (commands.map Prod.fst).Nodup) {command : Text × SupportedVersionRange}
    (member : command ∈ commands) : commands.lookup command.1 = some command.2 := by
  induction commands with
  | nil => cases member
  | cons first rest inductionHypothesis =>
    rw [List.map_cons, List.nodup_cons] at distinct
    obtain ⟨name, supported⟩ := first
    rw [List.lookup_cons]
    rcases List.mem_cons.mp member with rfl | later
    · simp
    · have differs : (command.1 == name) = false := by
        rw [beq_eq_false_iff_ne]
        rintro rfl
        exact distinct.1 (List.mem_map.mpr ⟨command, later, rfl⟩)
      rw [differs]
      exact inductionHypothesis distinct.2 later

theorem mem_of_lookup {commands : List (Text × SupportedVersionRange)} {name : Text}
    {supported : SupportedVersionRange} (found : commands.lookup name = some supported) :
    (name, supported) ∈ commands := by
  obtain ⟨earlier, later, rfl, _⟩ := List.lookup_eq_some_iff.mp found
  simp

/-- Accepted support breaks nothing of its own. -/
theorem noBreakingChanges_refl (support : Support) (accepted : Accepted support) :
    NoBreakingChanges support support := by
  have unchanged : ∀ supported : VersionRange, contracted supported supported = false :=
    fun supported => (contracted_iff supported supported).mpr ⟨le_rfl, le_rfl⟩
  refine (noBreakingChanges_iff support support).mpr ⟨unchanged _, ?_⟩
  intro command member
  exact ⟨command.2, lookup_of_mem accepted.valid.distinct member, unchanged _⟩

/-- What breaks nothing in two steps breaks nothing at once. -/
theorem noBreakingChanges_trans (first second third : Support)
    (earlier : NoBreakingChanges first second) (later : NoBreakingChanges second third) :
    NoBreakingChanges first third := by
  obtain ⟨apiEarlier, commandsEarlier⟩ := (noBreakingChanges_iff _ _).mp earlier
  obtain ⟨apiLater, commandsLater⟩ := (noBreakingChanges_iff _ _).mp later
  have both : ∀ old middle next : VersionRange, contracted old middle = false →
      contracted middle next = false → contracted old next = false := by
    intro old middle next one two
    obtain ⟨leastOne, greatestOne⟩ := (contracted_iff old middle).mp one
    obtain ⟨leastTwo, greatestTwo⟩ := (contracted_iff middle next).mp two
    exact (contracted_iff old next).mpr
      ⟨leastTwo.trans leastOne, greatestOne.trans greatestTwo⟩
  refine (noBreakingChanges_iff _ _).mpr ⟨both _ _ _ apiEarlier apiLater, ?_⟩
  intro command member
  obtain ⟨middle, foundMiddle, keptMiddle⟩ := commandsEarlier command member
  obtain ⟨next, foundNext, keptNext⟩ := commandsLater _ (mem_of_lookup foundMiddle)
  exact ⟨next, foundNext, both _ _ _ keptMiddle keptNext⟩

/-- One contract settles on versions at least as high as another, for the same command
types. -/
structure AtLeast (later earlier : NegotiatedContract Text) : Prop where
  api : earlier.apiVersion ≤ later.apiVersion
  commands : List.Forall₂ (fun before after => after.1 = before.1 ∧ before.2 ≤ after.2)
    earlier.commandVersions later.commandVersions

/-- A range that covers another has a common version at least as high. -/
theorem greatest_covered (client old next : VersionRange) (covers : next.Covers old)
    (version : Int) (greatest : IsGreatest (client.versions ∩ old.versions) version) :
    ∃ higher, version ≤ higher ∧ IsGreatest (client.versions ∩ next.versions) higher := by
  have inclusion : client.versions ∩ old.versions ⊆ client.versions ∩ next.versions :=
    Set.inter_subset_inter_right _ covers
  obtain ⟨higher, best⟩ := (overlap_greatest client next).mp ⟨version, inclusion greatest.1⟩
  exact ⟨higher, best.2 (inclusion greatest.1), best⟩

/-- What settles with the base settles with the candidate, no lower. -/
theorem settles_covered (base candidate : Support) (passes : NoBreakingChanges base candidate)
    (required : Text × VersionRange) (agreed : Text × Int)
    (settles : Settles base.discovery.commands required agreed) :
    ∃ later, Settles candidate.discovery.commands required later ∧ later.1 = agreed.1 ∧
      agreed.2 ≤ later.2 := by
  obtain ⟨named, bounded, server, advertised, typed, greatest⟩ := settles
  obtain ⟨loaded, among, rfl⟩ := List.mem_map.mp advertised
  obtain ⟨next, found, kept⟩ := ((noBreakingChanges_iff _ _).mp passes).2 loaded among
  obtain ⟨higher, above, best⟩ :=
    greatest_covered required.2 _ _ (covers_of_kept _ _ kept) agreed.2 greatest
  refine ⟨(required.1, higher), ⟨rfl, bounded, ?_⟩, named.symm, above⟩
  exact ⟨{ toSupportedVersionRange := next, commandType := loaded.1 },
    List.mem_map.mpr ⟨_, mem_of_lookup found, rfl⟩, typed, best⟩

/-- All that a client requires settles with the candidate, no lower. -/
theorem commands_covered (base candidate : Support) (passes : NoBreakingChanges base candidate)
    (required : List (Text × VersionRange)) (agreed : List (Text × Int))
    (settled : List.Forall₂ (Settles base.discovery.commands) required agreed) :
    ∃ versions, List.Forall₂ (Settles candidate.discovery.commands) required versions ∧
      List.Forall₂ (fun before after => after.1 = before.1 ∧ before.2 ≤ after.2) agreed
        versions := by
  induction settled with
  | nil => exact ⟨[], .nil, .nil⟩
  | cons first _ inductionHypothesis =>
    obtain ⟨versions, others, higher⟩ := inductionHypothesis
    obtain ⟨later, settles, named, above⟩ := settles_covered base candidate passes _ _ first
    exact ⟨later :: versions, .cons settles others, .cons ⟨named, above⟩ higher⟩

/-- A client that negotiates with the base negotiates with the candidate, no lower. -/
theorem negotiates_covered (base candidate : Support) (candidateAccepted : Accepted candidate)
    (passes : NoBreakingChanges base candidate) (clientSupport : ClientSupport Text)
    (contract : NegotiatedContract Text)
    (negotiated : negotiateContract clientSupport base.discovery = .ok contract) :
    ∃ later, negotiateContract clientSupport candidate.discovery = .ok later ∧
      AtLeast later contract := by
  obtain ⟨_, agrees⟩ := (negotiateContract_ok _ _ _).mp negotiated
  obtain ⟨apiVersion, above, best⟩ := greatest_covered _ _ _
    (covers_of_kept _ _ ((noBreakingChanges_iff _ _).mp passes).1) _ agrees.api
  obtain ⟨versions, settles, higher⟩ := commands_covered base candidate passes _ _ agrees.commands
  exact ⟨⟨apiVersion, versions⟩, (negotiateContract_ok _ _ _).mpr
    ⟨candidateAccepted.valid.discovery, agrees.bounded, best, settles⟩, above, higher⟩

/-- A chain of releases breaks nothing of its first. -/
theorem chain_keeps (first : Support) (releases : List Support)
    (chain : List.IsChain NoBreakingChanges (first :: releases)) :
    ∀ release ∈ releases, NoBreakingChanges first release := by
  induction releases generalizing first with
  | nil => simp
  | cons second rest inductionHypothesis =>
    rw [List.isChain_cons_cons] at chain
    intro release member
    rcases List.mem_cons.mp member with rfl | later
    · exact chain.1
    · exact noBreakingChanges_trans _ _ _ chain.1
        (inductionHypothesis second chain.2 release later)

/-- The support compatibility gate is sound. A client that negotiates with the base
negotiates with the candidate at versions at least as high; no breaking change is
reflexive and transitive; and a chain of accepted releases never strands a client of
its first. -/
theorem compatibility_gate_sound :
    (∀ base candidate, Accepted base → Accepted candidate → NoBreakingChanges base candidate →
      ∀ clientSupport contract, negotiateContract clientSupport base.discovery = .ok contract →
        ∃ later, negotiateContract clientSupport candidate.discovery = .ok later ∧
          AtLeast later contract) ∧
      (∀ support, Accepted support → NoBreakingChanges support support) ∧
      (∀ first second third, Accepted first → Accepted second → Accepted third →
        NoBreakingChanges first second → NoBreakingChanges second third →
        NoBreakingChanges first third) ∧
      ∀ first releases, (∀ release ∈ first :: releases, Accepted release) →
        List.IsChain NoBreakingChanges (first :: releases) →
        ∀ clientSupport contract, negotiateContract clientSupport first.discovery = .ok contract →
          ∀ release ∈ releases,
            ∃ later, negotiateContract clientSupport release.discovery = .ok later ∧
              AtLeast later contract := by
  refine ⟨?_, noBreakingChanges_refl, ?_, ?_⟩
  · intro base candidate _ accepted passes clientSupport contract negotiated
    exact negotiates_covered base candidate accepted passes clientSupport contract negotiated
  · intro first second third _ _ _ earlier later
    exact noBreakingChanges_trans first second third earlier later
  · intro first releases accepted chain clientSupport contract negotiated release member
    exact negotiates_covered first release (accepted release (List.mem_cons_of_mem _ member))
      (chain_keeps first releases chain release member) clientSupport contract negotiated

namespace Sample

/-- A document that supports one command and the API up to some version. -/
def document (maximum : Nat) : Value :=
  let supported : List (Text × Value) :=
    [(literal "current", .number (.finite 1)), (literal "minimum_supported", .number (.finite 1)),
      (literal "maximum_supported", .number (.finite maximum))]
  .object [(literal "contract", .object
    [(literal "schema_version", .text (literal "1")), (literal "api", .object supported),
      (literal "commands", .array
        [.object ((literal "command_type", .text (literal "journey.update")) :: supported)])])]

/-- What is loaded of it. -/
def support (maximum : Int) : Support :=
  ⟨⟨⟨1, maximum⟩, 1⟩, [(literal "journey.update", ⟨⟨1, maximum⟩, 1⟩)]⟩

/-- A client for two versions of both. -/
def textClient : ClientSupport Text where
  api := ⟨1, 2⟩
  commands := [(literal "journey.update", ⟨1, 2⟩)]
  distinct := by simp

/-- A client of the first release negotiates with the second, which supports one version
more. -/
theorem compatibility_gate_sound_sample :
    ∃ later, negotiateContract textClient (support 2).discovery = .ok later ∧
      AtLeast later ⟨1, [(literal "journey.update", 1)]⟩ := by
  have first : Accepted (support 1) := ⟨[], .ok (document 1), false, by rfl⟩
  have second : Accepted (support 2) := ⟨[], .ok (document 2), false, by rfl⟩
  have passes : NoBreakingChanges (support 1) (support 2) := by
    unfold NoBreakingChanges
    decide +kernel
  exact compatibility_gate_sound.1 (support 1) (support 2) first second passes textClient _
    (by decide +kernel)

end Sample

end TraxOs.Contract
