import TraxOs.Contract.Definitions
import TraxOs.Theory.Alignments

/-!
# Server and client agree on what is supported

The ranges that the server advertises stand for its definitions: a version is in the
range of a type exactly when a definition has this type and version, because the
compression refuses gaps. The client's negotiation over these ranges therefore
succeeds exactly when there is something to agree on, and what it agrees on is
defined, so that the server resolves it.

Both sides speak in numbers that JSON carries exactly. A definition with a version
beyond the safe integers makes the client refuse the metadata as a whole, whether or
not it requires the command.
-/

namespace TraxOs.Contract

open TraxOs.Theory
open TraxOs.ApiClient (maxSafeInteger)

/-! ## Grouping -/

/-- The groups stand for some definitions: one group for each type, with exactly its
versions. -/
structure Grouped (grouped : List (String × List Int)) (definitions : List CommandDefinition) :
    Prop where
  distinct : (grouped.map Prod.fst).Nodup
  inhabited : ∀ group ∈ grouped, group.2 ≠ []
  exact : ∀ commandType version,
    (∃ group ∈ grouped, group.1 = commandType ∧ version ∈ group.2) ↔
      ∃ definition ∈ definitions,
        definition.commandType = commandType ∧ definition.version = version

theorem addVersion_names (commandType : String) (version : Int)
    (grouped : List (String × List Int)) (name : String) :
    name ∈ (addVersion commandType version grouped).map Prod.fst ↔
      name = commandType ∨ name ∈ grouped.map Prod.fst := by
  induction grouped with
  | nil => simp [addVersion]
  | cons group rest inductionHypothesis =>
    obtain ⟨first, versions⟩ := group
    by_cases same : first = commandType
    · rw [addVersion, if_pos same]
      simp only [List.map_cons, List.mem_cons, same, or_self_left]
    · rw [addVersion, if_neg same]
      simp only [List.map_cons, List.mem_cons, inductionHypothesis]
      tauto

theorem addVersion_distinct (commandType : String) (version : Int)
    (grouped : List (String × List Int)) (distinct : (grouped.map Prod.fst).Nodup) :
    ((addVersion commandType version grouped).map Prod.fst).Nodup := by
  induction grouped with
  | nil => simp [addVersion]
  | cons group rest inductionHypothesis =>
    obtain ⟨first, versions⟩ := group
    rw [List.map_cons, List.nodup_cons] at distinct
    by_cases same : first = commandType
    · rw [addVersion, if_pos same]
      exact List.nodup_cons.mpr distinct
    · rw [addVersion, if_neg same]
      refine List.nodup_cons.mpr ⟨?_, inductionHypothesis distinct.2⟩
      intro again
      rcases (addVersion_names _ _ _ _).mp again with new | old
      · exact same new
      · exact distinct.1 old

theorem addVersion_inhabited (commandType : String) (version : Int)
    (grouped : List (String × List Int)) (inhabited : ∀ group ∈ grouped, group.2 ≠ []) :
    ∀ group ∈ addVersion commandType version grouped, group.2 ≠ [] := by
  induction grouped with
  | nil => simp [addVersion]
  | cons group rest inductionHypothesis =>
    obtain ⟨first, versions⟩ := group
    obtain ⟨here, later⟩ := List.forall_mem_cons.mp inhabited
    by_cases same : first = commandType
    · rw [addVersion, if_pos same]
      refine List.forall_mem_cons.mpr ⟨?_, later⟩
      exact List.ne_nil_of_mem (List.mem_insert_self)
    · rw [addVersion, if_neg same]
      exact List.forall_mem_cons.mpr ⟨here, inductionHypothesis later⟩

theorem addVersion_exact (commandType : String) (version : Int)
    (grouped : List (String × List Int)) (name : String) (candidate : Int) :
    (∃ group ∈ addVersion commandType version grouped, group.1 = name ∧ candidate ∈ group.2) ↔
      (commandType = name ∧ version = candidate) ∨
        ∃ group ∈ grouped, group.1 = name ∧ candidate ∈ group.2 := by
  induction grouped with
  | nil =>
    simp only [addVersion, List.mem_singleton, exists_eq_left, List.not_mem_nil, false_and,
      exists_false, or_false, eq_comm]
  | cons group rest inductionHypothesis =>
    obtain ⟨first, versions⟩ := group
    by_cases same : first = commandType
    · rw [addVersion, if_pos same]
      simp only [List.exists_mem_cons_iff, List.mem_insert_iff, same]
      grind
    · rw [addVersion, if_neg same]
      simp only [List.exists_mem_cons_iff, inductionHypothesis]
      tauto

/-- Grouping keeps every definition that it passes, all of them positive. -/
theorem groupVersions_ok (grouped result : List (String × List Int))
    (earlier definitions : List CommandDefinition) (held : Grouped grouped earlier)
    (collected : groupVersions grouped definitions = .ok result) :
    Grouped result (earlier ++ definitions) ∧ ∀ definition ∈ definitions, 1 ≤ definition.version := by
  induction definitions generalizing grouped earlier with
  | nil =>
    cases collected
    exact ⟨(List.append_nil earlier).symm ▸ held, by simp⟩
  | cons definition rest inductionHypothesis =>
    unfold groupVersions at collected
    split at collected
    · cases collected
    · rename_i positive
      have next : Grouped (addVersion definition.commandType definition.version grouped)
          (earlier ++ [definition]) := by
        refine ⟨addVersion_distinct _ _ _ held.distinct, addVersion_inhabited _ _ _ held.inhabited,
          ?_⟩
        intro commandType version
        rw [addVersion_exact, held.exact]
        simp only [List.mem_append, List.mem_singleton]
        grind
      obtain ⟨whole, positives⟩ := inductionHypothesis _ _ next collected
      rw [List.append_assoc] at whole
      exact ⟨whole, List.forall_mem_cons.mpr ⟨by omega, positives⟩⟩

/-! ## Ranges -/

theorem mem_integersBetween (first last value : Int) :
    value ∈ integersBetween first last ↔ first ≤ value ∧ value ≤ last := by
  unfold integersBetween
  rw [List.mem_map]
  constructor
  · rintro ⟨step, member, rfl⟩
    have bounded := List.mem_range.mp member
    omega
  · rintro ⟨least, greatest⟩
    refine ⟨(value - first).toNat, List.mem_range.mpr ?_, ?_⟩ <;> omega

/-- The range of a type holds exactly the versions of its group. -/
theorem versionRange_ok (commandType : String) (candidates : List Int)
    (range : CommandVersionRange) (compressed : versionRange commandType candidates = .ok range) :
    range.commandType = commandType ∧ range.current = range.maximumSupported ∧
      ∀ version, version ∈ candidates ↔
        range.minimumSupported ≤ version ∧ version ≤ range.maximumSupported := by
  simp only [versionRange] at compressed
  split at compressed
  · cases compressed
  · rename_i contiguous
    cases compressed
    refine ⟨rfl, rfl, ?_⟩
    intro version
    rw [← mem_integersBetween, ← not_not.mp contiguous, mem_sortBy]

theorem versionRanges_ok (groups : List (String × List Int)) (ranges : List CommandVersionRange)
    (compressed : versionRanges groups = .ok ranges) :
    List.Forall₂ (fun group range => versionRange group.1 group.2 = .ok range) groups ranges := by
  induction groups generalizing ranges with
  | nil =>
    cases compressed
    exact .nil
  | cons group rest inductionHypothesis =>
    obtain ⟨commandType, candidates⟩ := group
    unfold versionRanges at compressed
    split at compressed
    · cases compressed
    · rename_i range first
      split at compressed
      · cases compressed
      · rename_i others later
        cases compressed
        exact .cons first (inductionHypothesis _ later)

/-- The ranges stand for some definitions: one range for each type, whose last version
is current, and in it exactly the versions defined. -/
structure Compresses (ranges : List CommandVersionRange) (definitions : List CommandDefinition) :
    Prop where
  distinct : (ranges.map fun range => range.commandType).Nodup
  current : ∀ range ∈ ranges, range.current = range.maximumSupported
  inhabited : ∀ range ∈ ranges, range.minimumSupported ≤ range.maximumSupported
  positive : ∀ definition ∈ definitions, 1 ≤ definition.version
  exact : ∀ commandType version,
    (∃ range ∈ ranges, range.commandType = commandType ∧
      range.minimumSupported ≤ version ∧ version ≤ range.maximumSupported) ↔
      ∃ definition ∈ definitions,
        definition.commandType = commandType ∧ definition.version = version

theorem commandVersionRanges_ok (definitions : List CommandDefinition)
    (ranges : List CommandVersionRange)
    (compressed : commandVersionRanges definitions = .ok ranges) :
    Compresses ranges definitions := by
  unfold commandVersionRanges at compressed
  split at compressed
  · cases compressed
  · rename_i grouped collected
    have empty : Grouped [] [] := ⟨List.nodup_nil, by simp, by simp⟩
    obtain ⟨held, positive⟩ := groupVersions_ok [] grouped [] definitions empty collected
    rw [List.nil_append] at held
    have each := versionRanges_ok _ _ compressed
    have types := aligned_map each Prod.fst (fun range => range.commandType)
      fun _ _ made => (versionRange_ok _ _ _ made).1.symm
    have made : ∀ range ∈ ranges, ∃ group ∈ grouped, versionRange group.1 group.2 = .ok range := by
      intro range member
      obtain ⟨group, among, made⟩ := aligned_source each member
      exact ⟨group, (mem_sortBy _ _ _).mp among, made⟩
    refine ⟨?_, ?_, ?_, positive, ?_⟩
    · rw [← types]
      exact ((sortBy_perm _ grouped).map Prod.fst).nodup_iff.mpr held.distinct
    · intro range member
      obtain ⟨group, _, compression⟩ := made range member
      exact (versionRange_ok _ _ _ compression).2.1
    · intro range member
      obtain ⟨group, among, compression⟩ := made range member
      obtain ⟨version, inside⟩ := List.exists_mem_of_ne_nil _ (held.inhabited group among)
      have bounds := ((versionRange_ok _ _ _ compression).2.2 version).mp inside
      exact bounds.1.trans bounds.2
    · intro commandType version
      rw [← held.exact]
      constructor
      · rintro ⟨range, member, named, bounds⟩
        obtain ⟨group, among, compression⟩ := made range member
        obtain ⟨same, _, versions⟩ := versionRange_ok _ _ _ compression
        exact ⟨group, among, same.symm.trans named, (versions version).mpr bounds⟩
      · rintro ⟨group, among, named, inside⟩
        obtain ⟨range, member, compression⟩ :=
          aligned_result each ((mem_sortBy _ _ _).mpr among)
        obtain ⟨same, _, versions⟩ := versionRange_ok _ _ _ compression
        exact ⟨range, member, same.trans named, (versions version).mp inside⟩

/-! ## Negotiating over the ranges -/

theorem overlap_greatest (client server : VersionRange) :
    client.Overlaps server ↔
      ∃ version, IsGreatest (client.versions ∩ server.versions) version := by
  constructor
  · rintro ⟨version, inside⟩
    have common : client.versions ∩ server.versions =
        Set.Icc (max client.minimumSupported server.minimumSupported)
          (min client.maximumSupported server.maximumSupported) := Set.Icc_inter_Icc
    rw [common] at inside ⊢
    exact ⟨_, isGreatest_Icc (inside.1.trans inside.2)⟩
  · rintro ⟨version, greatest⟩
    exact ⟨version, greatest.1⟩

/-- What a range advertises. -/
theorem mem_contractDiscovery (api : SupportedVersionRange) (ranges : List CommandVersionRange)
    (advertised : CommandVersionSupport String) :
    advertised ∈ (contractDiscovery api ranges).commands ↔
      ∃ range ∈ ranges, advertised =
        { commandType := range.commandType
          current := range.current
          minimumSupported := range.minimumSupported
          maximumSupported := range.maximumSupported } := by
  simp only [contractDiscovery, List.mem_map, eq_comm]

/-- The advertised metadata is valid exactly when the API range is and every version
defined is representable. -/
theorem contractDiscovery_valid (definitions : List CommandDefinition)
    (ranges : List CommandVersionRange) (compresses : Compresses ranges definitions)
    (api : SupportedVersionRange) :
    (contractDiscovery api ranges).Valid ↔
      api.Valid ∧ ∀ definition ∈ definitions, definition.version ≤ maxSafeInteger := by
  constructor
  · intro valid
    refine ⟨valid.api, ?_⟩
    intro definition member
    obtain ⟨range, among, _, _, below⟩ := (compresses.exact definition.commandType
      definition.version).mpr ⟨definition, member, rfl, rfl⟩
    have bounded := (valid.commands _ ((mem_contractDiscovery api ranges _).mpr
      ⟨range, among, rfl⟩)).bounded.2.2
    exact below.trans bounded
  · rintro ⟨apiValid, small⟩
    refine ⟨rfl, apiValid, ?_, ?_⟩
    · simpa only [contractDiscovery, List.map_map, Function.comp_def] using compresses.distinct
    · intro advertised member
      obtain ⟨range, among, rfl⟩ := (mem_contractDiscovery api ranges advertised).mp member
      have ordered := compresses.inhabited range among
      have representable : ∀ version, range.minimumSupported ≤ version →
          version ≤ range.maximumSupported → Representable version := by
        intro version least greatest
        obtain ⟨definition, defined, _, rfl⟩ := (compresses.exact range.commandType version).mp
          ⟨range, among, rfl, least, greatest⟩
        exact ⟨compresses.positive definition defined, small definition defined⟩
      refine ⟨⟨representable _ le_rfl ordered, representable _ ordered le_rfl⟩, ?_⟩
      exact ⟨(compresses.current range among).symm ▸ ordered,
        (compresses.current range among).symm ▸ le_rfl⟩

/-- What the client may require and the server offer: each required type is advertised
with an overlapping range. -/
def Supports (metadata : ContractDiscovery String) (clientSupport : ClientSupport String) : Prop :=
  clientSupport.api.Overlaps metadata.api.toVersionRange ∧
    ∀ required ∈ clientSupport.commands, ∃ advertised ∈ metadata.commands,
      advertised.commandType = required.1 ∧ required.2.Overlaps advertised.toVersionRange

/-- Every bound of the client's support is representable. -/
def ClientSupport.Bounded (clientSupport : ClientSupport String) : Prop :=
  clientSupport.api.Bounded ∧ ∀ required ∈ clientSupport.commands, required.2.Bounded

/-- Over valid metadata, a negotiation succeeds exactly when the client is bounded and
supported. -/
theorem negotiates_iff (metadata : ContractDiscovery String) (valid : metadata.Valid)
    (clientSupport : ClientSupport String) :
    (∃ contract, negotiateContract clientSupport metadata = .ok contract) ↔
      clientSupport.Bounded ∧ Supports metadata clientSupport := by
  constructor
  · rintro ⟨contract, negotiated⟩
    obtain ⟨_, agrees⟩ := (negotiateContract_ok _ _ _).mp negotiated
    have settled : ∀ required ∈ clientSupport.commands,
        ∃ agreed ∈ contract.commandVersions, Settles metadata.commands required agreed :=
      fun _ member => aligned_result agrees.commands member
    refine ⟨⟨agrees.bounded, ?_⟩, (overlap_greatest _ _).mpr ⟨_, agrees.api⟩, ?_⟩
    · intro required member
      obtain ⟨_, _, _, bounded, _⟩ := settled required member
      exact bounded
    · intro required member
      obtain ⟨_, _, _, _, server, among, named, greatest⟩ := settled required member
      exact ⟨server, among, named, (overlap_greatest _ _).mpr ⟨_, greatest⟩⟩
  · rintro ⟨⟨apiBounded, bounded⟩, overlap, supported⟩
    obtain ⟨apiVersion, greatest⟩ := (overlap_greatest _ _).mp overlap
    have possible : ∀ required ∈ clientSupport.commands,
        ∃ agreed, Settles metadata.commands required agreed := by
      intro required member
      obtain ⟨server, among, named, common⟩ := supported required member
      obtain ⟨version, best⟩ := (overlap_greatest _ _).mp common
      exact ⟨(required.1, version), rfl, bounded required member, server, among, named, best⟩
    obtain ⟨commandVersions, settled⟩ := exists_aligned clientSupport.commands possible
    exact ⟨⟨apiVersion, commandVersions⟩,
      (negotiateContract_ok _ _ _).mpr ⟨valid, apiBounded, greatest, settled⟩⟩

/-- Server and client agree on what is supported. Over the ranges that the server
advertises of its definitions, the client's negotiation succeeds exactly when every
version and bound is representable, the API ranges overlap and every required type is
advertised with an overlapping range; it then settles on the greatest common versions,
and the server resolves each command version that it settles on. -/
theorem version_support_agreement (definitions registry : List CommandDefinition)
    (ranges : List CommandVersionRange) (accepted : immutableRegistry definitions = .ok registry)
    (compressed : commandVersionRanges definitions = .ok ranges) (api : SupportedVersionRange)
    (clientSupport : ClientSupport String) :
    ((∃ contract, negotiateContract clientSupport (contractDiscovery api ranges) = .ok contract) ↔
        (api.Valid ∧ (∀ definition ∈ definitions, definition.version ≤ maxSafeInteger) ∧
          clientSupport.Bounded) ∧
        Supports (contractDiscovery api ranges) clientSupport) ∧
      ∀ contract, negotiateContract clientSupport (contractDiscovery api ranges) = .ok contract →
        IsGreatest (clientSupport.api.versions ∩ api.versions) contract.apiVersion ∧
        List.Forall₂ (Settles (contractDiscovery api ranges).commands) clientSupport.commands
          contract.commandVersions ∧
        ∀ agreed ∈ contract.commandVersions, ∃ definition ∈ definitions,
          definition.key = agreed ∧
            resolveCommand registry agreed.1 agreed.2 = .ok definition := by
  have compresses := commandVersionRanges_ok definitions ranges compressed
  have validity := contractDiscovery_valid definitions ranges compresses api
  obtain rfl := immutableRegistry_ok definitions registry accepted
  constructor
  · constructor
    · rintro ⟨contract, negotiated⟩
      have valid := ((negotiateContract_ok _ _ _).mp negotiated).1
      obtain ⟨bounded, supports⟩ := (negotiates_iff _ valid clientSupport).mp ⟨contract, negotiated⟩
      obtain ⟨apiValid, small⟩ := validity.mp valid
      exact ⟨⟨apiValid, small, bounded⟩, supports⟩
    · rintro ⟨⟨apiValid, small, bounded⟩, supports⟩
      exact (negotiates_iff _ (validity.mpr ⟨apiValid, small⟩) clientSupport).mpr
        ⟨bounded, supports⟩
  · intro contract negotiated
    obtain ⟨_, agrees⟩ := (negotiateContract_ok _ _ _).mp negotiated
    refine ⟨agrees.api, agrees.commands, ?_⟩
    intro agreed member
    obtain ⟨required, _, named, _, server, among, advertised, greatest⟩ :=
      aligned_source agrees.commands member
    obtain ⟨range, held, rfl⟩ := (mem_contractDiscovery api ranges server).mp among
    obtain ⟨definition, defined, type, version⟩ := (compresses.exact agreed.1 agreed.2).mp
      ⟨range, held, advertised.trans named.symm, greatest.1.2⟩
    obtain ⟨resolved, kept, same, resolves⟩ :=
      resolveCommand_defined registry definition defined
    refine ⟨resolved, kept, same.trans (Prod.ext type version), ?_⟩
    rwa [type, version] at resolves

namespace Sample

/-- An API with one version. -/
def api : SupportedVersionRange := ⟨⟨1, 1⟩, 1⟩

/-- A client of one command in its first two versions. -/
def clientSupport : ClientSupport String where
  api := ⟨1, 1⟩
  commands := [("journey.update", ⟨1, 2⟩)]
  distinct := by simp

/-- Two versions of one command, the later one first. -/
def definitions : List CommandDefinition :=
  [⟨"journey.update", 2, "journey.update.v2"⟩, ⟨"journey.update", 1, "journey.update.v1"⟩]

/-- The range of the two versions. -/
def ranges : List CommandVersionRange := [⟨"journey.update", 2, 1, 2⟩]

/-- A registry with a second command whose version no double represents exactly. -/
def distantDefinitions : List CommandDefinition :=
  [⟨"journey.update", 1, "journey.update.v1"⟩,
    ⟨"journey.archive", 9007199254740992, "journey.archive"⟩]

/-- The ranges of the two commands. -/
def distantRanges : List CommandVersionRange :=
  [⟨"journey.archive", 9007199254740992, 9007199254740992, 9007199254740992⟩,
    ⟨"journey.update", 1, 1, 1⟩]

/-- The sample's client settles on a version that the sample's server resolves. -/
theorem version_support_agreement_sample :
    ∃ definition ∈ definitions, definition.key = ("journey.update", 2) ∧
      resolveCommand definitions "journey.update" 2 = .ok definition := by
  have agreement := version_support_agreement definitions definitions ranges (by decide)
    (by decide +kernel) api clientSupport
  exact (agreement.2 ⟨1, [("journey.update", 2)]⟩ (by decide)).2.2 _ (by simp)

/-- A version beyond the safe integers makes the client refuse metadata that supports
everything it requires. -/
theorem distant_version_refused :
    immutableRegistry distantDefinitions = .ok distantDefinitions ∧
      commandVersionRanges distantDefinitions = .ok distantRanges ∧
      Supports (contractDiscovery api distantRanges) clientSupport ∧
      negotiateContract clientSupport (contractDiscovery api distantRanges) =
        .error .invalidContractMetadata := by
  refine ⟨by decide, by decide +kernel, ⟨⟨1, ?_⟩, ?_⟩, by decide⟩
  · exact ⟨⟨le_rfl, le_rfl⟩, le_rfl, le_rfl⟩
  · intro required member
    obtain rfl := List.mem_singleton.mp member
    refine ⟨⟨⟨⟨1, 1⟩, 1⟩, "journey.update"⟩, by decide, rfl, 1, ?_⟩
    exact ⟨⟨le_rfl, by decide⟩, le_rfl, le_rfl⟩

end Sample

end TraxOs.Contract
