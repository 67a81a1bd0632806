import Mathlib.Logic.Function.Basic

/-!
# Retried updates of versioned entries

One party keeps entries with versions. The other one reads them and asks for updates of
what it has read. What it asks for may be lost, and may be delivered late, more than once
and in any order. A delivered update is applied if its entry is still at the version that
it expects, and refused otherwise. Either verdict is kept under the identifier of the
update, and decides when the same update is delivered again.

Who asks again for the same thing repeats the update under its identifier, until it reads
the entries again. This makes retries harmless: an entry rises by one version at most above
the one that was read, and a refusal means that something else was asked for.
-/

namespace TraxOs.Theory

/-- An update of one entry. -/
structure Update (Id Key Body : Type) where
  id : Id
  key : Key
  expected : Nat
  body : Body
deriving DecidableEq

/-- How an update was decided. -/
inductive Verdict where
  | applied
  | refused
deriving DecidableEq

/-- The entries and the verdicts of one party, and what the other one knows: the entries
as it has read them, those of a reading that is not yet complete, and for each entry the
update that a retry repeats. The updates that were asked for stay in between for ever. -/
@[ext] structure Exchange (Id Key Body Content : Type) where
  entries : Key → Option (Nat × Content)
  verdicts : Id → Option Verdict
  known : Key → Option (Nat × Content)
  reading : Option (Key → Option (Nat × Content))
  pending : Key → Option (Update Id Key Body)
  earlier : List (Update Id Key Body)
  since : List (Update Id Key Body)

namespace Exchange

section Invariant

variable {Id Key Body Content : Type} (write : Body → Content)

/-- Everything that was asked for. -/
def asked (exchange : Exchange Id Key Body Content) : List (Update Id Key Body) :=
  exchange.earlier ++ exchange.since

/-- The exchange after a reading of the entries is complete. -/
def reread (exchange : Exchange Id Key Body Content) (seen : Key → Option (Nat × Content)) :
    Exchange Id Key Body Content :=
  { exchange with
    known := seen
    reading := none
    pending := fun _ => none
    earlier := exchange.asked
    since := [] }

/-- Some update has raised an entry from a version. -/
def Raised (exchange : Exchange Id Key Body Content) (key : Key) (version : Nat)
    (update : Update Id Key Body) : Prop :=
  update ∈ exchange.asked ∧ update.key = key ∧ update.expected = version ∧
    exchange.verdicts update.id = some .applied

/-- How a reading relates to the entries: each entry that was read is still as it was, or
one update has raised it by one version; and nothing was asked for above it. -/
structure Tracks (exchange : Exchange Id Key Body Content) (seen : Key → Option (Nat × Content)) :
    Prop where
  close : ∀ key version content, seen key = some (version, content) →
    exchange.entries key = some (version, content) ∨
      ∃ update, exchange.Raised key version update ∧
        exchange.entries key = some (version + 1, write update.body)
  above : ∀ key version content, seen key = some (version, content) →
    ∀ update ∈ exchange.asked, update.key = key → update.expected ≤ version

/-- The invariant of an exchange. -/
structure Coherent (exchange : Exchange Id Key Body Content) : Prop where
  distinct : ∀ update ∈ exchange.asked, ∀ other ∈ exchange.asked, update.id = other.id →
    update = other
  reached : ∀ update ∈ exchange.asked, ∃ version content,
    exchange.entries update.key = some (version, content) ∧ update.expected ≤ version ∧
      ∀ between, update.expected ≤ between → between < version →
        ∃ other, exchange.Raised update.key between other
  applied : ∀ update ∈ exchange.asked, exchange.verdicts update.id = some .applied →
    ∃ version content, exchange.entries update.key = some (version, content) ∧
      update.expected < version ∧ (version = update.expected + 1 → content = write update.body)
  refused : ∀ update ∈ exchange.asked, exchange.verdicts update.id = some .refused →
    ∃ other, exchange.Raised update.key update.expected other
  known : exchange.Tracks write exchange.known
  reading : ∀ seen, exchange.reading = some seen → exchange.Tracks write seen
  pending : ∀ key update, exchange.pending key = some update →
    update ∈ exchange.since ∧ update.key = key
  since : ∀ update ∈ exchange.since, ∃ content,
    exchange.known update.key = some (update.expected, content)
  latest : ∀ update ∈ exchange.since, ∃ last, exchange.pending update.key = some last ∧
    (update.body = last.body → update = last ∨
      ∃ other ∈ exchange.since, other.key = update.key ∧ other.body ≠ last.body)

variable {write} {exchange : Exchange Id Key Body Content}

theorem mem_asked (update : Update Id Key Body) :
    update ∈ exchange.asked ↔ update ∈ exchange.earlier ∨ update ∈ exchange.since :=
  List.mem_append

/-- What has raised an entry stays, as long as its verdict does. -/
theorem Raised.kept {later : Exchange Id Key Body Content} {key : Key} {version : Nat}
    {update : Update Id Key Body} (raised : exchange.Raised key version update)
    (asked : ∀ update ∈ exchange.asked, update ∈ later.asked)
    (verdicts : ∀ id verdict, exchange.verdicts id = some verdict →
      later.verdicts id = some verdict) : later.Raised key version update :=
  ⟨asked _ raised.1, raised.2.1, raised.2.2.1, verdicts _ _ raised.2.2.2⟩

/-- As long as the entries stay and what has raised them does, a reading is as close to them as
it was. -/
theorem Tracks.still_close {later : Exchange Id Key Body Content}
    {seen : Key → Option (Nat × Content)} (tracks : exchange.Tracks write seen)
    (kept : ∀ key version update, exchange.Raised key version update →
      later.Raised key version update)
    (same : later.entries = exchange.entries) (key : Key) (version : Nat) (content : Content)
    (found : seen key = some (version, content)) :
    later.entries key = some (version, content) ∨
      ∃ update, later.Raised key version update ∧
        later.entries key = some (version + 1, write update.body) := by
  rw [same]
  rcases tracks.close key version content found with there | ⟨update, raised, there⟩
  · exact Or.inl there
  · exact Or.inr ⟨update, kept _ _ _ raised, there⟩

/-- Then an entry has also been raised step by step as before. -/
theorem Coherent.still_reached {later : Exchange Id Key Body Content}
    (coherent : exchange.Coherent write)
    (kept : ∀ key version update, exchange.Raised key version update →
      later.Raised key version update)
    (same : later.entries = exchange.entries) (update : Update Id Key Body)
    (member : update ∈ exchange.asked) : ∃ version content,
      later.entries update.key = some (version, content) ∧ update.expected ≤ version ∧
        ∀ between, update.expected ≤ between → between < version →
          ∃ other, later.Raised update.key between other := by
  obtain ⟨version, content, found, below, climbed⟩ := coherent.reached update member
  refine ⟨version, content, same ▸ found, below, fun between least most => ?_⟩
  obtain ⟨other, raised⟩ := climbed between least most
  exact ⟨other, kept _ _ _ raised⟩

/-- A reading of the entries as they are tracks them. -/
theorem Coherent.tracks (coherent : exchange.Coherent write)
    (seen : Key → Option (Nat × Content))
    (faithful : ∀ key entry, seen key = some entry → exchange.entries key = some entry) :
    exchange.Tracks write seen where
  close key version content found := Or.inl (faithful key _ found)
  above key version content found update member same := by
    obtain ⟨reached, _, there, below, _⟩ := coherent.reached update member
    rw [same, faithful key _ found, Option.some.injEq, Prod.mk.injEq] at there
    exact there.1 ▸ below

/-- Nothing was read yet, and nothing was asked for. -/
theorem coherent_initial (entries : Key → Option (Nat × Content)) (verdicts : Id → Option Verdict) :
    (⟨entries, verdicts, fun _ => none, none, fun _ => none, [], []⟩ :
      Exchange Id Key Body Content).Coherent write where
  distinct _ member := by cases member
  reached _ member := by cases member
  applied _ member := by cases member
  refused _ member := by cases member
  known := ⟨(fun _ _ _ read => by cases read), (fun _ _ _ read => by cases read)⟩
  reading _ none := by cases none
  pending _ _ none := by cases none
  since _ member := by cases member
  latest _ member := by cases member

/-- A new reading keeps the invariant: nothing has been asked for since, and nothing is
pending. -/
theorem coherent_reread (coherent : exchange.Coherent write)
    (seen : Key → Option (Nat × Content)) (tracks : exchange.Tracks write seen) :
    (exchange.reread seen).Coherent write := by
  have same : (exchange.reread seen).asked = exchange.asked := List.append_nil _
  have kept : ∀ key version update, exchange.Raised key version update →
      (exchange.reread seen).Raised key version update := by
    intro key version update raised
    exact raised.kept (fun _ member => same ▸ member) fun _ _ found => found
  constructor
  · rw [same]
    exact coherent.distinct
  · intro update member
    rw [same] at member
    exact coherent.still_reached kept rfl update member
  · rw [same]
    exact coherent.applied
  · intro update member refused
    rw [same] at member
    obtain ⟨other, raised⟩ := coherent.refused update member refused
    exact ⟨other, kept _ _ _ raised⟩
  · refine ⟨tracks.still_close kept rfl, ?_⟩
    rw [same]
    exact tracks.above
  · intro seen none
    cases none
  · intro key update none
    cases none
  · intro update member
    cases member
  · intro update member
    cases member

/-- An update that was applied since the entries were read shows, one version above. -/
theorem Coherent.shows (coherent : exchange.Coherent write) (update : Update Id Key Body)
    (member : update ∈ exchange.since) (applied : exchange.verdicts update.id = some .applied) :
    exchange.entries update.key = some (update.expected + 1, write update.body) := by
  obtain ⟨version, content, found, above, shown⟩ :=
    coherent.applied update (List.mem_append_right _ member) applied
  obtain ⟨former, read⟩ := coherent.since update member
  have close : version = update.expected + 1 := by
    rcases coherent.known.close _ _ _ read with there | ⟨_, _, there⟩ <;>
      · rw [found, Option.some.injEq, Prod.mk.injEq] at there
        omega
  rw [found, shown close, close]

/-- A pending update is refused only if something else was asked for: another body since the
entries were read, or an update of the same version before. -/
theorem Coherent.blames (coherent : exchange.Coherent write) (update : Update Id Key Body)
    (pending : exchange.pending update.key = some update)
    (refused : exchange.verdicts update.id = some .refused) :
    (∃ other ∈ exchange.earlier, other.key = update.key ∧ other.expected = update.expected) ∨
      ∃ other ∈ exchange.since, other.key = update.key ∧ other.body ≠ update.body := by
  obtain ⟨member, _⟩ := coherent.pending update.key update pending
  obtain ⟨other, asked, sameKey, sameVersion, applied⟩ :=
    coherent.refused update (List.mem_append_right _ member) refused
  rcases (mem_asked other).mp asked with before | after
  · exact Or.inl ⟨other, before, sameKey, sameVersion⟩
  · obtain ⟨last, found, repeats⟩ := coherent.latest other after
    rw [sameKey, pending] at found
    obtain rfl := Option.some.inj found
    by_cases same : other.body = update.body
    · rcases repeats same with equal | ⟨cause, among, alike, differs⟩
      · rw [equal, refused] at applied
        cases applied
      · exact Or.inr ⟨cause, among, alike.trans sameKey, differs⟩
    · exact Or.inr ⟨other, after, sameKey, same⟩

end Invariant

section Moves

variable {Id Key Body Content : Type} [DecidableEq Id] [DecidableEq Key] [DecidableEq Body]
  (write : Body → Content)

/-- What is asked for: the pending update of the entry if it has the same body, or else a
new one. -/
def retry (exchange : Exchange Id Key Body Content) (fresh : Id) (key : Key) (version : Nat)
    (body : Body) : Update Id Key Body :=
  match exchange.pending key with
  | some earlier => if earlier.body = body then earlier else ⟨fresh, key, version, body⟩
  | none => ⟨fresh, key, version, body⟩

/-- The exchange after an update was asked for. -/
def ask (exchange : Exchange Id Key Body Content) (update : Update Id Key Body) :
    Exchange Id Key Body Content :=
  { exchange with
    pending := Function.update exchange.pending update.key (some update)
    since := exchange.since ++ [update] }

/-- The exchange after a verdict. -/
def decided (exchange : Exchange Id Key Body Content) (update : Update Id Key Body)
    (verdict : Verdict) : Exchange Id Key Body Content :=
  { exchange with verdicts := Function.update exchange.verdicts update.id (some verdict) }

/-- The exchange after an update was applied. -/
def raised (exchange : Exchange Id Key Body Content) (update : Update Id Key Body) :
    Exchange Id Key Body Content :=
  { exchange.decided update .applied with
    entries := Function.update exchange.entries update.key
      (some (update.expected + 1, write update.body)) }

/-- What can happen. -/
inductive Moves : Exchange Id Key Body Content → Exchange Id Key Body Content → Prop where
  | looks (exchange : Exchange Id Key Body Content) (seen : Key → Option (Nat × Content))
      (faithful : ∀ key entry, seen key = some entry → exchange.entries key = some entry) :
      Moves exchange { exchange with reading := some seen }
  | overlooks (exchange : Exchange Id Key Body Content) :
      Moves exchange { exchange with reading := none }
  | rereads (exchange : Exchange Id Key Body Content) (seen : Key → Option (Nat × Content))
      (read : exchange.reading = some seen) : Moves exchange (exchange.reread seen)
  | forgets (exchange : Exchange Id Key Body Content) :
      Moves exchange (exchange.reread fun _ => none)
  | asks (exchange : Exchange Id Key Body Content) (fresh : Id) (key : Key) (version : Nat)
      (content : Content) (body : Body) (settled : exchange.reading = none)
      (known : exchange.known key = some (version, content))
      (unused : ∀ update ∈ exchange.asked, update.id ≠ fresh)
      (unknown : exchange.verdicts fresh = none) :
      Moves exchange (exchange.ask (exchange.retry fresh key version body))
  | applies (exchange : Exchange Id Key Body Content) (update : Update Id Key Body)
      (content : Content) (asked : update ∈ exchange.asked)
      (new : exchange.verdicts update.id = none)
      (current : exchange.entries update.key = some (update.expected, content)) :
      Moves exchange (exchange.raised write update)
  | refuses (exchange : Exchange Id Key Body Content) (update : Update Id Key Body)
      (asked : update ∈ exchange.asked) (new : exchange.verdicts update.id = none)
      (outdated : ∀ content, exchange.entries update.key ≠ some (update.expected, content)) :
      Moves exchange (exchange.decided update .refused)

variable {write} {exchange : Exchange Id Key Body Content}

omit [DecidableEq Id] [DecidableEq Body] in
/-- Asking keeps the invariant: for something that was asked for before, or for something
under an identifier of its own. -/
theorem coherent_ask (coherent : exchange.Coherent write) (update : Update Id Key Body)
    (content : Content) (settled : exchange.reading = none)
    (known : exchange.known update.key = some (update.expected, content))
    (new : update ∈ exchange.asked ∨
      ((∀ other ∈ exchange.asked, other.id ≠ update.id) ∧ exchange.verdicts update.id = none))
    (latest : ∀ earlier ∈ exchange.since, earlier.key = update.key → earlier.body = update.body →
      earlier = update ∨
        ∃ other ∈ exchange.since, other.key = update.key ∧ other.body ≠ update.body) :
    (exchange.ask update).Coherent write := by
  have asked : (exchange.ask update).asked = exchange.asked ++ [update] :=
    (List.append_assoc _ _ _).symm
  have split : ∀ other, other ∈ (exchange.ask update).asked ↔
      other ∈ exchange.asked ∨ other = update := by
    intro other
    rw [asked, List.mem_append, List.mem_singleton]
  have kept : ∀ key version other, exchange.Raised key version other →
      (exchange.ask update).Raised key version other := by
    intro key version other raised
    exact raised.kept (fun _ member => (split _).mpr (Or.inl member)) fun _ _ found => found
  have first : ∀ other ∈ (exchange.ask update).asked, other ∈ exchange.asked ∨
      (other = update ∧ (∀ former ∈ exchange.asked, former.id ≠ update.id) ∧
        exchange.verdicts update.id = none) := by
    intro other member
    rcases (split other).mp member with member | rfl
    · exact Or.inl member
    · rcases new with member | fresh
      · exact Or.inl member
      · exact Or.inr ⟨rfl, fresh⟩
  constructor
  · intro one here other there same
    rcases first one here with left | ⟨rfl, unused, _⟩
    · rcases first other there with right | ⟨rfl, unused, _⟩
      · exact coherent.distinct one left other right same
      · exact absurd same (unused one left)
    · rcases first other there with right | ⟨rfl, _, _⟩
      · exact absurd same.symm (unused other right)
      · rfl
  · intro other member
    rcases (split other).mp member with member | rfl
    · exact coherent.still_reached kept rfl other member
    · rcases coherent.known.close _ _ _ known with there | ⟨cause, raised, there⟩
      · exact ⟨_, _, there, Nat.le_refl _, fun between least most => by omega⟩
      · refine ⟨_, _, there, Nat.le_succ _, fun between least most => ⟨cause, ?_⟩⟩
        obtain rfl : other.expected = between := by omega
        exact kept _ _ _ raised
  · intro other member applied
    rcases first other member with member | ⟨rfl, _, unknown⟩
    · exact coherent.applied other member applied
    · rw [show exchange.verdicts other.id = _ from applied] at unknown
      cases unknown
  · intro other member refused
    rcases first other member with member | ⟨rfl, _, unknown⟩
    · obtain ⟨cause, raised⟩ := coherent.refused other member refused
      exact ⟨cause, kept _ _ _ raised⟩
    · rw [show exchange.verdicts other.id = _ from refused] at unknown
      cases unknown
  · refine ⟨coherent.known.still_close kept rfl, ?_⟩
    intro key version other found asking member same
    rcases (split asking).mp member with member | rfl
    · exact coherent.known.above key version other found asking member same
    · have read : exchange.known asking.key = some (version, other) := same ▸ found
      rw [known] at read
      cases read
      exact Nat.le_refl _
  · intro seen read
    rw [show (exchange.ask update).reading = none from settled] at read
    cases read
  · intro key last found
    by_cases own : key = update.key
    · subst own
      rw [show (exchange.ask update).pending update.key = some update from
        Function.update_self _ _ _] at found
      cases found
      exact ⟨List.mem_append_right _ (List.mem_singleton_self _), rfl⟩
    · rw [show (exchange.ask update).pending key = exchange.pending key from
        Function.update_of_ne own _ _] at found
      obtain ⟨member, same⟩ := coherent.pending key last found
      exact ⟨List.mem_append_left _ member, same⟩
  · intro other member
    rcases List.mem_append.mp member with member | member
    · exact coherent.since other member
    · rw [List.mem_singleton.mp member]
      exact ⟨content, known⟩
  · intro other member
    by_cases own : other.key = update.key
    · refine ⟨update, ?_, ?_⟩
      · rw [own]
        exact Function.update_self _ _ _
      · intro same
        rcases List.mem_append.mp member with member | member
        · rcases latest other member own same with equal | ⟨cause, among, alike, differs⟩
          · exact Or.inl equal
          · exact Or.inr ⟨cause, List.mem_append_left _ among, alike.trans own.symm, differs⟩
        · exact Or.inl (List.mem_singleton.mp member)
    · rcases List.mem_append.mp member with member | member
      · obtain ⟨last, found, repeats⟩ := coherent.latest other member
        refine ⟨last, (Function.update_of_ne own _ _).trans found, fun same => ?_⟩
        rcases repeats same with equal | ⟨cause, among, alike, differs⟩
        · exact Or.inl equal
        · exact Or.inr ⟨cause, List.mem_append_left _ among, alike, differs⟩
      · rw [List.mem_singleton.mp member] at own
        exact absurd rfl own

omit [DecidableEq Id] [DecidableEq Key] in
/-- A retry repeats the pending update, or asks under a new identifier for something else. -/
theorem retry_cases (exchange : Exchange Id Key Body Content) (fresh : Id) (key : Key)
    (version : Nat) (body : Body) :
    (exchange.pending key = some (exchange.retry fresh key version body) ∧
        (exchange.retry fresh key version body).body = body) ∨
      (exchange.retry fresh key version body = ⟨fresh, key, version, body⟩ ∧
        ∀ last, exchange.pending key = some last → last.body ≠ body) := by
  unfold retry
  cases found : exchange.pending key with
  | none => exact Or.inr ⟨rfl, fun last none => by cases none⟩
  | some last =>
    by_cases same : last.body = body
    · simp only [same, if_true]
      exact Or.inl ⟨trivial, trivial⟩
    · simp only [same, if_false]
      refine Or.inr ⟨trivial, fun other equal => ?_⟩
      cases equal
      exact same

omit [DecidableEq Id] [DecidableEq Key] in
/-- What is asked for names its entry, the version that was read, and the body. -/
theorem retry_names (coherent : exchange.Coherent write) (fresh : Id) (key : Key) (version : Nat)
    (content : Content) (body : Body)
    (known : exchange.known key = some (version, content)) :
    (exchange.retry fresh key version body).key = key ∧
      (exchange.retry fresh key version body).expected = version ∧
        (exchange.retry fresh key version body).body = body := by
  rcases retry_cases exchange fresh key version body with ⟨found, same⟩ | ⟨new, _⟩
  · obtain ⟨member, named⟩ := coherent.pending key _ found
    obtain ⟨content, read⟩ := coherent.since _ member
    rw [named, known, Option.some.injEq, Prod.mk.injEq] at read
    exact ⟨named, read.1.symm, same⟩
  · rw [new]
    exact ⟨rfl, rfl, rfl⟩

omit [DecidableEq Key] [DecidableEq Body] in
/-- A new verdict leaves the earlier ones. -/
theorem decided_keeps (update : Update Id Key Body) (verdict : Verdict)
    (new : exchange.verdicts update.id = none) (id : Id) (former : Verdict)
    (found : exchange.verdicts id = some former) :
    (exchange.decided update verdict).verdicts id = some former := by
  refine (Function.update_of_ne ?_ _ _).trans found
  rintro rfl
  rw [new] at found
  cases found

omit [DecidableEq Key] [DecidableEq Body] in
/-- It concerns one update. -/
theorem decided_other (coherent : exchange.Coherent write) (update other : Update Id Key Body)
    (verdict : Verdict) (member : update ∈ exchange.asked) (among : other ∈ exchange.asked)
    (differs : other ≠ update) :
    (exchange.decided update verdict).verdicts other.id = exchange.verdicts other.id :=
  Function.update_of_ne (fun same => differs (coherent.distinct other among update member same)) _ _

/-- A refusal keeps the invariant: an entry that is above the expected version was raised
from it. -/
theorem coherent_decided (coherent : exchange.Coherent write) (update : Update Id Key Body)
    (member : update ∈ exchange.asked) (new : exchange.verdicts update.id = none)
    (outdated : ∀ content, exchange.entries update.key ≠ some (update.expected, content)) :
    (exchange.decided update .refused).Coherent write := by
  have kept : ∀ key version other, exchange.Raised key version other →
      (exchange.decided update .refused).Raised key version other := by
    intro key version other raised
    exact raised.kept (fun _ member => member) (decided_keeps update .refused new)
  have tracks : ∀ seen, exchange.Tracks write seen →
      (exchange.decided update .refused).Tracks write seen := by
    exact fun seen tracks => ⟨tracks.still_close kept rfl, tracks.above⟩
  refine ⟨coherent.distinct, ?_, ?_, ?_, tracks _ coherent.known, ?_, coherent.pending,
    coherent.since, coherent.latest⟩
  · exact coherent.still_reached kept rfl
  · intro other among applied
    by_cases own : other = update
    · subst own
      rw [show (exchange.decided other .refused).verdicts other.id = some .refused from
        Function.update_self _ _ _] at applied
      cases applied
    · exact coherent.applied other among
        ((decided_other coherent update other .refused member among own).symm.trans applied)
  · intro other among refused
    by_cases own : other = update
    · subst own
      obtain ⟨version, content, found, below, climbed⟩ := coherent.reached other among
      have later : other.expected < version := by
        refine Nat.lt_of_le_of_ne below ?_
        rintro rfl
        exact outdated content found
      obtain ⟨cause, raised⟩ := climbed other.expected (Nat.le_refl _) later
      exact ⟨cause, kept _ _ _ raised⟩
    · obtain ⟨cause, raised⟩ := coherent.refused other among
        ((decided_other coherent update other .refused member among own).symm.trans refused)
      exact ⟨cause, kept _ _ _ raised⟩
  · exact fun seen read => tracks seen (coherent.reading seen read)

/-- Applying an update keeps the invariant: its entry was at the version that it expects, so
nothing that was read is left behind by more than one version. -/
theorem coherent_raised (coherent : exchange.Coherent write) (update : Update Id Key Body)
    (content : Content) (member : update ∈ exchange.asked)
    (new : exchange.verdicts update.id = none)
    (current : exchange.entries update.key = some (update.expected, content)) :
    (exchange.raised write update).Coherent write := by
  have kept : ∀ key version other, exchange.Raised key version other →
      (exchange.raised write update).Raised key version other := by
    intro key version other raised
    exact raised.kept (fun _ member => member) (decided_keeps update .applied new)
  have own : (exchange.raised write update).Raised update.key update.expected update :=
    ⟨member, rfl, rfl, Function.update_self _ _ _⟩
  have written : (exchange.raised write update).entries update.key =
      some (update.expected + 1, write update.body) := Function.update_self _ _ _
  have spared : ∀ key, key ≠ update.key →
      (exchange.raised write update).entries key = exchange.entries key :=
    fun key differs => Function.update_of_ne differs _ _
  have tracks : ∀ seen, exchange.Tracks write seen →
      (exchange.raised write update).Tracks write seen := by
    intro seen tracks
    refine ⟨fun key version content found => ?_, tracks.above⟩
    by_cases same : key = update.key
    · subst same
      have above := tracks.above _ _ _ found update member rfl
      rcases tracks.close _ _ _ found with there | ⟨cause, raised, there⟩
      · rw [current, Option.some.injEq, Prod.mk.injEq] at there
        exact Or.inr ⟨update, there.1 ▸ own, there.1 ▸ written⟩
      · -- the entry cannot have been raised above the reading before
        rw [current, Option.some.injEq, Prod.mk.injEq] at there
        omega
    · rw [spared key same]
      rcases tracks.close key version content found with there | ⟨cause, raised, there⟩
      · exact Or.inl there
      · exact Or.inr ⟨cause, kept _ _ _ raised, there⟩
  refine ⟨coherent.distinct, ?_, ?_, ?_, tracks _ coherent.known, ?_, coherent.pending,
    coherent.since, coherent.latest⟩
  · intro other among
    obtain ⟨version, former, found, below, climbed⟩ := coherent.reached other among
    by_cases same : other.key = update.key
    · rw [same] at found climbed ⊢
      rw [current, Option.some.injEq, Prod.mk.injEq] at found
      refine ⟨_, _, written, by omega, fun between least most => ?_⟩
      by_cases last : between = update.expected
      · exact ⟨update, last ▸ own⟩
      · obtain ⟨cause, raised⟩ := climbed between least (by omega)
        exact ⟨cause, kept _ _ _ raised⟩
    · refine ⟨version, former, (spared _ same).trans found, below, fun between least most => ?_⟩
      obtain ⟨cause, raised⟩ := climbed between least most
      exact ⟨cause, kept _ _ _ raised⟩
  · intro other among applied
    by_cases self : other = update
    · rw [self]
      exact ⟨_, _, written, Nat.lt_succ_self _, fun _ => rfl⟩
    · obtain ⟨version, former, found, below, shown⟩ := coherent.applied other among
        ((decided_other coherent update other .applied member among self).symm.trans applied)
      by_cases same : other.key = update.key
      · rw [same] at found ⊢
        rw [current, Option.some.injEq, Prod.mk.injEq] at found
        exact ⟨_, _, written, by omega, fun next => by omega⟩
      · exact ⟨version, former, (spared _ same).trans found, below, shown⟩
  · intro other among refused
    have differs : other ≠ update := by
      rintro rfl
      rw [show (exchange.raised write other).verdicts other.id = some .applied from
        Function.update_self _ _ _] at refused
      cases refused
    obtain ⟨cause, raised⟩ := coherent.refused other among
      ((decided_other coherent update other .applied member among differs).symm.trans refused)
    exact ⟨cause, kept _ _ _ raised⟩
  · exact fun seen read => tracks seen (coherent.reading seen read)

/-- Every move keeps the invariant. -/
theorem moves_coherent (before after : Exchange Id Key Body Content)
    (moves : Moves write before after) (coherent : before.Coherent write) : after.Coherent write := by
  cases moves with
  | looks seen faithful =>
    have tracks := coherent.tracks seen faithful
    refine ⟨coherent.distinct, coherent.reached, coherent.applied, coherent.refused,
      ⟨coherent.known.close, coherent.known.above⟩, ?_, coherent.pending, coherent.since,
      coherent.latest⟩
    intro other read
    obtain rfl := Option.some.inj read
    exact ⟨tracks.close, tracks.above⟩
  | overlooks =>
    refine ⟨coherent.distinct, coherent.reached, coherent.applied, coherent.refused,
      ⟨coherent.known.close, coherent.known.above⟩, ?_, coherent.pending, coherent.since,
      coherent.latest⟩
    intro other none
    cases none
  | rereads seen read => exact coherent_reread coherent seen (coherent.reading seen read)
  | forgets => exact coherent_reread coherent _ (coherent.tracks _ fun _ _ none => by cases none)
  | asks fresh key version content body settled known unused unknown =>
    obtain ⟨sameKey, sameVersion, sameBody⟩ :=
      retry_names coherent fresh key version content body known
    refine coherent_ask coherent _ content settled ?_ ?_ ?_
    · rw [sameKey, sameVersion]
      exact known
    · rcases retry_cases before fresh key version body with ⟨found, _⟩ | ⟨new, _⟩
      · exact Or.inl (List.mem_append_right _ (coherent.pending key _ found).1)
      · rw [new]
        exact Or.inr ⟨unused, unknown⟩
    · intro earlier member alike same
      obtain ⟨last, found, repeats⟩ := coherent.latest earlier member
      rw [alike, sameKey] at found
      rcases retry_cases before fresh key version body with ⟨again, _⟩ | ⟨_, differs⟩
      · obtain rfl := Option.some.inj (again.symm.trans found)
        rcases repeats same with equal | ⟨cause, among, named, differs⟩
        · exact Or.inl equal
        · exact Or.inr ⟨cause, among, named.trans alike, differs⟩
      · obtain ⟨among, named⟩ := coherent.pending key last found
        refine Or.inr ⟨last, among, named.trans sameKey.symm, ?_⟩
        rw [sameBody]
        exact differs last found
  | applies update content member new current =>
    exact coherent_raised coherent update content member new current
  | refuses update member new outdated => exact coherent_decided coherent update member new outdated

end Moves

end Exchange

end TraxOs.Theory
