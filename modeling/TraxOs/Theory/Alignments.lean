import Mathlib.Data.List.Forall2
import TraxOs.Theory.Results

/-!
# Aligned lists

Two lists of one length whose elements are related position by position, as a loop
relates the list it reads to the list it makes.
-/

namespace TraxOs.Theory

variable {α β γ : Type} {R : α → β → Prop}

/-- What a loop makes comes from something that it reads. -/
theorem aligned_source {sources : List α} {results : List β}
    (aligned : List.Forall₂ R sources results) {result : β} (member : result ∈ results) :
    ∃ source ∈ sources, R source result := by
  induction aligned with
  | nil => cases member
  | cons related _ inductionHypothesis =>
    rcases List.mem_cons.mp member with rfl | later
    · exact ⟨_, List.mem_cons_self, related⟩
    · obtain ⟨source, among, made⟩ := inductionHypothesis later
      exact ⟨source, List.mem_cons_of_mem _ among, made⟩

/-- Everything that a loop reads makes something. -/
theorem aligned_result {sources : List α} {results : List β}
    (aligned : List.Forall₂ R sources results) {source : α} (member : source ∈ sources) :
    ∃ result ∈ results, R source result := by
  induction aligned with
  | nil => cases member
  | cons related _ inductionHypothesis =>
    rcases List.mem_cons.mp member with rfl | later
    · exact ⟨_, List.mem_cons_self, related⟩
    · obtain ⟨result, among, made⟩ := inductionHypothesis later
      exact ⟨result, List.mem_cons_of_mem _ among, made⟩

/-- What related elements share is the same list on both sides. -/
theorem aligned_map {sources : List α} {results : List β}
    (aligned : List.Forall₂ R sources results) (read : α → γ) (made : β → γ)
    (shares : ∀ source result, R source result → read source = made result) :
    sources.map read = results.map made := by
  induction aligned with
  | nil => rfl
  | cons related _ inductionHypothesis =>
    rw [List.map_cons, List.map_cons, shares _ _ related, inductionHypothesis]

/-- Where everything read is related to something, there is an aligned list. -/
theorem exists_aligned (sources : List α) (possible : ∀ source ∈ sources, ∃ result, R source result) :
    ∃ results, List.Forall₂ R sources results := by
  induction sources with
  | nil => exact ⟨[], .nil⟩
  | cons source rest inductionHypothesis =>
    obtain ⟨here, later⟩ := List.forall_mem_cons.mp possible
    obtain ⟨result, related⟩ := here
    obtain ⟨results, aligned⟩ := inductionHypothesis later
    exact ⟨result :: results, .cons related aligned⟩

/-- A loop of steps that may fail succeeds exactly when its results are aligned with what
the steps make. -/
theorem mapM_aligned {ε : Type} (step : α → Except ε β) (sources : List α) (results : List β) :
    sources.mapM step = .ok results ↔
      List.Forall₂ (fun source result => step source = .ok result) sources results := by
  induction sources generalizing results with
  | nil =>
    constructor
    · rintro ⟨⟩
      exact .nil
    · rintro ⟨⟩
      rfl
  | cons source rest inductionHypothesis =>
    rw [List.mapM_cons]
    constructor
    · intro made
      obtain ⟨first, here, made⟩ := (bind_ok _ _ _).mp made
      obtain ⟨others, later, made⟩ := (bind_ok _ _ _).mp made
      obtain rfl := Except.ok.inj made
      exact .cons here ((inductionHypothesis others).mp later)
    · rintro ⟨⟩
      next first others here later =>
      exact (bind_ok _ _ _).mpr ⟨first, here,
        (bind_ok _ _ _).mpr ⟨others, (inductionHypothesis others).mpr later, rfl⟩⟩

/-- A reader that takes each written element back takes back the list. -/
theorem mapM_round_trip {ε : Type} (read : α → Except ε β) (write : β → α) (values : List β)
    (each : ∀ value ∈ values, read (write value) = .ok value) :
    (values.map write).mapM read = .ok values := by
  rw [mapM_aligned, List.forall₂_map_left_iff]
  exact List.forall₂_same.mpr each

end TraxOs.Theory
