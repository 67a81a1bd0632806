import Mathlib.Logic.Basic

/-!
# Noninterference by unwinding

An observer sees some of the requests that a system serves, with their replies, and should
learn nothing about the others. Two runs go abreast when they serve the same requests of the
observer's, each of them possibly with other requests in between. It suffices to look at
single steps: an unseen request leaves the observer's part of the state alone, and a seen one
does the same to two states with the same such part.

What the observer may learn all the same is said by a condition under which a seen request is
served by both: two runs that go abreast agree on it.
-/

namespace TraxOs.Theory

section Unwinding

variable {State Req Reply : Type} (serve : Req → State → Reply × State) (sees : Req → State → Prop)
  (alike : State → State → Prop) (agree : Req → State → State → Prop)

/-- Two runs with the replies that the observer gets in each of them. -/
inductive Abreast : State → State → List Reply → List Reply → State → State → Prop where
  | rest (left right : State) : Abreast left right [] [] left right
  | first {left right lastLeft lastRight : State} {ours theirs : List Reply} (request : Req)
      (unseen : ¬ sees request left)
      (later : Abreast (serve request left).2 right ours theirs lastLeft lastRight) :
      Abreast left right ours theirs lastLeft lastRight
  | second {left right lastLeft lastRight : State} {ours theirs : List Reply} (request : Req)
      (unseen : ¬ sees request right)
      (later : Abreast left (serve request right).2 ours theirs lastLeft lastRight) :
      Abreast left right ours theirs lastLeft lastRight
  | both {left right lastLeft lastRight : State} {ours theirs : List Reply} (request : Req)
      (seen : sees request left) (agreed : agree request left right)
      (later : Abreast (serve request left).2 (serve request right).2 ours theirs lastLeft
        lastRight) :
      Abreast left right ((serve request left).1 :: ours) ((serve request right).1 :: theirs)
        lastLeft lastRight

/-- The conditions on single steps. -/
structure Unwinds : Prop where
  symmetric : ∀ left right, alike left right → alike right left
  respects : ∀ request left right, ¬ sees request left → alike left right →
    alike (serve request left).2 right
  consistent : ∀ request left right, sees request left → agree request left right →
    alike left right → (serve request left).1 = (serve request right).1 ∧
      alike (serve request left).2 (serve request right).2

variable {serve sees alike agree}

/-- The observer gets the same replies in two runs that go abreast. -/
theorem abreast_same (unwinds : Unwinds serve sees alike agree)
    {left right lastLeft lastRight : State} {ours theirs : List Reply}
    (abreast : Abreast serve sees agree left right ours theirs lastLeft lastRight)
    (begun : alike left right) : ours = theirs ∧ alike lastLeft lastRight := by
  induction abreast with
  | rest left right => exact ⟨rfl, begun⟩
  | first request unseen later inductionHypothesis =>
    exact inductionHypothesis (unwinds.respects request _ _ unseen begun)
  | second request unseen later inductionHypothesis =>
    have kept := unwinds.respects request _ _ unseen (unwinds.symmetric _ _ begun)
    exact inductionHypothesis (unwinds.symmetric _ _ kept)
  | both request seen agreed later inductionHypothesis =>
    obtain ⟨same, kept⟩ := unwinds.consistent request _ _ seen agreed begun
    obtain ⟨rest, last⟩ := inductionHypothesis kept
    exact ⟨by rw [same, rest], last⟩

end Unwinding

end TraxOs.Theory
