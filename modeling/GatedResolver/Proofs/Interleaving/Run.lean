import Mathlib.Data.List.Induction

/-!
# Runs of interleaved steps

A step relation says which events a state admits and where they lead. A run is any finite
sequence of steps, in whatever order the parties happened to act, so a statement about all
runs is one about all interleavings. Every run can be taken apart at any of its events.
-/

namespace GatedResolver.Interleaving

variable {State Event : Type} {Step : State → Event → State → Prop}

/-- Zero or more steps from a state, with the events on the way in their order. -/
inductive Run (Step : State → Event → State → Prop) (start : State) : List Event → State → Prop
    where
  | refl : Run Step start [] start
  | step {events : List Event} {current next : State} {event : Event}
      (prior : Run Step start events current) (transition : Step current event next) :
      Run Step start (events ++ [event]) next

/-- Two runs that meet at a state make one. -/
theorem Run.trans {start middle final : State} {before after : List Event}
    (first : Run Step start before middle) (second : Run Step middle after final) :
    Run Step start (before ++ after) final := by
  induction second with
  | refl => simpa using first
  | step _ transition inductionHypothesis =>
    rw [← List.append_assoc]
    exact inductionHypothesis.step transition

/-- A run can be cut anywhere between its events. -/
theorem Run.split {start final : State} {before after : List Event}
    (run : Run Step start (before ++ after) final) :
    ∃ middle, Run Step start before middle ∧ Run Step middle after final := by
  induction after using List.reverseRecOn generalizing final with
  | nil => exact ⟨final, by simpa using run, .refl⟩
  | append_singleton after event inductionHypothesis =>
    rw [← List.append_assoc] at run
    generalize whole : before ++ after ++ [event] = events at run
    cases run with
    | refl => simp at whole
    | step prior transition =>
      obtain ⟨rfl, same⟩ := List.append_inj' whole rfl
      cases same
      obtain ⟨middle, first, second⟩ := inductionHypothesis prior
      exact ⟨middle, first, second.step transition⟩

/-- The states before and after an event of a run. -/
theorem Run.around {start final : State} {before after : List Event} {event : Event}
    (run : Run Step start (before ++ event :: after) final) :
    ∃ current next, Run Step start before current ∧ Step current event next ∧
      Run Step next after final := by
  rw [← List.singleton_append, ← List.append_assoc] at run
  obtain ⟨next, first, last⟩ := run.split
  generalize whole : before ++ [event] = events at first
  cases first with
  | refl => simp at whole
  | step prior transition =>
    obtain ⟨rfl, same⟩ := List.append_inj' whole rfl
    cases same
    exact ⟨_, next, prior, transition, last⟩

end GatedResolver.Interleaving
