import Mathlib.Order.Basic

/-!
# Runs of transition systems

A deterministic step function over an explicit state, driven by a list of
actions which stands for the interleaving and for every choice of the
environment.  A property of all runs is proved from what one step preserves; a
property that only some runs have is stated for the runs whose steps all satisfy
a condition on the state and the action before the step.
-/

/-- `step` is `none` where the action is not possible. -/
structure TransitionSystem (State Action : Type*) where
  initial : State
  step : State → Action → Option State

namespace TransitionSystem

variable {State Action : Type*}

/-- The states that runs reach whose steps are all allowed. -/
inductive Reaches (system : TransitionSystem State Action)
    (allowed : State → Action → Prop) : State → Prop
  | start : Reaches system allowed system.initial
  | next {state after : State} {action : Action} :
      Reaches system allowed state → allowed state action →
        system.step state action = some after → Reaches system allowed after

/-- The states that arbitrary runs reach. -/
def Reachable (system : TransitionSystem State Action) : State → Prop :=
  system.Reaches fun _ _ => True

variable {system : TransitionSystem State Action}
  {allowed : State → Action → Prop}

theorem Reaches.reachable {state : State}
    (reaches : system.Reaches allowed state) : system.Reachable state := by
  induction reaches with
  | start => exact .start
  | next _ _ step ih => exact .next ih trivial step

/-- What holds initially and is preserved by every allowed step holds in every
state reached. -/
theorem Reaches.invariant {holds : State → Prop}
    (initially : holds system.initial)
    (preserved : ∀ {state after action}, holds state → allowed state action →
      system.step state action = some after → holds after)
    {state : State} (reaches : system.Reaches allowed state) :
    holds state := by
  induction reaches with
  | start => exact initially
  | next _ admissible step ih => exact preserved ih admissible step

/-- An invariant whose preservation rests on another one. -/
theorem Reaches.invariant_of {known holds : State → Prop}
    (knownHolds : ∀ {state}, system.Reaches allowed state → known state)
    (initially : holds system.initial)
    (preserved : ∀ {state after action}, known state → holds state →
      allowed state action → system.step state action = some after →
        holds after)
    {state : State} (reaches : system.Reaches allowed state) :
    holds state := by
  induction reaches with
  | start => exact initially
  | next earlier admissible step ih =>
      exact preserved (knownHolds earlier) ih admissible step

/-- A run goes on to a final state when every other state has a step that keeps
`holds` and brings the end nearer. -/
theorem Reaches.exists_final {holds final : State → Prop}
    (stepsLeft : State → ℕ)
    (progress : ∀ {state}, system.Reaches allowed state → holds state →
      ¬ final state → ∃ action after, allowed state action ∧
        system.step state action = some after ∧ holds after ∧
          stepsLeft after < stepsLeft state)
    {state : State} (reaches : system.Reaches allowed state)
    (holding : holds state) :
    ∃ last, system.Reaches allowed last ∧ holds last ∧ final last := by
  induction left : stepsLeft state using Nat.strongRecOn
    generalizing state with
  | _ bound ih =>
      by_cases ended : final state
      · exact ⟨state, reaches, holding, ended⟩
      · obtain ⟨action, after, admissible, step, holdsAfter, fewer⟩ :=
          progress reaches holding ended
        subst left
        exact ih _ fewer (.next reaches admissible step) holdsAfter rfl

/-- Follow a list of actions, as long as they are possible and allowed. -/
def follow (system : TransitionSystem State Action)
    (allowed : State → Action → Prop)
    [∀ state action, Decidable (allowed state action)] :
    State → List Action → Option State
  | state, [] => some state
  | state, action :: actions =>
      if allowed state action then
        (system.step state action).bind fun after =>
          follow system allowed after actions
      else none

theorem Reaches.follow [∀ state action, Decidable (allowed state action)]
    {state final : State} {actions : List Action}
    (reaches : system.Reaches allowed state)
    (followed : system.follow allowed state actions = some final) :
    system.Reaches allowed final := by
  induction actions generalizing state with
  | nil =>
      obtain rfl := Option.some.inj followed
      exact reaches
  | cons action actions ih =>
      unfold TransitionSystem.follow at followed
      split_ifs at followed with admissible
      obtain ⟨after, step, rest⟩ := Option.bind_eq_some_iff.mp followed
      exact ih (.next reaches admissible step) rest

/-- Following a list of actions to a state with some property shows that such a
state is reached. -/
theorem exists_reaches_of_follow
    (system : TransitionSystem State Action)
    (allowed : State → Action → Prop)
    [∀ state action, Decidable (allowed state action)]
    (actions : List Action) (found : State → Bool)
    (followed :
      (system.follow allowed system.initial actions).any found = true) :
    ∃ state, system.Reaches allowed state ∧ found state = true := by
  obtain ⟨final, run, holds⟩ := (Option.any_eq_true _ _).mp followed
  exact ⟨final, Reaches.follow .start run, holds⟩

/-- Take steps that are chosen by the state, as long as they are possible. -/
def play (system : TransitionSystem State Action) :
    State → List (State → Action) → Option State
  | state, [] => some state
  | state, choose :: choices =>
      (system.step state (choose state)).bind fun after =>
        play system after choices

theorem Reaches.play {state final : State} {choices : List (State → Action)}
    (reachable : system.Reachable state)
    (played : system.play state choices = some final) :
    system.Reachable final := by
  induction choices generalizing state with
  | nil =>
      obtain rfl := Option.some.inj played
      exact reachable
  | cons choose choices ih =>
      unfold TransitionSystem.play at played
      obtain ⟨after, step, rest⟩ := Option.bind_eq_some_iff.mp played
      exact ih (.next reachable trivial step) rest

/-- The state after a list of actions, if they are all possible. -/
def run (system : TransitionSystem State Action) :
    State → List Action → Option State
  | state, [] => some state
  | state, action :: actions =>
      (system.step state action).bind fun after => run system after actions

/-- What every step preserves holds at the end of a run. -/
theorem run_invariant {holds : State → Prop}
    (preserved : ∀ {state after action}, holds state →
      system.step state action = some after → holds after)
    {state final : State} {actions : List Action} (initially : holds state)
    (ran : system.run state actions = some final) : holds final := by
  induction actions generalizing state with
  | nil =>
      obtain rfl := Option.some.inj ran
      exact initially
  | cons action actions ih =>
      obtain ⟨after, step, rest⟩ := Option.bind_eq_some_iff.mp ran
      exact ih (preserved initially step) rest

/-- Some run goes from one state to the other. -/
def CanReach (system : TransitionSystem State Action) (state final : State) :
    Prop :=
  ∃ actions, system.run state actions = some final

theorem CanReach.refl (state : State) : system.CanReach state state :=
  ⟨[], rfl⟩

theorem CanReach.head {state after final : State} (action : Action)
    (step : system.step state action = some after)
    (rest : system.CanReach after final) : system.CanReach state final := by
  obtain ⟨actions, ran⟩ := rest
  refine ⟨action :: actions, ?_⟩
  rw [TransitionSystem.run, step]
  exact ran

theorem CanReach.trans {state between final : State}
    (first : system.CanReach state between)
    (rest : system.CanReach between final) : system.CanReach state final := by
  obtain ⟨actions, ran⟩ := first
  induction actions generalizing state with
  | nil =>
      obtain rfl := Option.some.inj ran
      exact rest
  | cons action actions ih =>
      obtain ⟨after, step, remaining⟩ := Option.bind_eq_some_iff.mp ran
      exact .head action step (ih remaining)

theorem CanReach.invariant {holds : State → Prop}
    (preserved : ∀ {state after action}, holds state →
      system.step state action = some after → holds after)
    {state final : State} (reaches : system.CanReach state final)
    (initially : holds state) : holds final := by
  obtain ⟨actions, ran⟩ := reaches
  exact run_invariant preserved initially ran

/-- While an invariant holds, every counted action brings a run nearer to its
end. -/
theorem run_countdown {holds : State → Prop} (left : State → ℕ)
    (counted : Action → Bool)
    (preserved : ∀ {state after action}, holds state →
      system.step state action = some after →
        holds after ∧ left after ≤ left state - (counted action).toNat)
    {state final : State} {actions : List Action} (initially : holds state)
    (ran : system.run state actions = some final) :
    holds final ∧ left final ≤ left state - actions.countP counted := by
  induction actions generalizing state with
  | nil =>
      obtain rfl := Option.some.inj ran
      exact ⟨initially, Nat.le_refl _⟩
  | cons action actions ih =>
      obtain ⟨after, step, rest⟩ := Option.bind_eq_some_iff.mp ran
      obtain ⟨holdsAfter, nearer⟩ := preserved initially step
      obtain ⟨holdsFinal, nearest⟩ := ih holdsAfter rest
      have count : (action :: actions).countP counted =
          (counted action).toNat + actions.countP counted := by
        cases isCounted : counted action <;>
          simp [isCounted, Nat.add_comm]
      exact ⟨holdsFinal, by omega⟩

end TransitionSystem
