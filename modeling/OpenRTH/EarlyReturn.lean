import Mathlib.Data.List.Basic

/-!
# Steps with an early return

A function that changes a state in several steps, any of which can end it with
an error.  The state it leaves behind is the one that the failing step left, so
what holds after the first steps holds of it.
-/

namespace EarlyReturn

variable {State Error : Type*}

/-- Take the steps in turn, up to the first that fails. -/
def run : List (State → State × Option Error) → State → State × Option Error
  | [], state => (state, none)
  | step :: steps, state =>
      match step state with
      | (after, none) => run steps after
      | (after, some error) => (after, some error)

theorem run_cons_of_passes {step : State → State × Option Error}
    {state after : State} (passes : step state = (after, none))
    (steps : List (State → State × Option Error)) :
    run (step :: steps) state = run steps after := by
  simp only [run, passes]

theorem run_cons_of_fails {step : State → State × Option Error}
    {state after : State} {error : Error}
    (fails : step state = (after, some error))
    (steps : List (State → State × Option Error)) :
    run (step :: steps) state = (after, some error) := by
  simp only [run, fails]

/-- When every step that passes goes on from what holds before it, either all
steps pass, or one fails in a state that the steps before it have reached. -/
theorem run_cases (holds : ℕ → State → Prop)
    {steps : List (State → State × Option Error)}
    (next : ∀ {n step state after}, steps[n]? = some step → holds n state →
      step state = (after, none) → holds (n + 1) after)
    {state : State} (start : holds 0 state) :
    ((run steps state).2 = none ∧ holds steps.length (run steps state).1) ∨
      ∃ n step before error, steps[n]? = some step ∧ holds n before ∧
        step before = ((run steps state).1, some error) ∧
        (run steps state).2 = some error := by
  induction steps generalizing holds state with
  | nil => exact .inl ⟨rfl, start⟩
  | cons step steps ih =>
      cases result : step state with
      | mk after error =>
          cases error with
          | some error =>
              rw [run_cons_of_fails result]
              exact .inr ⟨0, step, state, error, rfl, start, result, rfl⟩
          | none =>
              rw [run_cons_of_passes result]
              have later := ih (fun n => holds (n + 1))
                (fun {n} _ _ _ found => next (n := n + 1) found)
                (next (n := 0) rfl start result)
              rcases later with ⟨passed, ends⟩ |
                ⟨n, failing, before, error, found, reached, fails, same⟩
              · exact .inl ⟨passed, ends⟩
              · exact .inr ⟨n + 1, failing, before, error, found, reached,
                  fails, same⟩

end EarlyReturn
