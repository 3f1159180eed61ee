import Mathlib.Order.Basic

/-!
# What an infinite run leads to

Properties of the moments of an infinite run.  A stage of a progress argument
says that every moment of one kind is followed by a moment of another kind;
stages are chained, and a loop is left because a measure falls or a deadline
passes.
-/

/-- Every moment with the first property is followed by one with the second. -/
def LeadsTo (here there : ℕ → Prop) : Prop :=
  ∀ moment, here moment → ∃ later, moment ≤ later ∧ there later

namespace LeadsTo

variable {here between there : ℕ → Prop}

theorem next (rest : LeadsTo between there) {moment : ℕ}
    (soon : between (moment + 1)) : ∃ later, moment ≤ later ∧ there later := by
  obtain ⟨later, laterThan, holds⟩ := rest (moment + 1) soon
  exact ⟨later, by omega, holds⟩

/-- A loop is left when each round ends it or lowers a measure. -/
theorem of_measure (measure : ℕ → ℕ)
    (round : ∀ moment, here moment → ∃ later, moment ≤ later ∧
      (there later ∨ here later ∧ measure later < measure moment)) :
    LeadsTo here there := by
  intro moment holds
  induction left : measure moment using Nat.strongRecOn
    generalizing moment with
  | _ bound ih =>
      obtain ⟨later, laterThan, ended | ⟨again, lower⟩⟩ := round moment holds
      · exact ⟨later, laterThan, ended⟩
      · subst left
        obtain ⟨last, lastLater, ended⟩ := ih _ lower later again rfl
        exact ⟨last, Nat.le_trans laterThan lastLater, ended⟩

/-- A waiting loop is left when no round goes on after the deadline. -/
theorem of_deadline (deadline : ℕ)
    (round : ∀ moment, here moment → ∃ later, moment < later ∧
      (there later ∨ here later ∧ moment < deadline)) :
    LeadsTo here there := by
  apply of_measure fun moment => deadline - moment
  intro moment holds
  obtain ⟨later, laterThan, ended | ⟨again, early⟩⟩ := round moment holds
  · exact ⟨later, Nat.le_of_lt laterThan, .inl ended⟩
  · exact ⟨later, Nat.le_of_lt laterThan, .inr ⟨again, by omega⟩⟩

end LeadsTo
