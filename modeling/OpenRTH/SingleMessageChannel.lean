import Mathlib.Data.List.Basic

/-!
# Channels with at most one message

In a conversation where each party waits for the other, a channel holds either
nothing or exactly the next of a numbered sequence of messages.  Its content is
then known from two counters: the messages put into it and those taken out.
-/

/-- The channel holds the messages from number `taken` up to `sent`, which is at
most one. -/
def Carries {α : Type*} (message : ℕ → List α) (content : List α)
    (taken sent : ℕ) : Prop :=
  taken = sent ∧ content = [] ∨ taken + 1 = sent ∧ content = message taken

namespace Carries

variable {α : Type*} {message : ℕ → List α} {content : List α}
  {taken sent : ℕ}

theorem empty (count : ℕ) : Carries message [] count count :=
  .inl ⟨rfl, rfl⟩

theorem full (count : ℕ) :
    Carries message (message count) count (count + 1) :=
  .inr ⟨rfl, rfl⟩

theorem taken_le (carries : Carries message content taken sent) :
    taken ≤ sent := by
  rcases carries with ⟨rfl, -⟩ | ⟨rfl, -⟩ <;> omega

theorem sent_le (carries : Carries message content taken sent) :
    sent ≤ taken + 1 := by
  rcases carries with ⟨rfl, -⟩ | ⟨rfl, -⟩ <;> omega

/-- A channel whose messages have all been taken is empty. -/
theorem eq_nil (carries : Carries message content taken sent)
    (all : sent ≤ taken) : content = [] := by
  rcases carries with ⟨-, nil⟩ | ⟨sentEq, -⟩
  · exact nil
  · omega

/-- A channel that is not empty holds the next message. -/
theorem eq_message (carries : Carries message content taken sent)
    (nonempty : content ≠ []) :
    taken + 1 = sent ∧ content = message taken := by
  rcases carries with ⟨-, nil⟩ | next
  · exact absurd nil nonempty
  · exact next

theorem taken_eq (carries : Carries message [] taken sent)
    (nonempty : ∀ number, message number ≠ []) : taken = sent := by
  rcases carries with ⟨takenEq, -⟩ | ⟨-, nil⟩
  · exact takenEq
  · exact absurd nil.symm (nonempty taken)

/-- Put the next message into a channel from which all others were taken. -/
theorem put (carries : Carries message content taken sent)
    (all : sent ≤ taken) :
    Carries message (content ++ message sent) taken (sent + 1) := by
  have takenEq : taken = sent := Nat.le_antisymm carries.taken_le all
  rw [carries.eq_nil all, takenEq]
  exact .full sent

end Carries
