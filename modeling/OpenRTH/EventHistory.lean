import Mathlib.Data.List.Basic

/-!
# What has happened before an event

A history is the list of the events so far.  A property of the events before
each occurrence of an event is kept when the history grows, as long as it holds
before each new occurrence.
-/

variable {Event : Type*}

/-- Whatever stands before an occurrence of the event satisfies the property. -/
def PrecededBy (holds : List Event → Prop) (event : Event)
    (history : List Event) : Prop :=
  ∀ earlier later, history = earlier ++ event :: later → holds earlier

namespace PrecededBy

variable {holds : List Event → Prop} {event : Event} {history : List Event}

theorem nil : PrecededBy holds event [] :=
  fun earlier later split => by simp at split

theorem append_of_notMem (before : PrecededBy holds event history)
    {events : List Event} (others : event ∉ events) :
    PrecededBy holds event (history ++ events) := by
  intro earlier later split
  rcases List.append_eq_append_iff.mp split with
    ⟨middle, rfl, rest⟩ | ⟨middle, rfl, rest⟩
  · exact absurd (by rw [rest]; simp) others
  · cases middle with
    | nil =>
        rw [List.nil_append] at rest
        exact absurd (by rw [← rest]; simp) others
    | cons first middle =>
        obtain ⟨rfl, -⟩ := List.cons.inj rest
        exact before earlier middle rfl

/-- The event happens, with the property holding of the history. -/
theorem append_self (before : PrecededBy holds event history)
    (now : holds history) : PrecededBy holds event (history ++ [event]) := by
  intro earlier later split
  rcases List.append_eq_append_iff.mp split with
    ⟨middle, rfl, rest⟩ | ⟨middle, rfl, rest⟩
  · cases middle with
    | nil => simpa using now
    | cons first middle => simp at rest
  · cases middle with
    | nil => simpa using now
    | cons first middle =>
        obtain ⟨rfl, -⟩ := List.cons.inj rest
        exact before earlier middle rfl

theorem append_one (before : PrecededBy holds event history) {new : Event}
    (now : new = event → holds history) :
    PrecededBy holds event (history ++ [new]) := by
  by_cases same : new = event
  · subst same
    exact before.append_self (now rfl)
  · exact before.append_of_notMem (by simpa using Ne.symm same)

/-- The causes of an event that has happened stand before it in the history. -/
theorem sublist {causes : List Event}
    (before : PrecededBy causes.Sublist event history)
    (happened : event ∈ history) : (causes ++ [event]).Sublist history := by
  obtain ⟨earlier, later, rfl⟩ := List.append_of_mem happened
  have caused := before earlier later rfl
  exact caused.append (List.singleton_sublist.mpr List.mem_cons_self)

end PrecededBy
