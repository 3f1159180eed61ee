import Mathlib.Data.List.TakeWhile

/-!
# Arrays of fixed size and the strings kept in them

A C array is written through an offset that the language does not check.  Here
a write outside the array has no result, so a computation that returns is one
whose writes were all in bounds.  A string is kept in an array by writing a
terminator behind it.
-/

/-- An array of `size` elements. -/
@[ext] structure FixedBuffer (α : Type*) (size : ℕ) where
  contents : List α
  length_contents : contents.length = size

namespace FixedBuffer

variable {α : Type*} {size : ℕ}

/-- Copy a list to an offset; `none` when it does not fit. -/
def store (buffer : FixedBuffer α size) (offset : ℕ) (data : List α) :
    Option (FixedBuffer α size) :=
  if fits : offset + data.length ≤ size then
    some
      { contents := buffer.contents.take offset ++
          (data ++ buffer.contents.drop (offset + data.length))
        length_contents := by
          have full := buffer.length_contents
          simp only [List.length_append, List.length_take, List.length_drop]
          omega }
  else none

theorem store_eq_none_iff (buffer : FixedBuffer α size) (offset : ℕ)
    (data : List α) :
    buffer.store offset data = none ↔ size < offset + data.length := by
  unfold store
  split_ifs with fits
  · simpa using fits
  · simpa using fits

/-- What a write leaves in the array. -/
theorem contents_store {buffer after : FixedBuffer α size} {offset : ℕ}
    {data : List α} (stored : buffer.store offset data = some after) :
    after.contents = buffer.contents.take offset ++
      (data ++ buffer.contents.drop (offset + data.length)) := by
  unfold store at stored
  split_ifs at stored
  exact congrArg contents (Option.some.inj stored).symm

/-- The front of the array up to the end of what was written. -/
theorem take_contents_store {buffer after : FixedBuffer α size} {offset : ℕ}
    {data : List α} (inside : offset ≤ size)
    (stored : buffer.store offset data = some after) :
    after.contents.take (offset + data.length) =
      buffer.contents.take offset ++ data := by
  have length : (buffer.contents.take offset ++ data).length =
      offset + data.length := by
    rw [List.length_append, List.length_take, buffer.length_contents,
      min_eq_left inside]
  rw [contents_store stored, ← List.append_assoc, List.take_left' length]

theorem exists_store {buffer : FixedBuffer α size} {offset : ℕ}
    {data : List α} (fits : offset + data.length ≤ size) :
    ∃ after, buffer.store offset data = some after := by
  unfold store
  rw [dif_pos fits]
  exact ⟨_, rfl⟩

theorem exists_store_singleton (buffer : FixedBuffer α size) (element : α)
    {offset : ℕ} (inside : offset < size) :
    ∃ after, buffer.store offset [element] = some after :=
  exists_store inside

theorem le_of_store {buffer after : FixedBuffer α size} {offset : ℕ}
    {data : List α} (stored : buffer.store offset data = some after) :
    offset + data.length ≤ size := by
  have inBounds := mt (store_eq_none_iff buffer offset data).mpr
    (by simp [stored])
  omega

/-- Writing one element changes that element only. -/
theorem getElem?_store_singleton {buffer after : FixedBuffer α size}
    {offset : ℕ} {element : α}
    (stored : buffer.store offset [element] = some after) (index : ℕ) :
    after.contents[index]? =
      if index = offset then some element else buffer.contents[index]? := by
  have inBounds : offset < buffer.contents.length := by
    rw [buffer.length_contents]
    exact le_of_store stored
  have contents : after.contents = buffer.contents.set offset element := by
    rw [contents_store stored, List.set_eq_take_append_cons_drop,
      if_pos inBounds]
    rfl
  rw [contents, List.getElem?_set, if_pos inBounds]
  simp only [eq_comm]

/-- What stands behind the written elements stays. -/
theorem drop_contents_store {buffer after : FixedBuffer α size} {offset : ℕ}
    {data : List α} (stored : buffer.store offset data = some after)
    {place : ℕ} (behind : offset + data.length ≤ place) :
    after.contents.drop place = buffer.contents.drop place := by
  have fits := le_of_store stored
  have length : (buffer.contents.take offset ++ data).length =
      offset + data.length := by
    rw [List.length_append, List.length_take, buffer.length_contents,
      min_eq_left (by omega)]
  rw [contents_store stored, ← List.append_assoc,
    List.drop_append, List.drop_eq_nil_of_le (by omega), length,
    List.nil_append, List.drop_drop, Nat.add_sub_cancel' behind]

/-- Write one element after the other from an offset on. -/
def storeEach : FixedBuffer α size → ℕ → List α → Option (FixedBuffer α size)
  | buffer, _, [] => some buffer
  | buffer, offset, element :: data =>
      (buffer.store offset [element]).bind fun after =>
        after.storeEach (offset + 1) data

theorem store_nil {buffer : FixedBuffer α size} {offset : ℕ}
    (inside : offset ≤ size) : buffer.store offset [] = some buffer := by
  obtain ⟨after, stored⟩ : ∃ after, buffer.store offset [] = some after :=
    exists_store inside
  have same : after = buffer :=
    FixedBuffer.ext (by simpa using contents_store stored)
  rw [stored, same]

theorem store_cons (buffer : FixedBuffer α size) (offset : ℕ) (element : α)
    (data : List α) :
    buffer.store offset (element :: data) =
      (buffer.store offset [element]).bind fun after =>
        after.store (offset + 1) data := by
  cases first : buffer.store offset [element] with
  | none =>
      rw [store_eq_none_iff, List.length_singleton] at first
      rw [Option.bind_none, store_eq_none_iff, List.length_cons]
      omega
  | some middle =>
      rw [Option.bind_some]
      cases rest : middle.store (offset + 1) data with
      | none =>
          rw [store_eq_none_iff] at rest ⊢
          rw [List.length_cons]
          omega
      | some last =>
          have fits := le_of_store rest
          obtain ⟨whole, stored⟩ :
              ∃ whole, buffer.store offset (element :: data) = some whole :=
            exists_store (by rw [List.length_cons]; omega)
          have front := take_contents_store (by omega) first
          have same : whole = last := by
            apply FixedBuffer.ext
            rw [contents_store stored, contents_store rest,
              drop_contents_store first (by simp)]
            rw [List.length_singleton] at front
            rw [front, List.length_cons, List.append_assoc,
              List.singleton_append, List.cons_append, Nat.add_right_comm,
              Nat.add_assoc offset]
          rw [stored, same]

/-- The elements are copied as a whole would be. -/
theorem storeEach_eq_store {buffer : FixedBuffer α size} {offset : ℕ}
    (inside : offset ≤ size) (data : List α) :
    buffer.storeEach offset data = buffer.store offset data := by
  induction data generalizing buffer offset with
  | nil => exact (store_nil inside).symm
  | cons element data ih =>
      rw [store_cons, storeEach]
      cases first : buffer.store offset [element] with
      | none => rfl
      | some middle => exact ih (le_of_store first)

/-- Copy a string to the start and a terminator behind it. -/
def storeString (terminator : α) (buffer : FixedBuffer α size)
    (text : List α) : Option (FixedBuffer α size) :=
  (buffer.store 0 text).bind fun copied =>
    copied.store text.length [terminator]

/-- The elements before the first terminator. -/
def string [DecidableEq α] (terminator : α) (buffer : FixedBuffer α size) :
    List α :=
  buffer.contents.takeWhile (· ≠ terminator)

/-- A string needs room for its terminator. -/
theorem storeString_eq_none_iff (terminator : α)
    (buffer : FixedBuffer α size) (text : List α) :
    buffer.storeString terminator text = none ↔ size ≤ text.length := by
  unfold storeString
  cases copy : buffer.store 0 text with
  | none =>
      have tooLong := (store_eq_none_iff buffer 0 text).mp copy
      simp only [Option.bind_none, true_iff]
      omega
  | some copied =>
      rw [Option.bind_some, store_eq_none_iff]
      simp only [List.length_singleton]
      omega

theorem contents_storeString {terminator : α}
    {buffer after : FixedBuffer α size} {text : List α}
    (stored : buffer.storeString terminator text = some after) :
    ∃ rest, after.contents = text ++ terminator :: rest := by
  obtain ⟨copied, copy, terminate⟩ := Option.bind_eq_some_iff.mp stored
  refine ⟨copied.contents.drop (text.length + 1), ?_⟩
  rw [contents_store terminate, contents_store copy, List.take_zero,
    List.nil_append, List.take_left' rfl, List.length_singleton]
  rfl

/-- What is read back is the string up to the first terminator it
contains. -/
theorem string_storeString [DecidableEq α] {terminator : α}
    {buffer after : FixedBuffer α size} {text : List α}
    (stored : buffer.storeString terminator text = some after) :
    after.string terminator = text.takeWhile (· ≠ terminator) := by
  obtain ⟨rest, contents⟩ := contents_storeString stored
  unfold string
  rw [contents, List.takeWhile_append]
  split_ifs with whole
  · rw [List.takeWhile_cons_of_neg (by simp), List.append_nil]
    exact ((List.takeWhile_prefix _).eq_of_length whole).symm
  · rfl

end FixedBuffer
