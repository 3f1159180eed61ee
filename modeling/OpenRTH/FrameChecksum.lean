import Mathlib.Data.List.Basic

/-!
# The checksum of a frame

`calculate_bcc` combines the bytes of a message with exclusive or.  A message
with its checksum behind it combines to 0, and no longer does once a byte of it
has been altered.
-/

namespace OpenRTH

/-- `calculate_bcc`. -/
def calculateBcc (data : List UInt8) : UInt8 :=
  data.foldl (· ^^^ ·) 0x00

theorem foldl_xor (bcc : UInt8) (data : List UInt8) :
    data.foldl (· ^^^ ·) bcc = bcc ^^^ calculateBcc data := by
  induction data generalizing bcc with
  | nil => exact UInt8.xor_zero.symm
  | cons byte data ih =>
      rw [calculateBcc, List.foldl_cons, List.foldl_cons, ih, ih (0 ^^^ byte),
        UInt8.zero_xor, UInt8.xor_assoc]

@[simp] theorem calculateBcc_nil : calculateBcc [] = 0 := rfl

@[simp] theorem calculateBcc_cons (byte : UInt8) (data : List UInt8) :
    calculateBcc (byte :: data) = byte ^^^ calculateBcc data := by
  rw [calculateBcc, List.foldl_cons, foldl_xor, UInt8.zero_xor]

theorem calculateBcc_append (first second : List UInt8) :
    calculateBcc (first ++ second) =
      calculateBcc first ^^^ calculateBcc second := by
  rw [calculateBcc, List.foldl_append, foldl_xor]
  rfl

/-- A message with its checksum. -/
def withBcc (message : List UInt8) : List UInt8 :=
  message ++ [calculateBcc message]

@[simp] theorem length_withBcc (message : List UInt8) :
    (withBcc message).length = message.length + 1 := by
  simp [withBcc]

@[simp] theorem calculateBcc_withBcc (message : List UInt8) :
    calculateBcc (withBcc message) = 0 := by
  rw [withBcc, calculateBcc_append, calculateBcc_cons, calculateBcc_nil,
    UInt8.xor_zero, UInt8.xor_self]

theorem calculateBcc_altered {sent altered : UInt8} (differs : altered ≠ sent)
    (before after : List UInt8) :
    calculateBcc (before ++ altered :: after) ≠
      calculateBcc (before ++ sent :: after) := by
  rw [calculateBcc_append, calculateBcc_append, calculateBcc_cons,
    calculateBcc_cons]
  intro same
  rw [UInt8.xor_right_inj, UInt8.xor_left_inj] at same
  exact differs same

end OpenRTH
