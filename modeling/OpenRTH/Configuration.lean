import Mathlib.Data.List.Basic
import Mathlib.Data.List.TakeWhile

/-!
# Device configuration

The settings of `rth.conf` that the modelled code reads, and the ways a call
can end: `exit` ends the whole process, so the caller never sees a result.
-/

namespace OpenRTH

/-- A C string, without its terminating NUL. -/
abbrev CString := List Char

def nul : Char := Char.ofNat 0

/-- The part of a character array that `strlen` counts. -/
def cString (text : List Char) : CString :=
  text.takeWhile (· ≠ nul)

/-- The values of `config.device_type` that the code tests for. -/
inductive DeviceType
  | EV
  | EVSE
  | other
  deriving DecidableEq, Repr

/-- How a call ends. -/
inductive Outcome (α : Type)
  | returns (value : α)
  | exits
  deriving DecidableEq, Repr

theorem cString_eq_self {text : List Char} (noNul : nul ∉ text) :
    cString text = text := by
  refine List.takeWhile_eq_self_iff.mpr fun symbol member => ?_
  simp only [ne_eq, decide_not, Bool.not_eq_true', decide_eq_false_iff_not]
  rintro rfl
  exact noNul member

theorem cString_append_nul {text : List Char} (noNul : nul ∉ text)
    (rest : List Char) : cString (text ++ nul :: rest) = text := by
  unfold cString
  rw [List.takeWhile_append_of_pos fun symbol member =>
    List.takeWhile_eq_self_iff.mp (cString_eq_self noNul) symbol member,
    List.takeWhile_cons_of_neg (by simp), List.append_nil]

end OpenRTH
