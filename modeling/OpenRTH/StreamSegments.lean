import Mathlib.Algebra.BigOperators.Group.List.Basic
import Mathlib.Algebra.Ring.Nat
import Mathlib.Data.Stream.Init

/-!
# Streams read in pieces

A reader that takes pieces of any sizes from a stream, one after the other, has
taken the front of the stream.
-/

namespace StreamSegments

variable {Symbol : Type*}

theorem take_add (stream : Stream' Symbol) (first second : ℕ) :
    stream.take (first + second) =
      stream.take first ++ (stream.drop first).take second := by
  induction first generalizing stream with
  | zero => rw [Nat.zero_add, Stream'.take_zero, List.nil_append]; rfl
  | succ first ih =>
      rw [Nat.add_right_comm, Stream'.take_succ, Stream'.take_succ, ih]
      rfl

/-- Consecutive pieces of a stream. -/
def segments (stream : Stream' Symbol) : List ℕ → List (List Symbol)
  | [] => []
  | size :: sizes => stream.take size :: segments (stream.drop size) sizes

theorem flatten_segments (stream : Stream' Symbol) (sizes : List ℕ) :
    (segments stream sizes).flatten = stream.take sizes.sum := by
  induction sizes generalizing stream with
  | nil => rfl
  | cons size sizes ih =>
      rw [segments, List.flatten_cons, List.sum_cons, take_add, ih]

theorem map_length_segments (stream : Stream' Symbol) (sizes : List ℕ) :
    (segments stream sizes).map List.length = sizes := by
  induction sizes generalizing stream with
  | nil => rfl
  | cons size sizes ih =>
      rw [segments, List.map_cons, ih, Stream'.length_take]

end StreamSegments
