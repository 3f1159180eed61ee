import Mathlib.Data.List.Basic
import Mathlib.Algebra.Order.Ring.Nat

/-!
# Folding over blocks

A list falls into blocks of one length and a rest that is shorter.  The blocks
of a list that has come in pieces are found piece by piece: what is left of a
piece stands before the next one.
-/

namespace BlockFold

variable {α σ : Type*} {n : ℕ}

/-- The whole blocks of a list. -/
def blocks (n : ℕ) (data : List α) : List (List α) :=
  (List.range (data.length / n)).map fun index =>
    (data.drop (index * n)).take n

/-- What stands behind the whole blocks. -/
def rest (n : ℕ) (data : List α) : List α :=
  data.drop (data.length / n * n)

theorem blocks_of_lt {data : List α} (short : data.length < n) :
    blocks n data = [] := by
  rw [blocks, Nat.div_eq_of_lt short]
  rfl

theorem rest_of_lt {data : List α} (short : data.length < n) :
    rest n data = data := by
  rw [rest, Nat.div_eq_of_lt short, Nat.zero_mul, List.drop_zero]

theorem length_rest (data : List α) :
    (rest n data).length = data.length % n := by
  rw [rest, List.length_drop, Nat.mod_eq_sub_div_mul]

theorem length_rest_lt (pos : 0 < n) (data : List α) :
    (rest n data).length < n := by
  rw [length_rest]
  exact Nat.mod_lt _ pos

/-- The first block comes off the front. -/
theorem blocks_append_block (pos : 0 < n) {block : List α}
    (length : block.length = n) (data : List α) :
    blocks n (block ++ data) = block :: blocks n data := by
  have count : (block ++ data).length / n = data.length / n + 1 := by
    rw [List.length_append, length, Nat.add_div_left _ pos]
  rw [blocks, count, List.range_succ_eq_map, List.map_cons, List.map_map,
    Nat.zero_mul, List.drop_zero, List.take_left' length, blocks]
  congr 2
  funext index
  have skip : (index + 1) * n = block.length + index * n := by
    rw [length, Nat.succ_mul, Nat.add_comm]
  simp only [Function.comp_apply, skip, List.drop_append, List.drop_eq_nil_of_le
    (Nat.le_add_right block.length (index * n)), List.nil_append,
    Nat.add_sub_cancel_left]

theorem rest_append_block (pos : 0 < n) {block : List α}
    (length : block.length = n) (data : List α) :
    rest n (block ++ data) = rest n data := by
  have count : (block ++ data).length / n * n =
      block.length + data.length / n * n := by
    rw [List.length_append, length, Nat.add_div_left _ pos, Nat.succ_mul,
      Nat.add_comm]
  rw [rest, count, List.drop_append, List.drop_eq_nil_of_le
    (Nat.le_add_right _ _), Nat.add_sub_cancel_left, List.nil_append, rest]

/-- The blocks of a whole come from those of its front and of what the front
leaves. -/
theorem blocks_append (pos : 0 < n) (front data : List α) :
    blocks n (front ++ data) =
      blocks n front ++ blocks n (rest n front ++ data) := by
  induction size : front.length using Nat.strongRecOn generalizing front with
  | _ bound ih =>
      rcases Nat.lt_or_ge front.length n with short | long
      · rw [blocks_of_lt short, rest_of_lt short, List.nil_append]
      · have length : (front.take n).length = n := by
          rw [List.length_take, Nat.min_eq_left long]
        have fewer : (front.drop n).length < bound := by
          rw [List.length_drop]
          omega
        have split := ih _ fewer (front.drop n) rfl
        rw [← List.take_append_drop n front, List.append_assoc,
          blocks_append_block pos length, blocks_append_block pos length,
          rest_append_block pos length, split, List.cons_append]

theorem rest_append (pos : 0 < n) (front data : List α) :
    rest n (front ++ data) = rest n (rest n front ++ data) := by
  induction size : front.length using Nat.strongRecOn generalizing front with
  | _ bound ih =>
      rcases Nat.lt_or_ge front.length n with short | long
      · rw [rest_of_lt short]
      · have length : (front.take n).length = n := by
          rw [List.length_take, Nat.min_eq_left long]
        have fewer : (front.drop n).length < bound := by
          rw [List.length_drop]
          omega
        have split := ih _ fewer (front.drop n) rfl
        rw [← List.take_append_drop n front, List.append_assoc,
          rest_append_block pos length, rest_append_block pos length, split]

/-- The state after the whole blocks of a list. -/
def absorb (compress : σ → List α → σ) (n : ℕ) (state : σ) (data : List α) :
    σ :=
  (blocks n data).foldl compress state

theorem absorb_of_lt {compress : σ → List α → σ} {state : σ} {data : List α}
    (short : data.length < n) : absorb compress n state data = state := by
  rw [absorb, blocks_of_lt short]
  rfl

theorem absorb_append_block {compress : σ → List α → σ} (pos : 0 < n)
    {block : List α} (length : block.length = n) (state : σ) (data : List α) :
    absorb compress n state (block ++ data) =
      absorb compress n (compress state block) data := by
  rw [absorb, blocks_append_block pos length, List.foldl_cons, absorb]

/-- A list that comes in two pieces is absorbed piece by piece. -/
theorem absorb_append {compress : σ → List α → σ} (pos : 0 < n) (state : σ)
    (front data : List α) :
    absorb compress n state (front ++ data) =
      absorb compress n (absorb compress n state front)
        (rest n front ++ data) := by
  rw [absorb, blocks_append pos, List.foldl_append, absorb, absorb]

end BlockFold
