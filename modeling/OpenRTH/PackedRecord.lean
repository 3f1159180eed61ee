import Mathlib.Algebra.GroupWithZero.Nat
import Mathlib.Algebra.Order.BigOperators.Group.List
import Mathlib.Data.List.SplitLengths
import Mathlib.Data.Vector.Basic

/-!
# Packed records

A packed record is laid out as its fields one after the other, without padding.
Memory that begins with a record splits into the fields by their sizes alone, so
writing a record and reading it back is the identity whatever stands behind it.
Fields that memory is too short for are read as zeros.
-/

/-- The layout of a type of records: the sizes of the fields, the fields of a
record, and the record with given fields. -/
class PackedRecord (α : outParam Type*) (R : Type*) where
  sizes : List ℕ
  fields : R → List (List α)
  map_length_fields : ∀ record, (fields record).map List.length = sizes
  read : List (List α) → R
  read_fields : ∀ record, read (fields record) = record

namespace PackedRecord

variable {α R : Type*}

/-- A list splits at the lengths of the pieces it has been put together
from. -/
theorem splitLengths_flatten_append (pieces : List (List α)) (rest : List α) :
    (pieces.map List.length).splitLengths (pieces.flatten ++ rest) = pieces := by
  induction pieces with
  | nil => rfl
  | cons piece pieces ih =>
      rw [List.map_cons, List.splitLengths_cons, List.flatten_cons,
        List.append_assoc, List.take_left, List.drop_left, ih]

variable [PackedRecord α R]

/-- The elements of a record in memory. -/
def toList (record : R) : List α :=
  (fields record).flatten

/-- The record at the start of memory. -/
def ofList (memory : List α) : R :=
  read ((sizes (R := R)).splitLengths memory)

theorem ofList_toList_append (record : R) (rest : List α) :
    ofList (toList record ++ rest) = record := by
  rw [ofList, toList, ← map_length_fields record, splitLengths_flatten_append,
    read_fields]

/-- `sizeof`. -/
def size (R : Type*) [PackedRecord α R] : ℕ :=
  (sizes (R := R)).sum

@[simp]
theorem length_toList (record : R) :
    (toList record).length = size R := by
  rw [toList, List.length_flatten, map_length_fields, size]

/-- A record inside of a record: its fields stand before those behind it. -/
instance instProd {First Second : Type*} [PackedRecord α First]
    [PackedRecord α Second] : PackedRecord α (First × Second) where
  sizes := sizes (R := First) ++ sizes (R := Second)
  fields record := fields record.1 ++ fields record.2
  map_length_fields record := by
    rw [List.map_append, map_length_fields, map_length_fields]
  read pieces :=
    let count := (sizes (R := First)).length
    (read (pieces.take count), read (pieces.drop count))
  read_fields record := by
    have count : (fields record.1).length = (sizes (R := First)).length := by
      rw [← map_length_fields record.1, List.length_map]
    simp only [List.take_left' count, List.drop_left' count, read_fields]

/-- A field of `n` elements; zeros stand for what is missing. -/
def fieldVector [Zero α] (n : ℕ) (field : List α) : List.Vector α n :=
  ⟨(field ++ List.replicate n 0).take n, by simp⟩

@[simp]
theorem fieldVector_toList [Zero α] {n : ℕ} (vector : List.Vector α n) :
    fieldVector n vector.toList = vector :=
  Subtype.ext (List.take_left' vector.toList_length)

end PackedRecord
