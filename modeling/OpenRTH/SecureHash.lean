import OpenRTH.BigEndianBytes
import OpenRTH.BlockFold
import Mathlib.Data.Nat.NthRoot.Defs
import Mathlib.Data.Nat.Prime.Basic

/-!
# The Secure Hash Algorithm

SHA-256 as the standard defines it: the constants are fractions of the roots of
the first primes, a message is padded to whole blocks of 64 bytes, and each
block goes through 64 rounds over eight working variables, with the words of the
message schedule.
-/

namespace SecureHash

/-! ## Functions and constants -/

/-- Rotation of a word to the right. -/
def rotateRight (count : ℕ) (word : UInt32) : UInt32 :=
  ⟨word.toBitVec.rotateRight count⟩

def ch (x y z : UInt32) : UInt32 := (x &&& y) ^^^ (~~~x &&& z)

def maj (x y z : UInt32) : UInt32 := (x &&& y) ^^^ (x &&& z) ^^^ (y &&& z)

def bigSigma0 (word : UInt32) : UInt32 :=
  rotateRight 2 word ^^^ rotateRight 13 word ^^^ rotateRight 22 word

def bigSigma1 (word : UInt32) : UInt32 :=
  rotateRight 6 word ^^^ rotateRight 11 word ^^^ rotateRight 25 word

def smallSigma0 (word : UInt32) : UInt32 :=
  rotateRight 7 word ^^^ rotateRight 18 word ^^^ word >>> 3

def smallSigma1 (word : UInt32) : UInt32 :=
  rotateRight 17 word ^^^ rotateRight 19 word ^^^ word >>> 10

/-- The first 64 primes. -/
def primes : List ℕ :=
  (List.range 312).filter Nat.Prime

/-- The first 32 bits of the fraction of a root. -/
def rootFraction (degree radicand : ℕ) : UInt32 :=
  UInt32.ofNat (Nat.nthRoot degree (radicand * 2 ^ (32 * degree)))

/-- Fractions of the cube roots of the first 64 primes. -/
def constants : List UInt32 :=
  primes.map (rootFraction 3)

/-! ## Blocks -/

/-- The working variables; also a hash value. -/
structure Working where
  a : UInt32
  b : UInt32
  c : UInt32
  d : UInt32
  e : UInt32
  f : UInt32
  g : UInt32
  h : UInt32
  deriving DecidableEq

def Working.words (working : Working) : List UInt32 :=
  [working.a, working.b, working.c, working.d, working.e, working.f, working.g,
    working.h]

/-- Fractions of the square roots of the first eight primes. -/
def initial : Working where
  a := rootFraction 2 2
  b := rootFraction 2 3
  c := rootFraction 2 5
  d := rootFraction 2 7
  e := rootFraction 2 11
  f := rootFraction 2 13
  g := rootFraction 2 17
  h := rootFraction 2 19

/-- A word of a block. -/
def blockWord (block : List UInt8) (index : ℕ) : UInt32 :=
  UInt32.ofNat (BigEndianBytes.value ((block.drop (4 * index)).take 4))

/-- The message schedule. -/
def schedule (block : List UInt8) (index : ℕ) : UInt32 :=
  if index < 16 then blockWord block index
  else
    smallSigma1 (schedule block (index - 2)) + schedule block (index - 7) +
      smallSigma0 (schedule block (index - 15)) +
        schedule block (index - 16)
termination_by index

/-- One round. -/
def round (block : List UInt8) (working : Working) (index : ℕ) : Working :=
  let t1 := working.h + bigSigma1 working.e +
    ch working.e working.f working.g + constants.getD index 0 +
      schedule block index
  let t2 := bigSigma0 working.a + maj working.a working.b working.c
  { a := t1 + t2
    b := working.a
    c := working.b
    d := working.c
    e := working.d + t1
    f := working.e
    g := working.f
    h := working.g }

/-- The hash value after one more block. -/
def compress (value : Working) (block : List UInt8) : Working :=
  let working := (List.range 64).foldl (round block) value
  { a := working.a + value.a
    b := working.b + value.b
    c := working.c + value.c
    d := working.d + value.d
    e := working.e + value.e
    f := working.f + value.f
    g := working.g + value.g
    h := working.h + value.h }

/-! ## Messages -/

/-- The big-endian bytes of a number. -/
def numberBytes (size number : ℕ) : List UInt8 :=
  (List.range size).map fun index =>
    UInt8.ofNat (number / 256 ^ (size - 1 - index))

theorem numberBytes_add (first second number : ℕ) :
    numberBytes (first + second) number =
      numberBytes first (number / 256 ^ second) ++
        numberBytes second number := by
  rw [numberBytes, List.range_add, List.map_append, List.map_map]
  congr 1
  · refine List.map_congr_left fun index member => ?_
    have small := List.mem_range.mp member
    rw [Nat.div_div_eq_div_mul, ← pow_add,
      show second + (first - 1 - index) = first + second - 1 - index by omega]
  · refine List.map_congr_left fun index _ => ?_
    rw [Function.comp_apply,
      show first + second - 1 - (first + index) = second - 1 - index by omega]

theorem numberBytes_mod (size number : ℕ) :
    numberBytes size (number % 256 ^ size) = numberBytes size number := by
  refine List.map_congr_left fun index member => ?_
  have small := List.mem_range.mp member
  have split : 256 ^ size = 256 ^ (size - 1 - index) * 256 ^ (index + 1) := by
    rw [← pow_add]
    congr 1
    omega
  rw [split, Nat.mod_mul_right_div_self]
  refine UInt8.toNat_inj.mp ?_
  rw [UInt8.toNat_ofNat', UInt8.toNat_ofNat', pow_succ]
  exact Nat.mod_mul_left_mod _ _ _

/-- What is put behind a message of some bytes: a one, as few zeros as possible,
and the number of bits. -/
def padding (length : ℕ) : List UInt8 :=
  0x80 :: List.replicate ((119 - length % 64) % 64) 0 ++
    numberBytes 8 (8 * length)

/-- The digest of a message. -/
def digest (message : List UInt8) : List UInt8 :=
  (BlockFold.absorb compress 64 initial
    (message ++ padding message.length)).words.flatMap fun word =>
      numberBytes 4 word.toNat

end SecureHash
