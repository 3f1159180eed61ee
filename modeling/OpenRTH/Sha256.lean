import OpenRTH.FixedBuffer
import Mathlib.Data.UInt

/-!
# SHA-256 and the HomePlug keys

`SHA256Reset`, `SHA256Write`, `SHA256Block` and `SHA256Fetch` over the
structure that they share, and the keys that `HPAVKeyNMK` and `HPAVKeyNID`
derive.  A result is `none` where the code leaves one of its arrays.
-/

namespace OpenRTH

/-! ## One block -/

/-- `SHR`. -/
def shr (word bits : UInt32) : UInt32 :=
  word >>> bits

/-- `ROTR`. -/
def rotr (word bits : UInt32) : UInt32 :=
  shr word bits ||| word <<< (32 - bits)

/-- `K`. -/
def sha256Constants : List UInt32 :=
  [0x428A2F98, 0x71374491, 0xB5C0FBCF, 0xE9B5DBA5, 0x3956C25B, 0x59F111F1,
    0x923F82A4, 0xAB1C5ED5, 0xD807AA98, 0x12835B01, 0x243185BE, 0x550C7DC3,
    0x72BE5D74, 0x80DEB1FE, 0x9BDC06A7, 0xC19BF174, 0xE49B69C1, 0xEFBE4786,
    0x0FC19DC6, 0x240CA1CC, 0x2DE92C6F, 0x4A7484AA, 0x5CB0A9DC, 0x76F988DA,
    0x983E5152, 0xA831C66D, 0xB00327C8, 0xBF597FC7, 0xC6E00BF3, 0xD5A79147,
    0x06CA6351, 0x14292967, 0x27B70A85, 0x2E1B2138, 0x4D2C6DFC, 0x53380D13,
    0x650A7354, 0x766A0ABB, 0x81C2C92E, 0x92722C85, 0xA2BFE8A1, 0xA81A664B,
    0xC24B8B70, 0xC76C51A3, 0xD192E819, 0xD6990624, 0xF40E3585, 0x106AA070,
    0x19A4C116, 0x1E376C08, 0x2748774C, 0x34B0BCB5, 0x391C0CB3, 0x4ED8AA4A,
    0x5B9CCA4F, 0x682E6FF3, 0x748F82EE, 0x78A5636F, 0x84C87814, 0x8CC70208,
    0x90BEFFFA, 0xA4506CEB, 0xBEF9A3F7, 0xC67178F2]

/-- The loop that reads the words of a block. -/
def loadWords : ℕ → List UInt8 → List UInt32
  | 0, _ => []
  | left + 1, buffer =>
      let byte (index : ℕ) : UInt32 := (buffer.getD index 0).toUInt32
      let word : UInt32 := byte 0 <<< (24 : UInt32)
      let word : UInt32 := word ||| byte 1 <<< (16 : UInt32)
      let word : UInt32 := word ||| byte 2 <<< (8 : UInt32)
      (word ||| byte 3) :: loadWords left (buffer.drop 4)

/-- The loop that extends `W`, which has been filled as far as the list
goes. -/
def extendWords : ℕ → List UInt32 → List UInt32
  | 0, words => words
  | left + 1, words =>
      let word := words.length
      let s0 := rotr (words.getD (word - 15) 0) 7 ^^^
        rotr (words.getD (word - 15) 0) 18 ^^^
        shr (words.getD (word - 15) 0) 3
      let s1 := rotr (words.getD (word - 2) 0) 17 ^^^
        rotr (words.getD (word - 2) 0) 19 ^^^
        shr (words.getD (word - 2) 0) 10
      extendWords left
        (words ++
          [words.getD (word - 16) 0 + s0 + words.getD (word - 7) 0 + s1])

/-- The loop that moves the words of `H` up by one. -/
def moveUp : ℕ → List UInt32 → List UInt32
  | 0, words => words
  | word + 1, words => moveUp word (words.set (word + 1) (words.getD word 0))

/-- One pass of `SHA256Block`. -/
def sha256Pass (words hash : List UInt32) (pass : ℕ) : List UInt32 :=
  let h := fun index => hash.getD index 0
  let s2 := rotr (h 0) 2 ^^^ rotr (h 0) 13 ^^^ rotr (h 0) 22
  let maj := (h 0 &&& h 1) ^^^ (h 0 &&& h 2) ^^^ (h 1 &&& h 2)
  let t2 := s2 + maj
  let s3 := rotr (h 4) 6 ^^^ rotr (h 4) 11 ^^^ rotr (h 4) 25
  let ch := (h 4 &&& h 5) ^^^ (~~~h 4 &&& h 6)
  let t1 := h 7 + s3 + ch + sha256Constants.getD pass 0 + words.getD pass 0
  let moved := (moveUp 7 hash).set 0 (t1 + t2)
  moved.set 4 (moved.getD 4 0 + t1)

/-- `SHA256Block`. -/
def sha256Block (state : List UInt32) (memory : List UInt8) : List UInt32 :=
  let words := extendWords 48 (loadWords 16 memory)
  let hash := (List.range 64).foldl (sha256Pass words) state
  List.zipWith (· + ·) state hash

/-! ## Any number of bytes -/

/-- `struct sha256`. -/
structure Sha256 where
  count : UInt32 × UInt32
  state : List UInt32
  block : FixedBuffer UInt8 64
  extra : FixedBuffer UInt8 64

/-- `SHA256Reset`. -/
def sha256Reset : Sha256 where
  count := (0, 0)
  state :=
    [0x6A09E667, 0xBB67AE85, 0x3C6EF372, 0xA54FF53A, 0x510E527F, 0x9B05688C,
      0x1F83D9AB, 0x5BE0CD19]
  block := ⟨List.replicate 64 0, rfl⟩
  extra := ⟨0x80 :: List.replicate 63 0, rfl⟩

/-- The loop of `SHA256Write` over the blocks that lie in the buffer. -/
def sha256Blocks : ℕ → List UInt32 → List UInt8 → List UInt32 × List UInt8
  | 0, state, buffer => (state, buffer)
  | extent + 1, state, buffer =>
      if 64 ≤ buffer.length then
        sha256Blocks extent (sha256Block state (buffer.take 64))
          (buffer.drop 64)
      else (state, buffer)

/-- `SHA256Write`. -/
def sha256Write (sha256 : Sha256) (memory : List UInt8) : Option Sha256 :=
  let extent := memory.length
  if extent = 0 then some sha256
  else
    let left := sha256.count.1.toNat % 64
    let fill := 64 - left
    let low := sha256.count.1 + UInt32.ofNat extent
    let high :=
      if low.toNat < extent then sha256.count.2 + 1 else sha256.count.2
    let sha256 := { sha256 with count := (low, high) }
    let filled :=
      if left ≠ 0 ∧ fill ≤ extent then
        (sha256.block.store left (memory.take fill)).map fun block =>
          ({ sha256 with
            state := sha256Block sha256.state block.contents
            block := block }, memory.drop fill, 0)
      else some (sha256, memory, left)
    filled.bind fun (sha256, buffer, left) =>
      let (state, buffer) := sha256Blocks buffer.length sha256.state buffer
      (sha256.block.store left buffer).map fun block =>
        { sha256 with
          state := state
          block := block }

/-- `encode`. -/
def encode (number : UInt32) : List UInt8 :=
  [(number >>> 24).toUInt8, (number >>> 16).toUInt8, (number >>> 8).toUInt8,
    (number >>> 0).toUInt8]

/-- The digest that `SHA256Fetch` writes. -/
def sha256Fetch (sha256 : Sha256) : Option (List UInt8) :=
  let upper := sha256.count.1 >>> 29 ||| sha256.count.2 <<< 3
  let lower := sha256.count.1 <<< 3
  let final := sha256.count.1.toNat % 64
  let extra := if final < 56 then 56 - final else 120 - final
  let bits := encode upper ++ encode lower
  (sha256Write sha256 (sha256.extra.contents.take extra)).bind fun sha256 =>
    (sha256Write sha256 bits).map fun sha256 => sha256.state.flatMap encode

/-! ## Keys -/

/-- Reset, write and fetch once more. -/
def rehash : ℕ → List UInt8 → Option (List UInt8)
  | 0, digest => some digest
  | left + 1, digest =>
      ((sha256Write sha256Reset digest).bind sha256Fetch).bind (rehash left)

/-- `secret` in `HPAVKeyNMK`. -/
def hpavKeySecret : List UInt8 :=
  [0x08, 0x85, 0x6D, 0xAF, 0x7C, 0xF5, 0x81, 0x86]

/-- `HPAVKeyNMK`. -/
def hpavKeyNmk (string : List UInt8) : Option (List UInt8) :=
  (((sha256Write sha256Reset string).bind fun sha256 =>
    sha256Write sha256 hpavKeySecret).bind sha256Fetch).bind fun digest =>
      (rehash 999 digest).map fun digest => digest.take 16

/-- `HPAVKeyNID`. -/
def hpavKeyNid (nmk : List UInt8) (level : UInt8) : Option (List UInt8) :=
  ((sha256Write sha256Reset (nmk.take 16)).bind sha256Fetch).bind fun digest =>
    (rehash 4 digest).map fun digest =>
      let last : UInt8 := digest.getD 6 0
      let last : UInt8 := last >>> (4 : UInt8) ||| level <<< (4 : UInt8)
      (digest.set 6 last).take 7

end OpenRTH
