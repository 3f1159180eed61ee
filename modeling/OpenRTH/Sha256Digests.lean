import OpenRTH.SecureHash
import OpenRTH.Sha256

/-!
# The digests of the SHA-256 functions

Whatever the pieces in which a message is written, `SHA256Fetch` gives the
digest of the standard, and no array is left.  So the keys depend on the
passphrase alone.
-/

namespace OpenRTH

open SecureHash (Working)

/-! ## One block -/

theorem sha256Constants_eq : sha256Constants = SecureHash.constants := by
  decide +kernel

theorem sha256Reset_state : sha256Reset.state = SecureHash.initial.words := by
  decide +kernel

/-- Four bytes are put together to a word. -/
theorem toNat_loadWord (first second third fourth : UInt8) :
    (first.toUInt32 <<< (24 : UInt32) ||| second.toUInt32 <<< (16 : UInt32) |||
        third.toUInt32 <<< (8 : UInt32) ||| fourth.toUInt32).toNat =
      BigEndianBytes.value [first, second, third, fourth] := by
  have firstLt := first.toNat_lt
  have secondLt := second.toNat_lt
  have thirdLt := third.toNat_lt
  have fourthLt := fourth.toNat_lt
  have shift (byte : UInt8) {count : ℕ} (few : count ≤ 24) :
      byte.toNat <<< count % 2 ^ 32 = byte.toNat <<< count := by
    refine Nat.mod_eq_of_lt ?_
    rw [Nat.shiftLeft_eq]
    have bound := Nat.pow_le_pow_right (show 0 < 2 by decide) few
    have byteLt := byte.toNat_lt
    calc byte.toNat * 2 ^ count
        ≤ 255 * 2 ^ 24 := Nat.mul_le_mul (by omega) bound
      _ < 2 ^ 32 := by decide
  simp only [UInt32.toNat_or, UInt32.toNat_shiftLeft, UInt8.toNat_toUInt32,
    show (24 : UInt32).toNat % 32 = 24 from rfl,
    show (16 : UInt32).toNat % 32 = 16 from rfl,
    show (8 : UInt32).toNat % 32 = 8 from rfl, shift first le_rfl,
    shift second (show 16 ≤ 24 by decide), shift third (show 8 ≤ 24 by decide)]
  rw [Nat.or_assoc, Nat.or_assoc,
    ← Nat.shiftLeft_add_eq_or_of_lt (by omega : fourth.toNat < 2 ^ 8),
    ← Nat.shiftLeft_add_eq_or_of_lt (by
      rw [Nat.shiftLeft_eq]
      omega : third.toNat <<< 8 + fourth.toNat < 2 ^ 16),
    ← Nat.shiftLeft_add_eq_or_of_lt (by
      rw [Nat.shiftLeft_eq, Nat.shiftLeft_eq]
      omega :
        second.toNat <<< 16 + (third.toNat <<< 8 + fourth.toNat) < 2 ^ 24),
    BigEndianBytes.value_quadruple, Nat.shiftLeft_eq, Nat.shiftLeft_eq,
    Nat.shiftLeft_eq]
  omega

/-- The words of a block. -/
theorem loadWords_eq (count : ℕ) (memory : List UInt8)
    (long : 4 * count ≤ memory.length) :
    loadWords count memory =
      (List.range count).map (SecureHash.blockWord memory) := by
  induction count generalizing memory with
  | zero => rfl
  | succ count ih =>
      have rest := ih (memory.drop 4) (by rw [List.length_drop]; omega)
      rw [loadWords, List.range_succ_eq_map, List.map_cons, List.map_map, rest]
      congr 1
      · match memory, long with
        | first :: second :: third :: fourth :: memory, long =>
            refine UInt32.toNat_inj.mp ?_
            have small : BigEndianBytes.value [first, second, third, fourth] <
                256 ^ 4 :=
              BigEndianBytes.value_lt [first, second, third, fourth]
            exact (toNat_loadWord first second third fourth).trans
              (UInt32.toNat_ofNat_of_lt' small).symm
      · refine List.map_congr_left fun index _ => ?_
        rw [Function.comp_apply, SecureHash.blockWord, SecureHash.blockWord,
          List.drop_drop]
        congr 3
        congr 1
        omega

/-- The message schedule. -/
theorem extendWords_eq (block : List UInt8) (left : ℕ) {count : ℕ}
    (loaded : 16 ≤ count) :
    extendWords left ((List.range count).map (SecureHash.schedule block)) =
      (List.range (count + left)).map (SecureHash.schedule block) := by
  induction left generalizing count with
  | zero => rfl
  | succ left ih =>
      have found {index : ℕ} (inside : index < count) :
          ((List.range count).map (SecureHash.schedule block)).getD index 0 =
            SecureHash.schedule block index := by
        rw [List.getD_eq_getElem?_getD, List.getElem?_map,
          List.getElem?_range inside]
        rfl
      have next :
          SecureHash.schedule block (count - 16) +
              SecureHash.smallSigma0 (SecureHash.schedule block (count - 15)) +
              SecureHash.schedule block (count - 7) +
              SecureHash.smallSigma1 (SecureHash.schedule block (count - 2)) =
            SecureHash.schedule block count := by
        rw [SecureHash.schedule.eq_def block count,
          if_neg (Nat.not_lt.mpr loaded)]
        ac_rfl
      rw [extendWords, List.length_map, List.length_range, found (by omega),
        found (by omega), found (by omega), found (by omega),
        show count + (left + 1) = count + 1 + left by omega, ← ih (by omega),
        List.range_succ, List.map_append, List.map_singleton, ← next]
      rfl

theorem scheduleWords_eq {block : List UInt8} (long : 64 ≤ block.length) :
    extendWords 48 (loadWords 16 block) =
      (List.range 64).map (SecureHash.schedule block) := by
  have loaded : loadWords 16 block =
      (List.range 16).map (SecureHash.schedule block) := by
    rw [loadWords_eq 16 block (by omega)]
    refine List.map_congr_left fun index member => ?_
    rw [SecureHash.schedule, if_pos (List.mem_range.mp member)]
  rw [loaded, extendWords_eq block 48 le_rfl]

theorem sha256Pass_eq {block : List UInt8} {words : List UInt32}
    (working : Working) {pass : ℕ}
    (word : words.getD pass 0 = SecureHash.schedule block pass) :
    sha256Pass words working.words pass =
      (SecureHash.round block working pass).words := by
  rw [sha256Pass, SecureHash.round, ← word, ← sha256Constants_eq]
  rfl

theorem foldl_sha256Pass {block : List UInt8} {words : List UInt32}
    (working : Working) (passes : List ℕ)
    (scheduled : ∀ pass ∈ passes,
      words.getD pass 0 = SecureHash.schedule block pass) :
    passes.foldl (sha256Pass words) working.words =
      (passes.foldl (SecureHash.round block) working).words := by
  induction passes generalizing working with
  | nil => rfl
  | cons pass passes ih =>
      rw [List.foldl_cons, List.foldl_cons,
        sha256Pass_eq working (scheduled pass List.mem_cons_self)]
      exact ih _ fun later member =>
        scheduled later (List.mem_cons_of_mem _ member)

/-- `SHA256Block` computes the next hash value. -/
theorem sha256Block_eq (value : Working) {block : List UInt8}
    (long : 64 ≤ block.length) :
    sha256Block value.words block = (SecureHash.compress value block).words := by
  rw [sha256Block, scheduleWords_eq long, @foldl_sha256Pass block]
  · rw [SecureHash.compress]
    generalize (List.range 64).foldl (SecureHash.round block) value = working
    simp only [Working.words, List.zipWith_cons_cons, List.zipWith_nil_left,
      UInt32.add_comm]
  · intro pass member
    rw [List.getD_eq_getElem?_getD, List.getElem?_map,
      List.getElem?_range (List.mem_range.mp member)]
    rfl

/-! ## Writing a message in pieces -/

/-- The loop over the blocks of the buffer. -/
theorem sha256Blocks_eq (value : Working) {extent : ℕ} {buffer : List UInt8}
    (enough : buffer.length ≤ extent) :
    sha256Blocks extent value.words buffer =
      ((BlockFold.absorb SecureHash.compress 64 value buffer).words,
        BlockFold.rest 64 buffer) := by
  induction extent generalizing value buffer with
  | zero =>
      obtain rfl := List.length_eq_zero_iff.mp (Nat.le_zero.mp enough)
      rfl
  | succ extent ih =>
      rw [sha256Blocks]
      rcases Nat.lt_or_ge buffer.length 64 with short | long
      · rw [if_neg (by omega), BlockFold.absorb_of_lt short,
          BlockFold.rest_of_lt short]
      · have length : (buffer.take 64).length = 64 := by
          rw [List.length_take, Nat.min_eq_left long]
        have split := List.take_append_drop 64 buffer
        rw [if_pos long, sha256Block_eq value length.ge,
          ih _ (by rw [List.length_drop]; omega),
          ← BlockFold.absorb_append_block (by decide) length,
          ← BlockFold.rest_append_block (by decide) length, split]

theorem sha256Count_add {low high : UInt32} {length extent : ℕ}
    (lowCount : low.toNat = length % 2 ^ 32)
    (highCount : high.toNat = length / 2 ^ 32 % 2 ^ 32)
    (few : extent < 2 ^ 32) :
    (low + UInt32.ofNat extent).toNat = (length + extent) % 2 ^ 32 ∧
      (if (low + UInt32.ofNat extent).toNat < extent then high + 1
        else high).toNat = (length + extent) / 2 ^ 32 % 2 ^ 32 := by
  have sum : (low + UInt32.ofNat extent).toNat = (length + extent) % 2 ^ 32 := by
    rw [UInt32.toNat_add, UInt32.toNat_ofNat_of_lt' few, lowCount]
    omega
  refine ⟨sum, ?_⟩
  rw [sum]
  split_ifs with carry
  · rw [UInt32.toNat_add, highCount, show (1 : UInt32).toNat = 1 from rfl]
    omega
  · rw [highCount]
    omega

/-- What the structure holds after a message has been written. -/
structure Sha256.Holds (sha256 : Sha256) (message : List UInt8) : Prop where
  low : sha256.count.1.toNat = message.length % 2 ^ 32
  high : sha256.count.2.toNat = message.length / 2 ^ 32 % 2 ^ 32
  state : sha256.state =
    (BlockFold.absorb SecureHash.compress 64 SecureHash.initial message).words
  block : sha256.block.contents.take (message.length % 64) =
    BlockFold.rest 64 message
  extra : sha256.extra = sha256Reset.extra

theorem sha256Reset_holds : sha256Reset.Holds [] :=
  ⟨rfl, rfl, sha256Reset_state, rfl, rfl⟩

/-- The last part of `SHA256Write`: the blocks of the buffer, and what is left
of it. -/
theorem exists_store_rest {block : FixedBuffer UInt8 64} {left : ℕ}
    {front buffer : List UInt8} (pending : block.contents.take left = front)
    (length : front.length = left)
    (fits : left = 0 ∨ left + buffer.length < 64) (value : Working) :
    ∃ after,
      block.store left
          (sha256Blocks buffer.length value.words buffer).2 = some after ∧
        (sha256Blocks buffer.length value.words buffer).1 =
          (BlockFold.absorb SecureHash.compress 64 value
            (front ++ buffer)).words ∧
        after.contents.take (BlockFold.rest 64 (front ++ buffer)).length =
          BlockFold.rest 64 (front ++ buffer) := by
  rw [sha256Blocks_eq value le_rfl]
  dsimp only
  rcases fits with empty | short
  · subst empty
    obtain rfl := List.length_eq_zero_iff.mp length
    have inside := BlockFold.length_rest_lt (show 0 < 64 by decide) buffer
    obtain ⟨after, stored⟩ :
        ∃ after, block.store 0 (BlockFold.rest 64 buffer) = some after :=
      FixedBuffer.exists_store (by omega)
    have front := FixedBuffer.take_contents_store (Nat.zero_le _) stored
    rw [Nat.zero_add, List.take_zero, List.nil_append] at front
    exact ⟨after, stored, rfl, front⟩
  · have small : (front ++ buffer).length < 64 := by
      rw [List.length_append]
      omega
    obtain ⟨after, stored⟩ : ∃ after, block.store left buffer = some after :=
      FixedBuffer.exists_store (by omega)
    have contents := FixedBuffer.take_contents_store (by omega) stored
    rw [BlockFold.rest_of_lt (by omega), BlockFold.rest_of_lt small,
      BlockFold.absorb_of_lt (by omega), BlockFold.absorb_of_lt small]
    refine ⟨after, stored, rfl, ?_⟩
    rw [List.length_append, length, contents, pending]

/-- `SHA256Write` goes on with the message. -/
theorem sha256Write_holds {sha256 : Sha256} {message : List UInt8}
    (holds : sha256.Holds message) {memory : List UInt8}
    (few : memory.length < 2 ^ 32) :
    ∃ after, sha256Write sha256 memory = some after ∧
      after.Holds (message ++ memory) := by
  rcases Nat.eq_zero_or_pos memory.length with none_ | some_
  · obtain rfl := List.length_eq_zero_iff.mp none_
    rw [List.append_nil]
    exact ⟨sha256, rfl, holds⟩
  · obtain ⟨low, high⟩ := sha256Count_add holds.low holds.high few
    have left : sha256.count.1.toNat % 64 = message.length % 64 := by
      rw [holds.low]
      omega
    have length : (BlockFold.rest 64 message).length = message.length % 64 :=
      BlockFold.length_rest message
    rw [← List.length_append] at low high
    rw [sha256Write, if_neg (by omega), left, holds.state]
    dsimp only
    by_cases full :
        message.length % 64 ≠ 0 ∧ 64 - message.length % 64 ≤ memory.length
    · obtain ⟨partly, fills⟩ := full
      obtain ⟨block, stored⟩ :
          ∃ block, sha256.block.store (message.length % 64)
            (memory.take (64 - message.length % 64)) = some block := by
        refine FixedBuffer.exists_store ?_
        rw [List.length_take]
        omega
      have contents : block.contents =
          BlockFold.rest 64 message ++
            memory.take (64 - message.length % 64) := by
        have whole := FixedBuffer.contents_store stored
        rw [holds.block, List.length_take, Nat.min_eq_left fills,
          List.drop_eq_nil_of_le (by rw [sha256.block.length_contents]; omega),
          List.append_nil] at whole
        exact whole
      have split : BlockFold.rest 64 message ++ memory =
          block.contents ++ memory.drop (64 - message.length % 64) := by
        rw [contents, List.append_assoc, List.take_append_drop]
      obtain ⟨after, kept, state, rest⟩ :=
        @exists_store_rest block 0 [] (memory.drop (64 - message.length % 64))
          rfl rfl (.inl rfl)
          (SecureHash.compress
            (BlockFold.absorb SecureHash.compress 64 SecureHash.initial
              message) block.contents)
      rw [← sha256Block_eq _ block.length_contents.ge] at kept state
      rw [if_pos ⟨partly, fills⟩, stored, Option.map_some, Option.bind_some]
      dsimp only
      rw [kept]
      refine ⟨_, rfl, low, high, ?_, ?_, holds.extra⟩
      · rw [BlockFold.absorb_append (by decide), split,
          BlockFold.absorb_append_block (by decide) block.length_contents]
        exact state
      · rw [← BlockFold.length_rest, BlockFold.rest_append (by decide), split,
          BlockFold.rest_append_block (by decide) block.length_contents]
        exact rest
    · have fits : message.length % 64 = 0 ∨
          message.length % 64 + memory.length < 64 := by omega
      obtain ⟨after, kept, state, rest⟩ :=
        exists_store_rest holds.block length fits
          (BlockFold.absorb SecureHash.compress 64 SecureHash.initial message)
      rw [if_neg full, Option.bind_some]
      dsimp only
      rw [kept]
      refine ⟨_, rfl, low, high, ?_, ?_, holds.extra⟩
      · rw [BlockFold.absorb_append (by decide)]
        exact state
      · rw [← BlockFold.length_rest, BlockFold.rest_append (by decide)]
        exact rest

/-! ## Fetching the digest -/

theorem encode_eq (number : UInt32) :
    encode number = SecureHash.numberBytes 4 number.toNat := by
  have byte (word : UInt32) (index : ℕ)
      (value : word.toNat = number.toNat / 256 ^ index) :
      word.toUInt8 = UInt8.ofNat (number.toNat / 256 ^ index) := by
    rw [← value]
    exact UInt8.toNat_inj.mp (by simp)
  have shift (count : UInt32) (small : count.toNat < 32) :
      (number >>> count).toNat = number.toNat / 2 ^ count.toNat := by
    rw [UInt32.toNat_shiftRight, Nat.mod_eq_of_lt small,
      Nat.shiftRight_eq_div_pow]
  rw [encode, byte (number >>> 24) 3 (shift 24 (by decide)),
    byte (number >>> 16) 2 (shift 16 (by decide)),
    byte (number >>> 8) 1 (shift 8 (by decide)),
    byte (number >>> 0) 0 (shift 0 (by decide))]
  rfl

/-- The two words of the number of bits. -/
theorem encode_bits {low high : UInt32} {length : ℕ}
    (lowCount : low.toNat = length % 2 ^ 32)
    (highCount : high.toNat = length / 2 ^ 32 % 2 ^ 32)
    (few : length < 2 ^ 61) :
    encode (low >>> 29 ||| high <<< 3) ++ encode (low <<< 3) =
      SecureHash.numberBytes 8 (8 * length) := by
  have lower : (low <<< 3).toNat = 8 * length % 2 ^ 32 := by
    rw [UInt32.toNat_shiftLeft, show (3 : UInt32).toNat % 32 = 3 from rfl,
      Nat.shiftLeft_eq, lowCount]
    omega
  have upper : (low >>> 29 ||| high <<< 3).toNat = 8 * length / 2 ^ 32 := by
    have carry : length % 2 ^ 32 / 2 ^ 29 < 2 ^ 3 := by omega
    rw [UInt32.toNat_or, UInt32.toNat_shiftLeft, UInt32.toNat_shiftRight,
      show (3 : UInt32).toNat % 32 = 3 from rfl,
      show (29 : UInt32).toNat % 32 = 29 from rfl, Nat.shiftRight_eq_div_pow,
      lowCount, highCount, Nat.or_comm,
      BigEndianBytes.shiftLeft_or_eq_add carry (by decide)]
    omega
  rw [encode_eq, encode_eq, lower, upper,
    SecureHash.numberBytes_add 4 4 (8 * length)]
  congr 1
  exact SecureHash.numberBytes_mod 4 (8 * length)

/-- `SHA256Fetch` gives the digest of what has been written. -/
theorem sha256Fetch_eq {sha256 : Sha256} {message : List UInt8}
    (holds : sha256.Holds message) (few : message.length < 2 ^ 61) :
    sha256Fetch sha256 = some (SecureHash.digest message) := by
  have final : sha256.count.1.toNat % 64 = message.length % 64 := by
    rw [holds.low]
    omega
  rw [sha256Fetch, final, encode_bits holds.low holds.high few, holds.extra]
  generalize width : (if message.length % 64 < 56 then 56 - message.length % 64
    else 120 - message.length % 64) = extra
  have zeros : extra = (119 - message.length % 64) % 64 + 1 := by
    subst width
    split_ifs <;> omega
  have pad : sha256Reset.extra.contents.take extra =
      0x80 :: List.replicate ((119 - message.length % 64) % 64) 0 := by
    change (0x80 :: List.replicate 63 (0 : UInt8)).take extra = _
    rw [zeros, List.take_succ_cons, List.take_replicate]
    congr 2
    omega
  obtain ⟨padded, wrote, paddedHolds⟩ := sha256Write_holds holds
    (show (sha256Reset.extra.contents.take extra).length < 2 ^ 32 by
      rw [pad, List.length_cons, List.length_replicate]
      omega)
  obtain ⟨counted, wroteBits, countedHolds⟩ := sha256Write_holds paddedHolds
    (show (SecureHash.numberBytes 8 (8 * message.length)).length < 2 ^ 32 by
      rw [SecureHash.numberBytes, List.length_map, List.length_range]
      omega)
  rw [wrote, Option.bind_some, wroteBits, Option.map_some, countedHolds.state,
    pad, List.append_assoc, SecureHash.digest, SecureHash.padding]
  congr 2
  funext word
  exact encode_eq word

/-- Writing a message in pieces. -/
def sha256WriteAll : List (List UInt8) → Sha256 → Option Sha256
  | [], sha256 => some sha256
  | piece :: pieces, sha256 =>
      (sha256Write sha256 piece).bind (sha256WriteAll pieces)

theorem sha256WriteAll_holds {sha256 : Sha256} {message : List UInt8}
    (holds : sha256.Holds message) {pieces : List (List UInt8)}
    (few : ∀ piece ∈ pieces, piece.length < 2 ^ 32) :
    ∃ after, sha256WriteAll pieces sha256 = some after ∧
      after.Holds (message ++ pieces.flatten) := by
  induction pieces generalizing sha256 message with
  | nil =>
      rw [List.flatten_nil, List.append_nil]
      exact ⟨sha256, rfl, holds⟩
  | cons piece pieces ih =>
      obtain ⟨next, wrote, nextHolds⟩ :=
        sha256Write_holds holds (few piece List.mem_cons_self)
      obtain ⟨after, rest, afterHolds⟩ := ih nextHolds fun later member =>
        few later (List.mem_cons_of_mem _ member)
      rw [List.append_assoc] at afterHolds
      refine ⟨after, ?_, afterHolds⟩
      rw [sha256WriteAll, wrote]
      exact rest

/-- The digest of a message does not depend on how it is cut into pieces: it is
that of the standard, and no array is left. -/
theorem sha256_digest {pieces : List (List UInt8)}
    (few : ∀ piece ∈ pieces, piece.length < 2 ^ 32)
    (total : pieces.flatten.length < 2 ^ 61) :
    (sha256WriteAll pieces sha256Reset).bind sha256Fetch =
      some (SecureHash.digest pieces.flatten) := by
  obtain ⟨after, wrote, holds⟩ := sha256WriteAll_holds sha256Reset_holds few
  rw [List.nil_append] at holds
  rw [wrote, Option.bind_some, sha256Fetch_eq holds total]

/-- The digest of three letters in two pieces. -/
theorem sha256_digest_abc :
    (sha256WriteAll [[0x61], [0x62, 0x63]] sha256Reset).bind sha256Fetch =
      some (SecureHash.digest [0x61, 0x62, 0x63]) :=
  @sha256_digest [[0x61], [0x62, 0x63]] (by decide) (by decide)

example :
    (sha256WriteAll [[0x61], [0x62, 0x63]] sha256Reset).bind sha256Fetch =
      some
        [0xBA, 0x78, 0x16, 0xBF, 0x8F, 0x01, 0xCF, 0xEA, 0x41, 0x41, 0x40, 0xDE,
          0x5D, 0xAE, 0x22, 0x23, 0xB0, 0x03, 0x61, 0xA3, 0x96, 0x17, 0x7A,
          0x9C, 0xB4, 0x10, 0xFF, 0x61, 0xF2, 0x00, 0x15, 0xAD] := by
  decide +kernel

/-! ## Keys -/

theorem length_digest (message : List UInt8) :
    (SecureHash.digest message).length = 32 := rfl

theorem sha256Fetch_write {message : List UInt8}
    (few : message.length < 2 ^ 32) :
    (sha256Write sha256Reset message).bind sha256Fetch =
      some (SecureHash.digest message) := by
  obtain ⟨after, wrote, holds⟩ := sha256Write_holds sha256Reset_holds few
  rw [List.nil_append] at holds
  rw [wrote, Option.bind_some, sha256Fetch_eq holds (by omega)]

theorem rehash_eq (count : ℕ) {digest : List UInt8}
    (few : digest.length < 2 ^ 32) :
    rehash count digest = some (SecureHash.digest^[count] digest) := by
  induction count generalizing digest with
  | zero => rfl
  | succ count ih =>
      have again : (SecureHash.digest digest).length < 2 ^ 32 := by
        rw [length_digest]
        decide
      rw [rehash, sha256Fetch_write few, Option.bind_some, ih again,
        Function.iterate_succ_apply]

/-- The network membership key of a passphrase. -/
def networkMembershipKey (passphrase : List UInt8) : List UInt8 :=
  (SecureHash.digest^[1000] (passphrase ++ hpavKeySecret)).take 16

/-- The network identifier of a key at a security level. -/
def networkIdentifier (nmk : List UInt8) (level : UInt8) : List UInt8 :=
  let digest := SecureHash.digest^[5] nmk
  digest.take 6 ++
    [digest.getD 6 0 >>> (4 : UInt8) ||| level <<< (4 : UInt8)]

theorem length_iterate_digest (count : ℕ) (message : List UInt8) :
    (SecureHash.digest^[count + 1] message).length = 32 := by
  rw [Function.iterate_succ_apply', length_digest]

theorem take_set {α : Type} {elements : List α} {index : ℕ}
    (inside : index < elements.length) (value : α) :
    (elements.set index value).take (index + 1) =
      elements.take index ++ [value] := by
  have length : (elements.take index ++ [value]).length = index + 1 := by
    rw [List.length_append, List.length_take, Nat.min_eq_left inside.le,
      List.length_singleton]
  rw [List.set_eq_take_append_cons_drop, if_pos inside, List.append_cons,
    List.take_left' length]

/-- The keys that an EVSE generates: the first 16 bytes of the thousandth digest
of the passphrase and the secret, and the first seven bytes of the fifth digest
of these, the last of them shared with the security level. -/
theorem hpavKeys_eq {passphrase : List UInt8}
    (few : passphrase.length < 2 ^ 32) (level : UInt8) :
    ∃ nmk, hpavKeyNmk passphrase = some nmk ∧
      nmk = networkMembershipKey passphrase ∧ nmk.length = 16 ∧
        hpavKeyNid nmk level = some (networkIdentifier nmk level) ∧
          (networkIdentifier nmk level).length = 7 := by
  have length : (networkMembershipKey passphrase).length = 16 := by
    rw [networkMembershipKey, List.length_take, length_iterate_digest]
    rfl
  refine ⟨networkMembershipKey passphrase, ?_, rfl, length, ?_, ?_⟩
  · obtain ⟨first, wrote, holds⟩ := sha256Write_holds sha256Reset_holds few
    obtain ⟨second, wroteSecret, secretHolds⟩ :=
      sha256Write_holds holds (show hpavKeySecret.length < 2 ^ 32 by decide)
    have total :
        ([] ++ passphrase ++ hpavKeySecret).length < 2 ^ 61 := by
      rw [List.length_append, List.length_append,
        show hpavKeySecret.length = 8 from rfl, List.length_nil]
      omega
    rw [hpavKeyNmk, wrote, Option.bind_some, wroteSecret, Option.bind_some,
      sha256Fetch_eq secretHolds total, Option.bind_some,
      rehash_eq 999 (by rw [length_digest]; decide), Option.map_some,
      ← Function.iterate_succ_apply, List.nil_append]
    rfl
  · rw [hpavKeyNid, List.take_of_length_le length.le,
      sha256Fetch_write (by rw [length]; decide), Option.bind_some,
      rehash_eq 4 (by rw [length_digest]; decide), Option.map_some,
      ← Function.iterate_succ_apply]
    exact congrArg some
      (take_set (by rw [length_iterate_digest]; decide) _)
  · rw [networkIdentifier, List.length_append, List.length_take,
      length_iterate_digest]
    rfl

/-- The passphrase of the keys that a PEV has without a configuration. -/
def homePlugPassphrase : List UInt8 :=
  [0x48, 0x6F, 0x6D, 0x65, 0x50, 0x6C, 0x75, 0x67, 0x41, 0x56]

theorem hpavKeys_eq_homePlug :
    ∃ nmk, hpavKeyNmk homePlugPassphrase = some nmk ∧
      nmk = networkMembershipKey homePlugPassphrase ∧
      hpavKeyNid nmk 0 = some (networkIdentifier nmk 0) := by
  obtain ⟨nmk, key, same, -, identifier, -⟩ :=
    @hpavKeys_eq homePlugPassphrase (by decide) 0
  exact ⟨nmk, key, same, identifier⟩

end OpenRTH
