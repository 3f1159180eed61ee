import OpenRTH.StreamSegments

/-!
# Reading from the broker

`mqtt_net_read` calls `recv` until it has as many bytes as were asked for, or
`recv` fails.  Its loop takes the result 0 of a closed connection for data of no
bytes.  The main result says when it returns, and that what it returns is the
front of the stream.
-/

namespace OpenRTH

/-- How the socket goes on when all data has been delivered.  An error leaves a
number in `SO_ERROR`, a timeout leaves 0. -/
inductive BrokerEnding
  | shutdown
  | error
  | timeout
  deriving DecidableEq

/-- The results of `mqtt_net_read`; a number of bytes comes with the bytes in
`buf`. -/
inductive NetReadResult
  | bytes (buf : List UInt8)
  | timeout
  | network
  | badArg
  deriving DecidableEq

/-- Behind the loop. -/
def netReadEnd (buf : List UInt8) : NetReadResult :=
  if buf.length = 0 then .timeout else .bytes buf

/-- The loop of `mqtt_net_read` for a number of calls of `recv`, `none` while it
is still running.  `counts` are the numbers of bytes that the calls find, until
the connection ends; `stream` is what has not been read yet. -/
def mqttNetReadLoop (bufLen : ℕ) (ending : BrokerEnding) :
    ℕ → List ℕ → Stream' UInt8 → List UInt8 → Option NetReadResult
  | 0, _, _, buf => if buf.length < bufLen then none else some (netReadEnd buf)
  | calls + 1, counts, stream, buf =>
      if buf.length < bufLen then
        match counts, ending with
        | count :: counts, _ =>
            let rc := min count (bufLen - buf.length)
            mqttNetReadLoop bufLen ending calls counts (stream.drop rc)
              (buf ++ stream.take rc)
        -- 0 is added to the number of bytes
        | [], .shutdown => mqttNetReadLoop bufLen ending calls [] stream buf
        | [], .timeout => some (netReadEnd buf)
        | [], .error => some .network
      else some (netReadEnd buf)

/-- `mqtt_net_read`; `pSockFd` is null for a missing context. -/
def mqttNetRead (pSockFd : Option BrokerEnding) (bufLen calls : ℕ)
    (counts : List ℕ) (stream : Stream' UInt8) : Option NetReadResult :=
  match pSockFd with
  | none => some .badArg
  | some ending => mqttNetReadLoop bufLen ending calls counts stream []

/-- The call returns after finitely many calls of `recv`, and a positive result
is the front of the stream. -/
structure ReadsFront (pSockFd : Option BrokerEnding) (bufLen : ℕ)
    (counts : List ℕ) (stream : Stream' UInt8) : Prop where
  returns : ∃ calls, (mqttNetRead pSockFd bufLen calls counts stream).isSome
  front : ∀ calls buf,
    mqttNetRead pSockFd bufLen calls counts stream = some (.bytes buf) →
      0 < buf.length ∧ buf.length ≤ bufLen ∧ buf = stream.take buf.length

/-! ## The loop -/

section Loop

variable {bufLen calls : ℕ} {ending : BrokerEnding} {counts : List ℕ}
  {stream whole : Stream' UInt8} {buf final : List UInt8}

theorem mqttNetReadLoop_full (full : ¬ buf.length < bufLen) :
    mqttNetReadLoop bufLen ending calls counts stream buf =
      some (netReadEnd buf) := by
  cases calls <;> cases counts <;> cases ending <;>
    simp only [mqttNetReadLoop, if_neg full]

theorem mqttNetReadLoop_data (more : buf.length < bufLen) (count : ℕ) :
    mqttNetReadLoop bufLen ending (calls + 1) (count :: counts) stream buf =
      mqttNetReadLoop bufLen ending calls counts
        (stream.drop (min count (bufLen - buf.length)))
        (buf ++ stream.take (min count (bufLen - buf.length))) := by
  simp only [mqttNetReadLoop, if_pos more]

theorem mqttNetReadLoop_shutdown (more : buf.length < bufLen) :
    mqttNetReadLoop bufLen .shutdown calls [] stream buf = none := by
  induction calls with
  | zero => simp only [mqttNetReadLoop, if_pos more]
  | succ calls ih => simpa only [mqttNetReadLoop, if_pos more] using ih

theorem length_append_take (count : ℕ) :
    (buf ++ stream.take count).length = buf.length + count := by
  rw [List.length_append, Stream'.length_take]

theorem eq_bytes_of_netReadEnd (ended : netReadEnd buf = .bytes final) :
    final = buf ∧ 0 < final.length := by
  unfold netReadEnd at ended
  split_ifs at ended with empty
  cases ended
  exact ⟨rfl, Nat.pos_of_ne_zero empty⟩

/-- The bytes in the buffer and those that have not been read make up the
stream. -/
theorem mqttNetReadLoop_front (inside : buf.length ≤ bufLen)
    (front : buf = whole.take buf.length)
    (rest : stream = whole.drop buf.length)
    (returned : mqttNetReadLoop bufLen ending calls counts stream buf =
      some (.bytes final)) :
    0 < final.length ∧ final.length ≤ bufLen ∧
      final = whole.take final.length := by
  have ends {last : List UInt8} (short : last.length ≤ bufLen)
      (taken : last = whole.take last.length)
      (ended : some (netReadEnd last) = some (.bytes final)) :
      0 < final.length ∧ final.length ≤ bufLen ∧
        final = whole.take final.length := by
    obtain ⟨rfl, positive⟩ := eq_bytes_of_netReadEnd (Option.some.inj ended)
    exact ⟨positive, short, taken⟩
  induction counts generalizing calls stream buf with
  | nil =>
      by_cases more : buf.length < bufLen
      · cases ending with
        | shutdown =>
            rw [mqttNetReadLoop_shutdown more] at returned
            cases returned
        | error =>
            cases calls <;> simp [mqttNetReadLoop, more] at returned
        | timeout =>
            cases calls with
            | zero => simp [mqttNetReadLoop, more] at returned
            | succ calls =>
                simp only [mqttNetReadLoop, if_pos more] at returned
                exact ends inside front returned
      · rw [mqttNetReadLoop_full more] at returned
        exact ends inside front returned
  | cons count counts ih =>
      by_cases more : buf.length < bufLen
      · cases calls with
        | zero => simp [mqttNetReadLoop, more] at returned
        | succ calls =>
            rw [mqttNetReadLoop_data more] at returned
            refine ih ?_ ?_ ?_ returned
            · rw [length_append_take]
              omega
            · rw [length_append_take, StreamSegments.take_add, ← front, rest]
            · rw [length_append_take, rest, Stream'.drop_drop]
      · rw [mqttNetReadLoop_full more] at returned
        exact ends inside front returned

/-- Enough bytes, or an end that the loop notices, make it return. -/
theorem mqttNetReadLoop_returns_iff :
    (∃ calls, (mqttNetReadLoop bufLen ending calls counts stream
      buf).isSome) ↔
        (ending = .shutdown → bufLen ≤ buf.length + counts.sum) := by
  induction counts generalizing stream buf with
  | nil =>
      rw [List.sum_nil, Nat.add_zero]
      by_cases more : buf.length < bufLen
      · cases ending with
        | shutdown =>
            refine iff_of_false ?_ fun enough => not_le.mpr more (enough rfl)
            rintro ⟨calls, returned⟩
            rw [mqttNetReadLoop_shutdown more] at returned
            cases returned
        | error => exact iff_of_true ⟨1, by simp [mqttNetReadLoop, more]⟩ nofun
        | timeout =>
            exact iff_of_true ⟨1, by simp [mqttNetReadLoop, more]⟩ nofun
      · exact iff_of_true ⟨0, by rw [mqttNetReadLoop_full more]; rfl⟩
          fun _ => not_lt.mp more
  | cons count counts ih =>
      rw [List.sum_cons]
      by_cases more : buf.length < bufLen
      · have later : (∃ calls, (mqttNetReadLoop bufLen ending calls
            (count :: counts) stream buf).isSome) ↔
              ∃ calls, (mqttNetReadLoop bufLen ending calls counts
                (stream.drop (min count (bufLen - buf.length)))
                (buf ++ stream.take
                  (min count (bufLen - buf.length)))).isSome := by
          constructor
          · rintro ⟨_ | calls, returned⟩
            · simp [mqttNetReadLoop, more] at returned
            · rw [mqttNetReadLoop_data more] at returned
              exact ⟨calls, returned⟩
          · rintro ⟨calls, returned⟩
            rw [← mqttNetReadLoop_data more] at returned
            exact ⟨calls + 1, returned⟩
        rw [later, ih, length_append_take]
        apply imp_congr_right
        intro _
        omega
      · exact iff_of_true ⟨0, by rw [mqttNetReadLoop_full more]; rfl⟩
          fun _ => by omega

end Loop

/-- `mqtt_net_read` returns, with the front of the stream if with data, unless
the broker closes the connection before `buf_len` bytes have arrived. -/
theorem mqttNetRead_readsFront_iff (pSockFd : Option BrokerEnding)
    (bufLen : ℕ) (counts : List ℕ) (stream : Stream' UInt8) :
    ReadsFront pSockFd bufLen counts stream ↔
      (pSockFd = some .shutdown → bufLen ≤ counts.sum) := by
  cases pSockFd with
  | none => exact iff_of_true ⟨⟨0, rfl⟩, nofun⟩ nofun
  | some ending =>
      have returns : (∃ calls, (mqttNetReadLoop bufLen ending calls counts
          stream []).isSome) ↔
            (ending = .shutdown → bufLen ≤ 0 + counts.sum) :=
        mqttNetReadLoop_returns_iff
      rw [Nat.zero_add] at returns
      rw [Option.some_inj, ← returns]
      constructor
      · exact ReadsFront.returns
      · intro returned
        refine ⟨returned, fun calls buf => ?_⟩
        exact mqttNetReadLoop_front (Nat.zero_le _) rfl rfl

/-- The broker closes the connection before the first byte. -/
theorem mqttNetRead_not_readsFront :
    ¬ ReadsFront (some .shutdown) 2 [] (Stream'.const 0) := by
  intro reads
  obtain ⟨calls, returned⟩ := reads.returns
  have running :
      mqttNetRead (some .shutdown) 2 calls [] (Stream'.const 0) = none :=
    mqttNetReadLoop_shutdown (by decide)
  rw [running] at returned
  cases returned

end OpenRTH
