import OpenRTH.SlacNetwork

/-!
# The steps of a SLAC station

A step of a station is one of its call or one of its state machine.  What a
reader gets from `readmessage` is a frame that has been sent to the station, and
the fields it finds there are the fields of that frame.
-/

namespace OpenRTH

open PackedRecord (ofList)

/-! ## Steps of any station -/

/-- A step is a step of the call that the station is in, or of its state machine
alone. -/
theorem StationCode.step_cases {code : StationCode} {station after : SlacStation}
    {input : StationInput} {frames : List SlacFrame}
    (step : code.step station input = some (after, frames)) :
    station.overrun = false ∧
      ((∃ call callInput callStep, station.slac.pc.slacCall = some call ∧
          input = .call callInput ∧
          code.callStep station.session call station.call callInput =
            some callStep ∧
          code.afterCall station callStep = some after ∧
          frames = callStep.sent) ∨
        ∃ slacInput slac, station.slac.pc.slacCall = none ∧
          input = .slac slacInput ∧
          code.slacStep station.slac slacInput = some slac ∧
          after = { code.begun station with slac := slac } ∧ frames = []) := by
  unfold StationCode.step at step
  rw [Option.ite_none_left_eq_some] at step
  obtain ⟨running, step⟩ := step
  refine ⟨eq_false_of_ne_true running, ?_⟩
  split at step
  · next call callInput inCall =>
      obtain ⟨callStep, stepped, rest⟩ := Option.bind_eq_some_iff.mp step
      obtain ⟨next, moved, same⟩ := Option.map_eq_some_iff.mp rest
      obtain ⟨rfl, rfl⟩ := Prod.mk.inj same
      exact .inl ⟨call, callInput, callStep, inCall, rfl, stepped, moved, rfl⟩
  · next slacInput noCall =>
      obtain ⟨slac, stepped, same⟩ := Option.map_eq_some_iff.mp step
      obtain ⟨rfl, rfl⟩ := Prod.mk.inj same
      exact .inr ⟨slacInput, slac, noCall, rfl, stepped, rfl, rfl⟩
  · cases step

/-- How the pieces of a station change when its call takes a step. -/
theorem StationCode.afterCall_cases {code : StationCode}
    {station after : SlacStation} {step : CallStep}
    (moved : code.afterCall station step = some after) :
    after.session = step.session ∧ after.attempts = station.attempts ∧
      ((∃ state, step.progress = .goesOn state ∧
          after.slac = station.slac ∧ after.call = state ∧
          after.overrun = station.overrun) ∨
        (∃ zero, step.progress = .returns zero ∧
          code.slacStep station.slac (.returned zero) = some after.slac ∧
          after.call = .entered ∧ after.overrun = station.overrun) ∨
        (step.progress = .exits ∧
          code.slacStep station.slac .exits = some after.slac ∧
          after.call = .entered ∧ after.overrun = station.overrun) ∨
        (step.progress = .overruns ∧ after.slac = station.slac ∧
          after.call = station.call ∧ after.overrun = true)) := by
  unfold StationCode.afterCall at moved
  split at moved
  · next state progress =>
      obtain rfl := Option.some.inj moved
      exact ⟨rfl, rfl, .inl ⟨state, progress, rfl, rfl, rfl⟩⟩
  · next zero progress =>
      obtain ⟨slac, stepped, rfl⟩ := Option.map_eq_some_iff.mp moved
      exact ⟨rfl, rfl, .inr (.inl ⟨zero, progress, stepped, rfl, rfl⟩)⟩
  · next progress =>
      obtain ⟨slac, stepped, rfl⟩ := Option.map_eq_some_iff.mp moved
      exact ⟨rfl, rfl, .inr (.inr (.inl ⟨progress, stepped, rfl, rfl⟩))⟩
  · next progress =>
      obtain rfl := Option.some.inj moved
      exact ⟨rfl, rfl, .inr (.inr (.inr ⟨progress, rfl, rfl, rfl⟩))⟩

/-! ## What readers get -/

section Readers

variable {sent : List SlacFrame} {host : EtherAddr}

/-- A type of the SLAC functions. -/
abbrev slacMmtypes : List UInt16 := SlacFields.readers.map Prod.fst

theorem mmtype_of_wanted {memory : List UInt8} {mmtype : UInt16}
    (wanted : unwantedMessage memory homeplugMmv mmtype = false) :
    memory ≠ [] ∧
      (ofList (R := EthernetHdr × HomeplugFmi) memory).2.mmtype =
        mmtype := by
  simp only [unwantedMessage] at wanted
  split_ifs at wanted with empty short long mtype mmv zero
  all_goals rw [ne_eq, not_not] at mmv
  · exact absurd (zero.symm.trans mmv) (by decide)
  · exact absurd (zero.symm.trans mmv) (by decide)
  · exact ⟨fun none_ => empty (by rw [none_]; rfl), by simpa using wanted⟩
  · rename_i notOne
    exact absurd mmv notOne

/-- A message of a SLAC type is the frame of a station. -/
theorem exists_frame_of_wanted {packet : List UInt8} {elapsed : ℤ}
    {mmtype : UInt16} (isSlac : mmtype ∈ slacMmtypes)
    (arrives : deliverable sent host (.packet packet elapsed) = true)
    (wanted :
      unwantedMessage (readpacket packet) homeplugMmv mmtype = false) :
    ∃ frame ∈ sent, frame.goesTo host = true ∧
      readpacket packet = frame.bytes ∧ frame.fields.mmtype = mmtype := by
  obtain ⟨nonempty, type⟩ := mmtype_of_wanted wanted
  simp only [deliverable, Bool.or_eq_true, List.any_eq_true,
    Bool.and_eq_true, beq_iff_eq] at arrives
  rcases arrives with (empty | foreign) | ⟨frame, member, addressed, same⟩
  · rw [List.isEmpty_iff] at empty
    subst empty
    exact absurd rfl nonempty
  · simp only [foreignPacket, decide_eq_true_eq] at foreign
    rw [type] at foreign
    exact absurd isSlac foreign
  · subst same
    rw [frame.readpacket_bytes] at wanted ⊢
    refine ⟨frame, member, addressed, rfl, ?_⟩
    rw [frame.unwantedMessage_bytes] at wanted
    simpa using wanted

theorem exists_frame_of_readmessage {reads : List PacketRead}
    {mmtype : UInt16} {memory : List UInt8} (isSlac : mmtype ∈ slacMmtypes)
    (arrive : reads.all (deliverable sent host) = true)
    (message : readmessage mmtype reads = some (some memory)) :
    ∃ frame ∈ sent, frame.goesTo host = true ∧ memory = frame.bytes ∧
      frame.fields.mmtype = mmtype := by
  obtain ⟨packet, elapsed, member, rfl, wanted⟩ :=
    exists_packet_of_readmessage message
  exact exists_frame_of_wanted isSlac (List.all_eq_true.mp arrive _ member)
    wanted

theorem exists_frame_of_reader {reads : List PacketRead} {mmtype : UInt16}
    {memory : List UInt8} {reader : List UInt8 → SlacFields}
    (arrive : reads.all (deliverable sent host) = true)
    (message : readmessage mmtype reads = some (some memory))
    (found : SlacFields.readers.lookup mmtype = some reader) :
    ∃ frame ∈ sent, frame.goesTo host = true ∧ memory = frame.bytes ∧
      frame.fields = reader memory := by
  have isSlac : mmtype ∈ slacMmtypes := by
    obtain ⟨before, after, split, -⟩ := List.lookup_eq_some_iff.mp found
    rw [slacMmtypes, split, List.map_append, List.map_cons]
    exact List.mem_append_right _ List.mem_cons_self
  obtain ⟨frame, member, addressed, rfl, type⟩ :=
    exists_frame_of_readmessage isSlac arrive message
  have read := frame.lookup_readers
  rw [type, found, Option.map_some] at read
  exact ⟨frame, member, addressed, rfl, (Option.some.inj read).symm⟩

end Readers

end OpenRTH
