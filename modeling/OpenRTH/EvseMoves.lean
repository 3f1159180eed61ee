import OpenRTH.PevMoves

/-!
# What an EVSE can do

An EVSE keeps its keys and its address through all its calls, it gives its keys
away only in answer to a request, and its sums leave their array only with a
profile that has more groups.
-/

namespace OpenRTH

open PackedRecord (ofList fieldVector)

/-- The session of an EVSE that answers a request. -/
def SlacSession.withRequest (session : SlacSession)
    (request : CmSlacMatchRequest) : SlacSession :=
  { session with
    pevId := request.pevId
    pevMac := request.pevMac
    runId := request.runId }

/-- What an EVSE sends. -/
inductive EvseSends (sent : List SlacFrame) (host : EtherAddr)
    (session : SlacSession) (frame : SlacFrame) : Prop
  | plain (plain : frame.fields.plain = true)
  | indicates {indicate : CmAttenCharIndicate}
      (fields : frame.fields = .attenCharIndicate indicate)
      (groups : indicate.numGroups.toNat ≤ slacGroups)
  | confirms {asking : SlacFrame} {request : CmSlacMatchRequest}
      (member : asking ∈ sent) (addressed : asking.goesTo host = true)
      (asked : asking.fields = .slacMatchRequest request)
      (answers : frame =
        evseSlacMatchConfirm host (session.withRequest request))

/-- What a step of an EVSE keeps. -/
structure EvseKept (sent : List SlacFrame) (host : EtherAddr)
    (before after : SlacSession) (frames : List SlacFrame) : Prop where
  nmk : after.nmk = before.nmk
  nid : after.nid = before.nid
  evseMac : after.evseMac = before.evseMac
  groups : after.numGroups.toNat ≤ slacGroups
  hosts : ∀ frame ∈ frames, frame.host = host
  sends : ∀ frame ∈ frames, EvseSends sent host before frame

section EvseKept

variable {sent : List SlacFrame} {host : EtherAddr}
  {before after session : SlacSession} {step : CallStep}

theorem EvseKept.unsent (nmk : after.nmk = before.nmk)
    (nid : after.nid = before.nid) (evseMac : after.evseMac = before.evseMac)
    (groups : after.numGroups.toNat ≤ slacGroups) :
    EvseKept sent host before after [] :=
  ⟨nmk, nid, evseMac, groups, fun _ => nofun, fun _ => nofun⟩

theorem EvseKept.quiet (groups : before.numGroups.toNat ≤ slacGroups) :
    EvseKept sent host before before [] :=
  .unsent rfl rfl rfl groups

theorem EvseKept.quietly {progress : CallProgress}
    (kept : EvseKept sent host before session []) :
    EvseKept sent host before (session.quiet progress).session
      (session.quiet progress).sent :=
  kept

theorem EvseKept.send {sendOk : Bool} {frame : SlacFrame}
    {progress : CallProgress}
    (kept : EvseKept sent host before session [])
    (here : frame.host = host) (sends : EvseSends sent host before frame) :
    EvseKept sent host before (session.send sendOk frame progress).session
      (session.send sendOk frame progress).sent := by
  obtain ⟨nmk, nid, evseMac, groups, -, -⟩ := kept
  cases sendOk with
  | false => exact ⟨nmk, nid, evseMac, groups, fun _ => nofun, fun _ => nofun⟩
  | true =>
      refine ⟨nmk, nid, evseMac, groups, fun other member => ?_,
        fun other member => ?_⟩
      · rwa [List.mem_singleton.mp member]
      · rwa [List.mem_singleton.mp member]

theorem EvseKept.soundingEnd {aag : FixedBuffer ℕ slacGroups}
    (kept : EvseKept sent host before session []) :
    EvseKept sent host before (soundingEnd session aag) [] := by
  rw [OpenRTH.soundingEnd]
  split_ifs
  · have groups : (UInt8.ofNat slacGroups).toNat ≤ slacGroups := by decide
    exact ⟨kept.nmk, kept.nid, kept.evseMac, groups, kept.hosts, kept.sends⟩
  · exact kept

/-- A read of a profile that has more groups than the sums. -/
def PacketRead.BeyondSums (pevMac : EtherAddr) (read : PacketRead) : Prop :=
  ∃ profile, ownProfile pevMac read = some profile ∧
    slacGroups < profile.numGroups.toNat

/-- What a read of `evse_cm_mnbc_sound` makes of the sums. -/
theorem soundingFrame_cases (aag : FixedBuffer ℕ slacGroups)
    (packet : List UInt8) (elapsed : ℤ)
    (groups : before.numGroups.toNat ≤ slacGroups) :
    (PacketRead.packet packet elapsed).BeyondSums before.pevMac ∧
        soundingFrame before aag (readpacket packet) = none ∨
      ¬ (PacketRead.packet packet elapsed).BeyondSums before.pevMac ∧
        ∃ session sums, soundingFrame before aag (readpacket packet) =
            some (session, sums) ∧
          EvseKept sent host before session [] := by
  cases own : ownProfile before.pevMac (.packet packet elapsed) with
  | none =>
      refine .inr ⟨fun ⟨_, found, _⟩ => ?_, before, aag,
        soundingFrame_of_none own, .quiet groups⟩
      rw [own] at found
      cases found
  | some profile =>
      have framed := @soundingFrame_of_some before aag packet elapsed profile own
      by_cases inside : profile.numGroups.toNat ≤ slacGroups
      · obtain ⟨sums, added, -⟩ := exists_addProfile profile.aag.toList
          (show 0 + profile.numGroups.toNat ≤ slacGroups by omega) aag
        refine .inr ⟨fun ⟨_, found, outside⟩ => ?_, _, sums,
          framed.trans (congrArg (Option.map _) added), ?_⟩
        · obtain rfl := Option.some.inj (own.symm.trans found)
          omega
        · exact .unsent rfl rfl rfl inside
      · have outside : slacGroups < 0 + profile.numGroups.toNat := by omega
        have left := addProfile_eq_none profile.aag.toList (Nat.zero_le _)
          outside aag
        exact .inl ⟨⟨profile, own, by omega⟩,
          framed.trans (congrArg (Option.map _) left)⟩

theorem evseCmMnbcSound_kept {aag : FixedBuffer ℕ slacGroups}
    {read : PacketRead} (groups : before.numGroups.toNat ≤ slacGroups) :
    EvseKept sent host before (evseCmMnbcSound before aag read).session
      (evseCmMnbcSound before aag read).sent := by
  cases read with
  | error => exact .quiet groups
  | packet packet elapsed =>
      rw [evseCmMnbcSound]
      obtain ⟨-, framed⟩ | ⟨-, session, sums, framed, kept⟩ :=
        @soundingFrame_cases sent host before aag packet elapsed groups
      · rw [framed]
        exact .quiet groups
      · rw [framed]
        dsimp only
        split_ifs
        · exact kept
        · exact kept.soundingEnd

theorem evseCmMnbcSound_leavesArray_iff {aag : FixedBuffer ℕ slacGroups}
    {read : PacketRead} (groups : before.numGroups.toNat ≤ slacGroups) :
    (evseCmMnbcSound before aag read).progress.leavesArray = true ↔
      read.BeyondSums before.pevMac := by
  cases read with
  | error =>
      refine iff_of_false (by rintro ⟨⟩) ?_
      rintro ⟨profile, ⟨⟩, -⟩
  | packet packet elapsed =>
      rw [evseCmMnbcSound]
      obtain ⟨beyond, framed⟩ | ⟨inside, session, sums, framed, -⟩ :=
        @soundingFrame_cases [] broadcast before aag packet elapsed groups
      · rw [framed]
        exact iff_of_true rfl beyond
      · rw [framed]
        dsimp only
        split_ifs
        · exact iff_of_false (by rintro ⟨⟩) inside
        · exact iff_of_false (by rintro ⟨⟩) inside

theorem evseCmSlacMatch_bytes {frame : SlacFrame}
    {request : CmSlacMatchRequest} {seconds : ℤ} {sendOk : Bool}
    (received : frame.fields = .slacMatchRequest request) :
    evseCmSlacMatch host session (some frame.bytes) seconds sendOk =
      if session.runId.accepts request.runId then
        (session.withRequest request).send sendOk
          (evseSlacMatchConfirm host (session.withRequest request))
          (.returns true)
      else if 10 ≤ seconds then session.quiet (.returns false)
      else session.quiet (.goesOn .entered) := by
  have read :
      ofList (R := Mme CmSlacMatchRequest) frame.bytes =
        frame.message request := by
    rw [SlacFrame.bytes, received, ofList_frameOf (by decide)]
  rw [evseCmSlacMatch, read]
  rfl

theorem evseCallStep_kept {call : SlacCall} {state : CallLocal}
    {input : CallInput} (groups : before.numGroups.toNat ≤ slacGroups)
    (delivered : (StationInput.call input).delivered sent host = true)
    (called : evseCallStep host before call state input = some step) :
    EvseKept sent host before step.session step.sent := by
  have quiet : EvseKept sent host before before [] := .quiet groups
  unfold evseCallStep at called
  split at called
  · obtain ⟨message, -, rfl⟩ := Option.map_eq_some_iff.mp called
    cases message with
    | none => exact quiet
    | some memory =>
        rw [evseCmSlacParam]
        refine EvseKept.send ?_ rfl (.plain rfl)
        exact .unsent rfl rfl rfl groups
  · obtain ⟨message, -, rfl⟩ := Option.map_eq_some_iff.mp called
    cases message with
    | none => exact quiet
    | some memory =>
        rw [evseCmStartAttenChar]
        split_ifs
        · refine EvseKept.quietly ?_
          exact .unsent rfl rfl rfl groups
        · exact quiet
  · obtain rfl := Option.some.inj called
    refine EvseKept.quietly ?_
    exact .unsent rfl rfl rfl groups
  · obtain rfl := Option.some.inj called
    exact evseCmMnbcSound_kept groups
  · obtain rfl := Option.some.inj called
    rw [evseAttenCharStart, if_neg (Nat.not_lt.mpr groups)]
    exact quiet.send rfl (.indicates rfl groups)
  · obtain ⟨message, -, rfl⟩ := Option.map_eq_some_iff.mp called
    cases message with
    | none => exact quiet
    | some memory => exact quiet
  · obtain ⟨message, read, rfl⟩ := Option.map_eq_some_iff.mp called
    cases message with
    | none => exact quiet
    | some memory =>
        obtain ⟨frame, member, addressed, rfl, fields⟩ :=
          exists_frame_of_reader delivered read rfl
        obtain ⟨request, received⟩ :
            ∃ request, frame.fields = .slacMatchRequest request :=
          ⟨_, fields⟩
        rw [evseCmSlacMatch_bytes received]
        split_ifs
        · refine EvseKept.send ?_ rfl (.confirms member addressed received rfl)
          exact .unsent rfl rfl rfl groups
        · exact quiet
        · exact quiet
  · cases called

/-- A step in which a profile is read that has more groups than the sums. -/
def StationInput.BeyondSums (pevMac : EtherAddr) : StationInput → Prop
  | .call (.readpacket read) => read.BeyondSums pevMac
  | _ => False

theorem leavesArray_send {sendOk : Bool} {frame : SlacFrame}
    {progress : CallProgress} (inside : progress.leavesArray = false) :
    (session.send sendOk frame progress).progress.leavesArray = false := by
  cases sendOk with
  | false => rfl
  | true => exact inside

theorem evseCallStep_leavesArray_iff {call : SlacCall} {state : CallLocal}
    {input : CallInput} (groups : before.numGroups.toNat ≤ slacGroups)
    (called : evseCallStep host before call state input = some step) :
    step.progress.leavesArray = true ↔
      (StationInput.call input).BeyondSums before.pevMac := by
  have stays (inside : step.progress.leavesArray = false) :
      step.progress.leavesArray = true ↔ False :=
    iff_of_false (ne_true_of_eq_false inside) id
  unfold evseCallStep at called
  split at called
  · obtain ⟨message, -, rfl⟩ := Option.map_eq_some_iff.mp called
    refine stays ?_
    cases message with
    | none => rfl
    | some memory => exact leavesArray_send rfl
  · obtain ⟨message, -, rfl⟩ := Option.map_eq_some_iff.mp called
    refine stays ?_
    cases message with
    | none => rfl
    | some memory =>
        rw [evseCmStartAttenChar]
        split_ifs <;> rfl
  · obtain rfl := Option.some.inj called
    exact stays rfl
  · obtain rfl := Option.some.inj called
    exact evseCmMnbcSound_leavesArray_iff groups
  · obtain rfl := Option.some.inj called
    refine stays ?_
    rw [evseAttenCharStart, if_neg (Nat.not_lt.mpr groups)]
    exact leavesArray_send rfl
  · obtain ⟨message, -, rfl⟩ := Option.map_eq_some_iff.mp called
    refine stays ?_
    cases message with
    | none => rfl
    | some memory => rfl
  · obtain ⟨message, -, rfl⟩ := Option.map_eq_some_iff.mp called
    refine stays ?_
    cases message with
    | none => rfl
    | some memory =>
        rw [evseCmSlacMatch]
        dsimp only
        split_ifs
        · exact leavesArray_send rfl
        · rfl
        · rfl
  · cases called

theorem begun_evseCode (config : SlacConfig) (station : SlacStation) :
    (evseCode config host).begun station = station := by
  rw [StationCode.begun]
  split_ifs <;> rfl

theorem evseKept_of_lineStep {config : SlacConfig} {input : StationInput}
    {station next : SlacStation} {frames : List SlacFrame}
    (groups : station.session.numGroups.toNat ≤ slacGroups)
    (delivered : input.delivered sent host = true)
    (step : (evseCode config host).step station input = some (next, frames)) :
    EvseKept sent host station.session next.session frames := by
  obtain ⟨-, ⟨call, callInput, callStep, -, rfl, called, moved, rfl⟩ |
    ⟨slacInput, slac, -, rfl, -, rfl, rfl⟩⟩ :=
    StationCode.step_cases step
  · obtain ⟨same, -, -⟩ := StationCode.afterCall_cases moved
    rw [same]
    exact evseCallStep_kept groups delivered called
  · rw [begun_evseCode]
    exact .quiet groups

/-- An EVSE leaves an array exactly in the steps that bring such a profile. -/
theorem overrun_iff_of_lineStep {config : SlacConfig} {input : StationInput}
    {station next : SlacStation} {frames : List SlacFrame}
    (groups : station.session.numGroups.toNat ≤ slacGroups)
    (step : (evseCode config host).step station input = some (next, frames)) :
    next.overrun = true ↔ input.BeyondSums station.session.pevMac := by
  obtain ⟨running, ⟨call, callInput, callStep, -, rfl, called, moved, -⟩ |
    ⟨slacInput, slac, -, rfl, -, rfl, -⟩⟩ :=
    StationCode.step_cases step
  · rw [← evseCallStep_leavesArray_iff groups called]
    obtain ⟨-, -, ⟨_, progress, -, -, overrun⟩ | ⟨_, progress, -, -, overrun⟩ |
      ⟨progress, -, -, overrun⟩ | ⟨progress, -, -, overrun⟩⟩ :=
      StationCode.afterCall_cases moved
    · rw [overrun, running, progress]
      rfl
    · rw [overrun, running, progress]
      rfl
    · rw [overrun, running, progress]
      rfl
    · rw [overrun, progress]
      rfl
  · rw [begun_evseCode]
    exact iff_of_false (ne_true_of_eq_false running) id

/-! ## How an EVSE comes to join -/

/-- Where the machine of an EVSE is once it has been asked for its keys. -/
def SlacPc.joining : SlacPc → Bool
  | .startJoin | .netInfo _ | .netInfoTimer _ | .returned 0 => true
  | _ => false

theorem joining_evseLoop {slac : SlacState}
    (state : slac.state ≠ evseStateMatched) :
    (evseLoop slac).pc.joining = false := by
  unfold evseLoop
  split_ifs
  · unfold evseReturn
    rw [if_neg state]
    rfl
  all_goals rfl

theorem joining_of_evseSlacStep {config : SlacConfig} {slac next : SlacState}
    {input : SlacInput} (step : evseSlacStep config slac input = some next)
    (joins : next.pc.joining = true) :
    slac.pc.joining = true ∨
      ∃ call, slac.pc = .exchange call ∧ evseNextExchange call = none ∧
        input = .returned true := by
  have unmatched : evseStateUnmatched ≠ evseStateMatched := by decide
  have unoccupied : evseStateUnoccupied ≠ evseStateMatched := by decide
  have unavailable : evseStateUnavailable ≠ evseStateMatched := by decide
  unfold evseSlacStep at step
  split at step
  all_goals
    try obtain rfl := Option.some.inj step
  · cases joins
  · next zero _ =>
      cases zero with
      | true =>
          rw [if_pos rfl, joining_evseLoop unmatched] at joins
          cases joins
      | false => cases joins
  · split_ifs at joins
    · unfold retryOrGiveUp at joins
      split_ifs at joins
      · rw [joining_evseLoop unavailable] at joins
        cases joins
      · rw [joining_evseLoop unoccupied] at joins
        cases joins
    · cases joins
  · next call zero atPc =>
      cases zero with
      | true =>
          cases next_ : evseNextExchange call with
          | none => exact .inr ⟨call, atPc, next_, rfl⟩
          | some following =>
              rw [if_pos rfl, next_] at joins
              cases joins
      | false =>
          rw [if_neg nofun, joining_evseLoop unoccupied] at joins
          cases joins
  · next atPc => exact .inl (by rw [atPc]; rfl)
  · next atPc => exact .inl (by rw [atPc]; rfl)
  · next atPc => exact .inl (by rw [atPc]; rfl)
  · cases joins
  · cases joins
  · cases joins
  · cases step

/-- `evse_cm_slac_match` returns zero only after it has told its keys. -/
theorem exists_confirm_of_returns {exchange : SlacExchange} {state : CallLocal}
    {input : CallInput} (last : evseNextExchange exchange = none)
    (called : evseCallStep host before (.exchange exchange) state input =
      some step)
    (returns : step.progress = .returns true) :
    ∃ frame ∈ step.sent, ∃ confirm,
      frame.fields = .slacMatchConfirm confirm := by
  cases exchange with
  | cmSlacMatch =>
      cases state <;> cases input <;>
        simp only [evseCallStep, reduceCtorEq] at called
      next reads seconds sendOk =>
        obtain ⟨message, -, rfl⟩ := Option.map_eq_some_iff.mp called
        cases message with
        | none => cases returns
        | some memory =>
            unfold evseCmSlacMatch at returns ⊢
            dsimp only at returns ⊢
            split_ifs at returns ⊢
            · cases sendOk with
              | true => exact ⟨_, List.mem_singleton_self _, _, rfl⟩
              | false => cases returns
            · cases returns
            · cases returns
  | slacConnect =>
      cases state <;> cases input <;> cases called
  | _ => cases last

/-- An EVSE begins to join only in a step in which it tells its keys. -/
theorem joining_of_lineStep {config : SlacConfig} {input : StationInput}
    {station next : SlacStation} {frames : List SlacFrame}
    (step : (evseCode config host).step station input = some (next, frames))
    (joins : next.slac.pc.joining = true) :
    station.slac.pc.joining = true ∨
      ∃ frame ∈ frames, ∃ confirm,
        frame.fields = .slacMatchConfirm confirm := by
  obtain ⟨-, ⟨call, callInput, callStep, inCall, rfl, called, moved, rfl⟩ |
    ⟨slacInput, slac, noCall, rfl, stepped, rfl, rfl⟩⟩ :=
    StationCode.step_cases step
  · obtain ⟨-, -, ⟨_, -, same, -, -⟩ | ⟨zero, progress, stepped, -, -⟩ |
      ⟨-, stepped, -, -⟩ | ⟨-, same, -, -⟩⟩ :=
      StationCode.afterCall_cases moved
    · rw [same] at joins
      exact .inl joins
    · obtain earlier | ⟨exchange, atPc, last, returned⟩ :=
        joining_of_evseSlacStep stepped joins
      · exact .inl earlier
      · rw [atPc] at inCall
        obtain rfl := Option.some.inj inCall
        obtain rfl := SlacInput.returned.inj returned
        exact .inr (exists_confirm_of_returns last called progress)
    · obtain earlier | ⟨_, _, _, returned⟩ :=
        joining_of_evseSlacStep stepped joins
      · exact .inl earlier
      · cases returned
    · rw [same] at joins
      exact .inl joins
  · obtain earlier | ⟨exchange, atPc, -, -⟩ :=
      joining_of_evseSlacStep stepped joins
    · exact .inl earlier
    · rw [atPc] at noCall
      cases noCall

end EvseKept

end OpenRTH
