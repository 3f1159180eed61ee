import OpenRTH.EvseMoves

/-!
# Agreement on the keys

In every run of the stations of a line, whatever frames are lost, delayed or
repeated, a PEV whose match has been confirmed has the keys of an EVSE whose
attenuation profile it has accepted, and an EVSE has told its keys to such PEVs
only.
-/

namespace OpenRTH

open PackedRecord (fieldVector toList)

variable {ι κ : Type}

/-! ## The identifiers of the attempts -/

/-- `session->RunID` after some attempts. -/
def attemptRunId (host : EtherAddr) : ℕ → RunId
  | 0 => pevIdentifier host
  | attempts + 1 => (attemptRunId host attempts).memincr

theorem value_attemptRunId (host : EtherAddr) (attempts : ℕ) :
    (attemptRunId host attempts).value =
      ((pevIdentifier host).value + attempts) % 2 ^ 64 := by
  induction attempts with
  | zero => exact (Nat.mod_eq_of_lt (pevIdentifier host).value_lt).symm
  | succ attempts ih =>
      rw [attemptRunId, RunId.value_memincr, ih]
      omega

theorem attemptRunId_injOn (host : EtherAddr) {first second : ℕ}
    (firstLt : first < 2 ^ 64) (secondLt : second < 2 ^ 64)
    (same : attemptRunId host first = attemptRunId host second) :
    first = second := by
  have values := congrArg RunId.value same
  rw [value_attemptRunId, value_attemptRunId] at values
  omega

/-! ## What the frames on the line say -/

/-- Whether `slac_connect` accepts an indication. -/
def CmAttenCharIndicate.acceptedBy (indicate : CmAttenCharIndicate)
    (limit : ℕ) : Prop :=
  0 < (indicate.groups.map UInt8.toNat).sum / indicate.numGroups.toNat ∧
    (indicate.groups.map UInt8.toNat).sum / indicate.numGroups.toNat ≤ limit

section Frames

variable (sites : SlacSites ι κ) (sent : List SlacFrame)

/-- An EVSE has sent a PEV an attenuation profile. -/
def Offered (k : κ) (i : ι) (runId : RunId)
    (indicate : CmAttenCharIndicate) : Prop :=
  ∃ frame ∈ sent, frame.host = sites.evseHost i ∧
    frame.goesTo (sites.pevHost k) = true ∧
      frame.fields = .attenCharIndicate indicate ∧ indicate.runId = runId

/-- An EVSE has sent a PEV a profile that the PEV accepts. -/
def Selected (k : κ) (i : ι) (runId : RunId) : Prop :=
  ∃ indicate, Offered sites sent k i runId indicate ∧
    indicate.acceptedBy (sites.pevLimit k)

/-- A PEV asks an EVSE for its keys. -/
structure MatchRequested (k : κ) (i : ι) (frame : SlacFrame)
    (request : CmSlacMatchRequest) : Prop where
  fields : frame.fields = .slacMatchRequest request
  host : frame.host = sites.pevHost k
  peer : frame.peer = sites.evseHost i
  pevMac : request.pevMac = sites.pevHost k
  evseMac : request.evseMac = sites.evseHost i
  selected : Selected sites sent k i request.runId

/-- An EVSE tells a PEV its keys. -/
structure MatchConfirmed (i : ι) (k : κ) (frame : SlacFrame)
    (confirm : CmSlacMatchConfirm) : Prop where
  host : frame.host = sites.evseHost i
  peer : frame.peer = sites.pevHost k
  evseMac : confirm.evseMac = sites.evseHost i
  nmk : confirm.nmk = sites.evseNmk i
  nid : confirm.nid = sites.evseNid i
  requested : ∃ asking ∈ sent, ∃ request,
    MatchRequested sites sent k i asking request ∧
      request.runId = confirm.runId

/-- A PEV that has the keys of an EVSE. -/
structure HasKeys (k : κ) (i : ι) (session : SlacSession) : Prop where
  evseMac : session.evseMac = sites.evseHost i
  nmk : session.nmk = sites.evseNmk i
  nid : session.nid = sites.evseNid i
  selected : Selected sites sent k i session.runId

/-- What a frame on the line tells about its sender. -/
def FrameHolds (attempts : κ → ℕ) (frame : SlacFrame) : Prop :=
  match frame.fields with
  | .attenCharIndicate indicate =>
      (∃ i, frame.host = sites.evseHost i) ∧
        indicate.numGroups.toNat ≤ slacGroups
  | .slacMatchRequest request =>
      ∃ k i attempt, MatchRequested sites sent k i frame request ∧
        attempt ≤ attempts k ∧
          request.runId = attemptRunId (sites.pevHost k) attempt
  | .slacMatchConfirm confirm =>
      ∃ i k, MatchConfirmed sites sent i k frame confirm
  | .setKeyRequest request =>
      ∃ k i runId, frame.host = sites.pevHost k ∧
        request.newkey = sites.evseNmk i ∧ request.nid = sites.evseNid i ∧
          Selected sites sent k i runId
  | _ => True

/-! ## What the stations know -/

/-- What an EVSE keeps. -/
structure EvseHolds (i : ι) (station : SlacStation) : Prop where
  nmk : station.session.nmk = sites.evseNmk i
  nid : station.session.nid = sites.evseNid i
  evseMac : station.session.evseMac = sites.evseHost i
  groups : station.session.numGroups.toNat ≤ slacGroups

/-- A PEV has stored the profile of an EVSE. -/
def ProfileHeld (k : κ) (session : SlacSession) : Prop :=
  ∃ i indicate, session.evseMac = sites.evseHost i ∧
    Offered sites sent k i session.runId indicate ∧
      indicate.numGroups.toNat ≤ slacGroups ∧
        session.numGroups = indicate.numGroups ∧
          session.aag.contents.take indicate.numGroups.toNat = indicate.groups

/-- The requests of a PEV. -/
def RequestOf (k : κ) (request : CmSlacMatchRequest) : Prop :=
  ∃ frame ∈ sent, frame.fields = .slacMatchRequest request ∧
    frame.host = sites.pevHost k

/-- A PEV that has sent no request in its attempt. -/
def Fresh (k : κ) (station : SlacStation) : Prop :=
  station.attempts < 2 ^ 64 → ∀ request, RequestOf sites sent k request →
    request.runId ≠ station.session.runId

/-- What a PEV knows at a stage of its attempt. -/
def StageHolds (k : κ) (station : SlacStation) : PevStage → Prop
  | .probing => Fresh sites sent k station
  | .profiled =>
      Fresh sites sent k station ∧ ProfileHeld sites sent k station.session
  | .connected =>
      Fresh sites sent k station ∧ ProfileHeld sites sent k station.session ∧
        slacConnect station.session = true
  | .matched => ∃ i, HasKeys sites sent k i station.session
  | .keyed =>
      (∃ i, HasKeys sites sent k i station.session) ∧
        setKeyRequest (sites.pevHost k) station.session ∈ sent
  | .requested | .ended => True

/-- What holds of a PEV. -/
structure PevHolds (k : κ) (station : SlacStation) : Prop where
  running : station.overrun = false
  runId : station.session.runId =
    attemptRunId (sites.pevHost k) station.attempts
  pevMac : station.session.pevMac = sites.pevHost k
  limit : station.session.limit = sites.pevLimit k
  single : station.attempts < 2 ^ 64 → ∀ first second,
    RequestOf sites sent k first → RequestOf sites sent k second →
      first.runId = second.runId → first.evseMac = second.evseMac
  stage : StageHolds sites sent k station station.stage

end Frames

/-- An EVSE has told its keys to a PEV. -/
def Told (sites : SlacSites ι κ) (sent : List SlacFrame) (i : ι) : Prop :=
  ∃ k, ∃ frame ∈ sent, ∃ confirm, frame.fields = .slacMatchConfirm confirm ∧
    MatchConfirmed sites sent i k frame confirm

/-- What holds of a line. -/
structure LineHolds (sites : SlacSites ι κ) (line : SlacLine ι κ) : Prop where
  evse : ∀ i, EvseHolds sites i (line.evse i)
  pev : ∀ k, PevHolds sites line.sent k (line.pev k)
  frames : ∀ frame ∈ line.sent,
    FrameHolds sites line.sent (fun k => (line.pev k).attempts) frame
  joined : ∀ i, (line.evse i).slac.pc.joining = true →
    Told sites line.sent i

/-! ## More frames -/

section Later

variable {sites : SlacSites ι κ} {sent later : List SlacFrame}

theorem Offered.mono {k : κ} {i : ι} {runId : RunId}
    {indicate : CmAttenCharIndicate} (more : sent ⊆ later)
    (offered : Offered sites sent k i runId indicate) :
    Offered sites later k i runId indicate := by
  obtain ⟨frame, member, rest⟩ := offered
  exact ⟨frame, more member, rest⟩

theorem Selected.mono {k : κ} {i : ι} {runId : RunId} (more : sent ⊆ later)
    (selected : Selected sites sent k i runId) :
    Selected sites later k i runId := by
  obtain ⟨indicate, offered, accepted⟩ := selected
  exact ⟨indicate, offered.mono more, accepted⟩

theorem MatchRequested.mono {k : κ} {i : ι} {frame : SlacFrame}
    {request : CmSlacMatchRequest} (more : sent ⊆ later)
    (requested : MatchRequested sites sent k i frame request) :
    MatchRequested sites later k i frame request :=
  { requested with selected := requested.selected.mono more }

theorem MatchConfirmed.mono {i : ι} {k : κ} {frame : SlacFrame}
    {confirm : CmSlacMatchConfirm} (more : sent ⊆ later)
    (confirmed : MatchConfirmed sites sent i k frame confirm) :
    MatchConfirmed sites later i k frame confirm := by
  obtain ⟨asking, member, request, requested, same⟩ := confirmed.requested
  exact { confirmed with
    requested := ⟨asking, more member, request, requested.mono more, same⟩ }

theorem Told.mono {i : ι} (more : sent ⊆ later)
    (told : Told sites sent i) : Told sites later i := by
  obtain ⟨k, frame, member, confirm, fields, confirmed⟩ := told
  exact ⟨k, frame, more member, confirm, fields, confirmed.mono more⟩

theorem HasKeys.mono {k : κ} {i : ι} {session : SlacSession}
    (more : sent ⊆ later) (keys : HasKeys sites sent k i session) :
    HasKeys sites later k i session :=
  { keys with selected := keys.selected.mono more }

theorem FrameHolds.mono {attempts laterAttempts : κ → ℕ} {frame : SlacFrame}
    (more : sent ⊆ later) (counted : ∀ k, attempts k ≤ laterAttempts k)
    (holds : FrameHolds sites sent attempts frame) :
    FrameHolds sites later laterAttempts frame := by
  obtain ⟨peer, host, fields⟩ := frame
  cases fields with
  | slacMatchRequest request =>
      obtain ⟨k, i, attempt, requested, earlier, runId⟩ := holds
      exact ⟨k, i, attempt, requested.mono more, earlier.trans (counted k),
        runId⟩
  | slacMatchConfirm confirm =>
      obtain ⟨i, k, confirmed⟩ := holds
      exact ⟨i, k, confirmed.mono more⟩
  | setKeyRequest request =>
      obtain ⟨k, i, runId, here, nmk, nid, selected⟩ := holds
      exact ⟨k, i, runId, here, nmk, nid, selected.mono more⟩
  | _ => exact holds

theorem FrameHolds.of_plain {attempts : κ → ℕ} {frame : SlacFrame}
    (plain : frame.fields.plain = true) :
    FrameHolds sites sent attempts frame := by
  obtain ⟨peer, host, fields⟩ := frame
  cases fields
  all_goals trivial

theorem ProfileHeld.mono {k : κ} {session : SlacSession}
    (more : sent ⊆ later) (held : ProfileHeld sites sent k session) :
    ProfileHeld sites later k session := by
  obtain ⟨i, indicate, evseMac, offered, rest⟩ := held
  exact ⟨i, indicate, evseMac, offered.mono more, rest⟩

/-- What a PEV knows stays known, as long as it sends no request. -/
theorem StageHolds.mono {k : κ} {station : SlacStation} {stage : PevStage}
    (more : sent ⊆ later)
    (known : ∀ request, RequestOf sites later k request →
      RequestOf sites sent k request)
    (holds : StageHolds sites sent k station stage) :
    StageHolds sites later k station stage := by
  have fresh (fresh : Fresh sites sent k station) :
      Fresh sites later k station :=
    fun few request asked => fresh few request (known request asked)
  cases stage with
  | probing => exact fresh holds
  | profiled => exact ⟨fresh holds.1, holds.2.mono more⟩
  | connected => exact ⟨fresh holds.1, holds.2.1.mono more, holds.2.2⟩
  | matched =>
      obtain ⟨i, keys⟩ := holds
      exact ⟨i, keys.mono more⟩
  | keyed =>
      obtain ⟨⟨i, keys⟩, told⟩ := holds
      exact ⟨⟨i, keys.mono more⟩, more told⟩
  | requested => trivial
  | ended => trivial

theorem requestOf_of_append {k : κ} {frames : List SlacFrame}
    (others : ∀ frame ∈ frames, ∀ request,
      frame.fields = .slacMatchRequest request →
        frame.host ≠ sites.pevHost k) (request : CmSlacMatchRequest)
    (asked : RequestOf sites (sent ++ frames) k request) :
    RequestOf sites sent k request := by
  obtain ⟨frame, member, fields, host⟩ := asked
  rcases List.mem_append.mp member with old | new
  · exact ⟨frame, old, fields, host⟩
  · exact absurd host (others frame new request fields)

theorem PevHolds.mono {k : κ} {station : SlacStation}
    {frames : List SlacFrame}
    (others : ∀ frame ∈ frames, ∀ request,
      frame.fields = .slacMatchRequest request →
        frame.host ≠ sites.pevHost k)
    (holds : PevHolds sites sent k station) :
    PevHolds sites (sent ++ frames) k station :=
  { holds with
    single := fun few first second askedFirst askedSecond =>
      holds.single few first second
        (requestOf_of_append others first askedFirst)
        (requestOf_of_append others second askedSecond)
    stage := holds.stage.mono (List.subset_append_left _ _)
      (requestOf_of_append others) }

end Later

/-! ## Steps of an EVSE -/

section Steps

variable {sites : SlacSites ι κ} {sent : List SlacFrame}

theorem SlacFrame.goesTo_iff (frame : SlacFrame) (host : EtherAddr) :
    frame.goesTo host = true ↔ frame.peer = host ∨ frame.peer = broadcast := by
  simp only [SlacFrame.goesTo, Bool.or_eq_true, decide_eq_true_eq]

theorem MatchRequested.addressee {k : κ} {i j : ι} {frame : SlacFrame}
    {request : CmSlacMatchRequest}
    (requested : MatchRequested sites sent k j frame request)
    (addressed : frame.goesTo (sites.evseHost i) = true) : j = i := by
  rcases (frame.goesTo_iff _).mp addressed with here | everywhere
  · exact sites.evseHost_injective (requested.peer.symm.trans here)
  · exact absurd (requested.peer.symm.trans everywhere)
      (sites.evseHost_ne_broadcast j)

theorem MatchConfirmed.addressee {i : ι} {k l : κ} {frame : SlacFrame}
    {confirm : CmSlacMatchConfirm}
    (confirmed : MatchConfirmed sites sent i l frame confirm)
    (addressed : frame.goesTo (sites.pevHost k) = true) : l = k := by
  rcases (frame.goesTo_iff _).mp addressed with here | everywhere
  · exact sites.pevHost_injective (confirmed.peer.symm.trans here)
  · exact absurd (confirmed.peer.symm.trans everywhere)
      (sites.pevHost_ne_broadcast l)

theorem EvseHolds.frameHolds {i : ι} {station : SlacStation}
    {attempts : κ → ℕ} {frame : SlacFrame}
    (holds : EvseHolds sites i station)
    (known : ∀ frame ∈ sent, FrameHolds sites sent attempts frame)
    (host : frame.host = sites.evseHost i)
    (sends : EvseSends sent (sites.evseHost i) station.session frame) :
    FrameHolds sites sent attempts frame := by
  cases sends with
  | plain plain => exact .of_plain plain
  | indicates fields groups =>
      rw [FrameHolds, fields]
      exact ⟨⟨i, host⟩, groups⟩
  | @confirms asking request member addressed asked answers =>
      have told := known asking member
      rw [FrameHolds, asked] at told
      obtain ⟨k, j, attempt, requested, -, -⟩ := told
      obtain rfl := requested.addressee addressed
      subst answers
      exact ⟨j, k, rfl, requested.pevMac, holds.evseMac, holds.nmk, holds.nid,
        asking, member, request, requested, rfl⟩

theorem EvseSends.ne_request {host : EtherAddr} {session : SlacSession}
    {frame : SlacFrame} (sends : EvseSends sent host session frame)
    (request : CmSlacMatchRequest) :
    frame.fields ≠ .slacMatchRequest request := by
  intro asks
  cases sends with
  | plain plain =>
      rw [asks] at plain
      cases plain
  | indicates fields groups =>
      rw [asks] at fields
      cases fields
  | confirms member addressed asked answers =>
      subst answers
      cases asks

theorem LineHolds.evse_step [DecidableEq ι] {line : SlacLine ι κ} {i : ι}
    {input : StationInput} {station : SlacStation} {frames : List SlacFrame}
    (holds : LineHolds sites line)
    (delivered : input.delivered line.sent (sites.evseHost i) = true)
    (step : (evseCode (sites.evseConfig i) (sites.evseHost i)).step
      (line.evse i) input = some (station, frames)) :
    LineHolds sites
      { line with
        evse := Function.update line.evse i station
        sent := line.sent ++ frames } := by
  have here := holds.evse i
  have kept := evseKept_of_lineStep here.groups delivered step
  have more : line.sent ⊆ line.sent ++ frames :=
    List.subset_append_left _ _
  have told (frame : SlacFrame) (new : frame ∈ frames) :=
    here.frameHolds holds.frames (kept.hosts frame new) (kept.sends frame new)
  refine ⟨fun j => ?_, fun k => ?_, fun frame member => ?_, fun j joins => ?_⟩
  · dsimp only
    rcases eq_or_ne j i with rfl | other
    · rw [Function.update_self]
      exact ⟨kept.nmk.trans here.nmk, kept.nid.trans here.nid,
        kept.evseMac.trans here.evseMac, kept.groups⟩
    · rw [Function.update_of_ne other]
      exact holds.evse j
  · exact (holds.pev k).mono fun frame member request fields =>
      absurd fields ((kept.sends frame member).ne_request request)
  · rcases List.mem_append.mp member with old | new
    · exact (holds.frames frame old).mono more fun _ => le_rfl
    · exact (told frame new).mono more fun _ => le_rfl
  · dsimp only at joins
    rcases eq_or_ne j i with rfl | other
    · rw [Function.update_self] at joins
      obtain earlier | ⟨frame, new, confirm, fields⟩ :=
        joining_of_lineStep step joins
      · exact (holds.joined j earlier).mono more
      · have confirmed := told frame new
        rw [FrameHolds, fields] at confirmed
        obtain ⟨l, k, confirmed⟩ := confirmed
        obtain rfl : l = j := sites.evseHost_injective
          (confirmed.host.symm.trans (kept.hosts frame new))
        exact ⟨k, frame, List.mem_append_right _ new, confirm, fields,
          confirmed.mono more⟩
    · rw [Function.update_of_ne other] at joins
      exact (holds.joined j joins).mono more

/-! ## Moves of a PEV -/

theorem SlacFields.ne_request_of_plain {fields : SlacFields}
    (plain : fields.plain = true) (request : CmSlacMatchRequest) :
    fields ≠ .slacMatchRequest request := by
  rintro rfl
  cases plain

theorem slacConnect_congr {first second : SlacSession}
    (limit : second.limit = first.limit)
    (numGroups : second.numGroups = first.numGroups)
    (aag : second.aag = first.aag) :
    slacConnect second = slacConnect first := by
  rw [slacConnect, slacConnect, limit, numGroups, aag]

theorem setKeyRequest_congr {first second : SlacSession} {host : EtherAddr}
    (nmk : second.nmk = first.nmk) (nid : second.nid = first.nid) :
    setKeyRequest host second = setKeyRequest host first := by
  rw [setKeyRequest, setKeyRequest, nmk, nid]

section PevMoves

variable {k : κ} {before after : SlacStation} {frames : List SlacFrame}

/-- A PEV that passes on what its match rests on. -/
theorem StageHolds.pass {stage : PevStage}
    (same : before.session.SameMatch after.session)
    (attempts : after.attempts = before.attempts)
    (holds : StageHolds sites sent k before stage) :
    StageHolds sites sent k after stage := by
  have fresh (fresh : Fresh sites sent k before) :
      Fresh sites sent k after := by
    intro few request asked
    rw [same.runId]
    rw [attempts] at few
    exact fresh few request asked
  have held (held : ProfileHeld sites sent k before.session) :
      ProfileHeld sites sent k after.session := by
    obtain ⟨i, indicate, evseMac, offered, bounded, numGroups, groups⟩ := held
    rw [← same.runId] at offered
    rw [← same.aag] at groups
    exact ⟨i, indicate, same.evseMac.trans evseMac, offered, bounded,
      same.numGroups.trans numGroups, groups⟩
  have keys {i : ι} (keys : HasKeys sites sent k i before.session) :
      HasKeys sites sent k i after.session :=
    ⟨same.evseMac.trans keys.evseMac, same.nmk.trans keys.nmk,
      same.nid.trans keys.nid, same.runId ▸ keys.selected⟩
  cases stage with
  | probing => exact fresh holds
  | profiled => exact ⟨fresh holds.1, held holds.2⟩
  | connected =>
      exact ⟨fresh holds.1, held holds.2.1,
        (slacConnect_congr same.limit same.numGroups same.aag).trans
          holds.2.2⟩
  | matched =>
      obtain ⟨i, has⟩ := holds
      exact ⟨i, keys has⟩
  | keyed =>
      obtain ⟨⟨i, has⟩, told⟩ := holds
      rw [← setKeyRequest_congr same.nmk same.nid] at told
      exact ⟨⟨i, keys has⟩, told⟩
  | requested => trivial
  | ended => trivial

theorem exists_attempt_of_requestOf {attempts : κ → ℕ}
    (known : ∀ frame ∈ sent, FrameHolds sites sent attempts frame)
    {request : CmSlacMatchRequest} (asked : RequestOf sites sent k request) :
    ∃ attempt ≤ attempts k,
      request.runId = attemptRunId (sites.pevHost k) attempt := by
  obtain ⟨frame, member, fields, host⟩ := asked
  have told := known frame member
  rw [FrameHolds, fields] at told
  obtain ⟨l, i, attempt, requested, earlier, runId⟩ := told
  obtain rfl : l = k :=
    sites.pevHost_injective (requested.host.symm.trans host)
  exact ⟨attempt, earlier, runId⟩

theorem PevHolds.begins {attempts : κ → ℕ}
    (known : ∀ frame ∈ sent, FrameHolds sites sent attempts frame)
    (counted : attempts k = before.attempts)
    (holds : PevHolds sites sent k before)
    (probing : after.stage = .probing)
    (session : after.session =
      { before.session with runId := before.session.runId.memincr })
    (next : after.attempts = before.attempts + 1)
    (running : after.overrun = false) : PevHolds sites sent k after := by
  have runId : after.session.runId =
      attemptRunId (sites.pevHost k) after.attempts := by
    rw [session, next, attemptRunId, ← holds.runId]
  refine ⟨running, runId, ?_, ?_, fun few => holds.single (by omega), ?_⟩
  · rw [session]
    exact holds.pevMac
  · rw [session]
    exact holds.limit
  · rw [probing]
    intro few request asked same
    obtain ⟨attempt, earlier, former⟩ :=
      exists_attempt_of_requestOf known asked
    rw [former, runId] at same
    have equal := attemptRunId_injOn (sites.pevHost k) (by omega) few same
    omega

theorem PevHolds.passes (holds : PevHolds sites sent k before)
    (stage : after.stage = before.stage ∨ after.stage = .ended)
    (same : before.session.SameMatch after.session)
    (attempts : after.attempts = before.attempts)
    (running : after.overrun = false) : PevHolds sites sent k after := by
  refine ⟨running, ?_, same.pevMac.trans holds.pevMac,
    same.limit.trans holds.limit, fun few => holds.single (by omega), ?_⟩
  · rw [same.runId, attempts, holds.runId]
  · rcases stage with still | ended
    · rw [still]
      exact holds.stage.pass same attempts
    · rw [ended]
      trivial

theorem PevHolds.moves (holds : PevHolds sites sent k before)
    (runId : after.session.runId = before.session.runId)
    (pevMac : after.session.pevMac = before.session.pevMac)
    (limit : after.session.limit = before.session.limit)
    (attempts : after.attempts = before.attempts)
    (running : after.overrun = false)
    (stage : StageHolds sites sent k after after.stage) :
    PevHolds sites sent k after :=
  ⟨running, by rw [runId, attempts, holds.runId], pevMac.trans holds.pevMac,
    limit.trans holds.limit, fun few => holds.single (by omega), stage⟩

theorem Fresh.of_same (fresh : Fresh sites sent k before)
    (runId : after.session.runId = before.session.runId)
    (attempts : after.attempts = before.attempts) :
    Fresh sites sent k after := by
  intro few request asked
  rw [runId]
  rw [attempts] at few
  exact fresh few request asked

/-- The profile that a PEV stores is that of an EVSE. -/
theorem PevHolds.profiles {attempts : κ → ℕ} {frame : SlacFrame}
    {indicate : CmAttenCharIndicate} {aag : FixedBuffer UInt8 slacGroups}
    (known : ∀ frame ∈ sent, FrameHolds sites sent attempts frame)
    (holds : PevHolds sites sent k before)
    (probing : before.stage = .probing) (profiled : after.stage = .profiled)
    (member : frame ∈ sent)
    (addressed : frame.goesTo (sites.pevHost k) = true)
    (received : frame.fields = .attenCharIndicate indicate)
    (sameRun : indicate.runId = before.session.runId)
    (stored : before.session.aag.store 0 indicate.groups = some aag)
    (session : after.session =
      { before.session.withProfile frame.host indicate with aag := aag })
    (same : after.attempts = before.attempts)
    (running : after.overrun = false) : PevHolds sites sent k after := by
  have fresh := holds.stage
  rw [probing] at fresh
  have told := known frame member
  rw [FrameHolds, received] at told
  obtain ⟨⟨i, host⟩, bounded⟩ := told
  have runId : after.session.runId = before.session.runId := by
    rw [session]
    rfl
  refine holds.moves runId (by rw [session]; rfl) (by rw [session]; rfl) same
    running ?_
  rw [profiled]
  refine ⟨Fresh.of_same fresh runId same, i, indicate, ?_, ?_, bounded, ?_, ?_⟩
  · rw [session]
    exact host
  · exact ⟨frame, member, host, addressed, received,
      sameRun.trans runId.symm⟩
  · rw [session]
    rfl
  · have length : indicate.groups.length = indicate.numGroups.toNat := by
      rw [CmAttenCharIndicate.groups, List.length_take,
        List.Vector.toList_length]
      exact min_eq_left (bounded.trans (by decide))
    have front := FixedBuffer.take_contents_store (Nat.zero_le _) stored
    rw [Nat.zero_add, length, List.take_zero, List.nil_append] at front
    rw [session]
    exact front

theorem selected_of_connected (holds : PevHolds sites sent k before)
    (connected : before.stage = .connected) :
    ∃ i, before.session.evseMac = sites.evseHost i ∧
      Selected sites sent k i before.session.runId := by
  have stage := holds.stage
  rw [connected] at stage
  obtain ⟨-, ⟨i, indicate, evseMac, offered, bounded, numGroups, groups⟩,
    accepts⟩ := stage
  have computed :=
    @slacConnect_eq before.session _ (by rw [numGroups]; exact bounded) rfl
  rw [accepts, numGroups, groups, holds.limit] at computed
  have accepted := of_decide_eq_true computed.symm
  exact ⟨i, evseMac, indicate, offered, accepted⟩

theorem PevHolds.requests (holds : PevHolds sites sent k before)
    (connected : before.stage = .connected)
    (requested : after.stage = .requested)
    (session : after.session = before.session)
    (attempts : after.attempts = before.attempts)
    (running : after.overrun = false) :
    PevHolds sites
      (sent ++ [pevSlacMatchRequest (sites.pevHost k) before.session]) k
      after := by
  have stage := holds.stage
  rw [connected] at stage
  have split {request : CmSlacMatchRequest}
      (asked : RequestOf sites
        (sent ++ [pevSlacMatchRequest (sites.pevHost k) before.session]) k
        request) :
      RequestOf sites sent k request ∨
        request.runId = before.session.runId ∧
          request.evseMac = before.session.evseMac := by
    obtain ⟨frame, member, fields, host⟩ := asked
    rcases List.mem_append.mp member with old | new
    · exact .inl ⟨frame, old, fields, host⟩
    · obtain rfl := List.mem_singleton.mp new
      obtain rfl := SlacFields.slacMatchRequest.inj fields
      exact .inr ⟨rfl, rfl⟩
  refine ⟨running, by rw [session, attempts, holds.runId],
    by rw [session, holds.pevMac], by rw [session, holds.limit], ?_, ?_⟩
  · intro few first second askedFirst askedSecond same
    have few : before.attempts < 2 ^ 64 := by omega
    rcases split askedFirst with firstOld | ⟨firstRun, firstEvse⟩
    · rcases split askedSecond with secondOld | ⟨secondRun, -⟩
      · exact holds.single few first second firstOld secondOld same
      · exact absurd (same.trans secondRun) (stage.1 few first firstOld)
    · rcases split askedSecond with secondOld | ⟨-, secondEvse⟩
      · exact absurd (same.symm.trans firstRun) (stage.1 few second secondOld)
      · exact firstEvse.trans secondEvse.symm
  · rw [requested]
    trivial

/-- The confirmation that a PEV accepts gives it the keys of the EVSE that it
has asked. -/
theorem PevHolds.takesKeys {attempts : κ → ℕ} {frame : SlacFrame}
    {confirm : CmSlacMatchConfirm}
    (known : ∀ frame ∈ sent, FrameHolds sites sent attempts frame)
    (holds : PevHolds sites sent k before) (matched : after.stage = .matched)
    (member : frame ∈ sent)
    (addressed : frame.goesTo (sites.pevHost k) = true)
    (received : frame.fields = .slacMatchConfirm confirm)
    (sameRun : confirm.runId = before.session.runId)
    (session : after.session = before.session.withKeys confirm)
    (same : after.attempts = before.attempts)
    (running : after.overrun = false) : PevHolds sites sent k after := by
  have told := known frame member
  rw [FrameHolds, received] at told
  obtain ⟨i, l, confirmed⟩ := told
  obtain rfl := confirmed.addressee addressed
  obtain ⟨asking, -, request, requested, runId⟩ := confirmed.requested
  refine holds.moves (by rw [session]; rfl) (by rw [session]; rfl)
    (by rw [session]; rfl) same running ?_
  rw [matched]
  refine ⟨i, ?_⟩
  rw [session]
  refine ⟨confirmed.evseMac, confirmed.nmk, confirmed.nid, ?_⟩
  have selected := requested.selected
  rwa [runId, sameRun] at selected

theorem PevHolds.setsKey (holds : PevHolds sites sent k before)
    (matched : before.stage = .matched) (keyed : after.stage = .keyed)
    (session : after.session = before.session)
    (attempts : after.attempts = before.attempts)
    (running : after.overrun = false) :
    PevHolds sites
      (sent ++ [setKeyRequest (sites.pevHost k) before.session]) k after := by
  have stage := holds.stage
  rw [matched] at stage
  obtain ⟨i, keys⟩ := stage
  have still : PevHolds sites
      (sent ++ [setKeyRequest (sites.pevHost k) before.session]) k before := by
    refine holds.mono fun frame member request asks => ?_
    rw [List.mem_singleton.mp member] at asks
    cases asks
  refine still.moves (by rw [session]) (by rw [session]) (by rw [session])
    attempts running ?_
  rw [keyed]
  refine ⟨⟨i, ?_⟩, ?_⟩
  · rw [session]
    exact keys.mono (List.subset_append_left _ _)
  · rw [session]
    exact List.mem_append_right _ (List.mem_singleton_self _)

/-- Every move of a PEV keeps what holds of it, and what it sends tells the
truth. -/
theorem PevHolds.move {attempts : κ → ℕ}
    (known : ∀ frame ∈ sent, FrameHolds sites sent attempts frame)
    (counted : attempts k = before.attempts)
    (holds : PevHolds sites sent k before)
    (move : PevMove sent (sites.pevHost k) before after frames) :
    PevHolds sites (sent ++ frames) k after ∧
      before.attempts ≤ after.attempts ∧
      ∀ frame ∈ frames, FrameHolds sites sent attempts frame ∧
        ∀ request, frame.fields = .slacMatchRequest request →
          frame.host = sites.pevHost k := by
  cases move with
  | begins ended probing session next running =>
      rw [List.append_nil]
      exact ⟨holds.begins known counted probing session next running,
        by omega, fun _ => nofun⟩
  | passes stage session same running plain =>
      refine ⟨(holds.mono fun frame member request asks => ?_).passes stage
        session same running, same.ge, fun frame member => ?_⟩
      · exact absurd asks
          (SlacFields.ne_request_of_plain (plain frame member) request)
      · exact ⟨.of_plain (plain frame member), fun request asks => absurd asks
          (SlacFields.ne_request_of_plain (plain frame member) request)⟩
  | @profiles frame answer indicate aag probing profiled member addressed
      received sameRun stored session same running plain =>
      have profile := holds.profiles known probing profiled member addressed
        received sameRun stored session same running
      refine ⟨profile.mono fun other new request asks => ?_, same.ge,
        fun other new => ?_⟩
      all_goals obtain rfl := List.mem_singleton.mp new
      · exact absurd asks (SlacFields.ne_request_of_plain plain request)
      · exact ⟨.of_plain plain, fun request asks => absurd asks
          (SlacFields.ne_request_of_plain plain request)⟩
  | leaves probing ended runId pevMac limit same running =>
      rw [List.append_nil]
      refine ⟨holds.moves runId pevMac limit same running ?_, same.ge,
        fun _ => nofun⟩
      rw [ended]
      trivial
  | @overruns frame indicate member received stored =>
      have told := known frame member
      rw [FrameHolds, received] at told
      have tooMany :=
        (FixedBuffer.store_eq_none_iff _ 0 indicate.groups).mp stored
      have few : indicate.groups.length ≤ indicate.numGroups.toNat :=
        List.length_take_le _ _
      have bounded := told.2
      omega
  | connects profiled connected accepts session same running =>
      rw [List.append_nil]
      have stage := holds.stage
      rw [profiled] at stage
      refine ⟨holds.moves (by rw [session]) (by rw [session])
        (by rw [session]) same running ?_, same.ge, fun _ => nofun⟩
      rw [connected]
      refine ⟨stage.1.of_same (by rw [session]) same, ?_, ?_⟩
      · rw [session]
        exact stage.2
      · rw [session]
        exact accepts
  | requests connected requested session same running =>
      obtain ⟨i, evseMac, selected⟩ := selected_of_connected holds connected
      refine ⟨holds.requests connected requested session same running, same.ge,
        fun frame new => ?_⟩
      obtain rfl := List.mem_singleton.mp new
      exact ⟨⟨k, i, before.attempts,
        ⟨rfl, rfl, evseMac, holds.pevMac, evseMac, selected⟩, counted.ge,
        holds.runId⟩, fun _ _ => rfl⟩
  | takesKeys requested matched member addressed received sameRun session same
      running =>
      rw [List.append_nil]
      exact ⟨holds.takesKeys known matched member addressed received sameRun
        session same running, same.ge, fun _ => nofun⟩
  | setsKey matched keyed session same running =>
      have stage := holds.stage
      rw [matched] at stage
      obtain ⟨i, keys⟩ := stage
      refine ⟨holds.setsKey matched keyed session same running, same.ge,
        fun frame new => ?_⟩
      obtain rfl := List.mem_singleton.mp new
      exact ⟨⟨k, i, _, rfl, keys.nmk, keys.nid, keys.selected⟩,
        fun request asks => nomatch asks⟩

end PevMoves

theorem LineHolds.pev_step [DecidableEq κ] {line : SlacLine ι κ} {k : κ}
    {input : StationInput} {station : SlacStation} {frames : List SlacFrame}
    (holds : LineHolds sites line)
    (delivered : input.delivered line.sent (sites.pevHost k) = true)
    (step : (pevCode (sites.pevConfig k) (sites.pevHost k)).step
      (line.pev k) input = some (station, frames)) :
    LineHolds sites
      { line with
        pev := Function.update line.pev k station
        sent := line.sent ++ frames } := by
  obtain ⟨-, move⟩ := pevMove_of_lineStep delivered step
  obtain ⟨here, later, told⟩ := (holds.pev k).move holds.frames rfl move
  have more : line.sent ⊆ line.sent ++ frames := List.subset_append_left _ _
  have counted (l : κ) : (line.pev l).attempts ≤
      (Function.update line.pev k station l).attempts := by
    rcases eq_or_ne l k with rfl | other
    · rwa [Function.update_self]
    · rw [Function.update_of_ne other]
  refine ⟨holds.evse, fun l => ?_, fun frame member => ?_,
    fun i joins => (holds.joined i joins).mono more⟩
  · dsimp only
    rcases eq_or_ne l k with rfl | other
    · rwa [Function.update_self]
    · rw [Function.update_of_ne other]
      refine (holds.pev l).mono fun frame new request asks same => other ?_
      exact sites.pevHost_injective
        (same.symm.trans ((told frame new).2 request asks))
  · rcases List.mem_append.mp member with old | new
    · exact (holds.frames frame old).mono more counted
    · exact (told frame new).1.mono more counted

end Steps

/-! ## One pair of stations -/

/-- A line with one EVSE and one PEV. -/
def pairSites : SlacSites Unit Unit where
  evseHost _ := ⟨[2, 0, 0, 0, 0, 1], rfl⟩
  pevHost _ := ⟨[2, 0, 0, 0, 0, 2], rfl⟩
  evseNmk _ := fieldVector 16 [1, 2, 3, 4]
  evseNid _ := fieldVector 7 [9, 8, 7]
  pevLimit _ := 70
  evseConfig _ := ⟨20, 10⟩
  pevConfig _ := ⟨20, 10⟩
  evseHost_injective := Function.injective_of_subsingleton _
  pevHost_injective := Function.injective_of_subsingleton _
  evseHost_ne_broadcast _ := by decide
  pevHost_ne_broadcast _ := by decide

/-- The last frame of a type arrives. -/
def lastOf (line : SlacLine Unit Unit) (mmtype : UInt16) : StationInput :=
  .call (.readmessage
    ((line.sent.filter fun frame => frame.fields.mmtype = mmtype).getLast?.map
      fun frame => PacketRead.packet frame.bytes 0).toList 0 true)

/-- What the modem of the EVSE reports about a sound. -/
def pairProfile : List UInt8 :=
  toList
    { ethernet := ethernetHeader localcast localcast homeplugMtype
      homeplug := homePlugHeader1 homeplugMmv (cmAttenProfile ||| mmtypeInd)
      fields :=
        { pevMac := pairSites.pevHost ()
          numGroups := 58
          rsvd := 0
          aag := fieldVector 255 (List.replicate 58 20) } :
      Mme CmAttenProfileIndicate }

/-- The modem of the PEV confirms the keys. -/
def keyConfirm : List UInt8 :=
  toList
    { ethernet := ethernetHeader localcast localcast homeplugMtype
      homeplug := homePlugHeader1 homeplugMmv (cmSetKey ||| mmtypeCnf)
      fields :=
        { result := 1
          mynounce := fieldVector 4 []
          yournounce := fieldVector 4 []
          pid := 0
          prn := 0
          pmn := 0
          ccocap := 0
          rsvd := fieldVector 27 [] } : Mme CmSetKeyConfirm }

/-- The two stations match without a loss, and both join. -/
def pairChoices : List (SlacLine Unit Unit → LineAction Unit Unit) :=
  let evse input := fun _ => LineAction.evse () input
  let pev input := fun _ => LineAction.pev () input
  let go := StationInput.call (.proceed true)
  [evse (.slac (.clock 0)), pev (.slac (.clock 0)), pev go,
    fun line => .evse () (lastOf line (cmSlacParam ||| mmtypeReq)),
    fun line => .pev () (lastOf line (cmSlacParam ||| mmtypeCnf))] ++
    List.replicate 5 (pev go) ++
    [fun line => .evse () (lastOf line (cmStartAttenChar ||| mmtypeInd)),
      evse go] ++
    List.replicate 12 (pev go) ++
    List.replicate 10
      (evse (.call (.readpacket (.packet pairProfile 0)))) ++
    [evse go,
      fun line => .pev () (lastOf line (cmAttenChar ||| mmtypeInd)),
      pev go, pev go,
      fun line => .evse () (lastOf line (cmAttenChar ||| mmtypeRsp)),
      fun line => .evse () (lastOf line (cmSlacMatch ||| mmtypeReq)),
      fun line => .pev () (lastOf line (cmSlacMatch ||| mmtypeCnf)),
      pev go, pev (.call (.readpacket (.packet keyConfirm 0))),
      pev (.slac (.returned true)), evse (.slac (.clock 0)),
      evse (.slac (.returned true))]

theorem exists_pairLine :
    ∃ line, (slacLine pairSites).Reachable line ∧
      (line.pev ()).slac.connectResult = some 1 ∧
      (line.evse ()).slac.connectResult = some 1 ∧
      (line.pev ()).attempts = 1 ∧ (line.evse ()).overrun = false ∧
      ∃ frame ∈ line.sent, ∃ confirm,
        frame.fields = .slacMatchConfirm confirm := by
  have played :
      ((slacLine pairSites).play (slacLine pairSites).initial
        pairChoices).any
        (fun line =>
          (line.pev ()).slac.connectResult = some 1 ∧
            (line.evse ()).slac.connectResult = some 1 ∧
              (line.pev ()).attempts = 1 ∧ (line.evse ()).overrun = false ∧
                line.sent.any
                  fun frame => frame.fields matches .slacMatchConfirm _) =
        true := by
    decide +kernel
  obtain ⟨line, reached, found⟩ := (Option.any_eq_true _ _).mp played
  obtain ⟨pev, evse, attempts, running, sent⟩ := of_decide_eq_true found
  obtain ⟨frame, member, confirms⟩ := List.any_eq_true.mp sent
  refine ⟨line, TransitionSystem.Reaches.play .start reached, pev, evse,
    attempts, running, frame, member, ?_⟩
  split at confirms
  · next confirm fields => exact ⟨confirm, fields⟩
  · cases confirms

/-! ## Every run -/

section Runs

variable [DecidableEq ι] [DecidableEq κ] {sites : SlacSites ι κ}
  {line : SlacLine ι κ}

theorem lineHolds_initial : LineHolds sites (slacLine sites).initial where
  evse i := ⟨rfl, rfl, rfl, Nat.zero_le _⟩
  pev k := by
    refine ⟨rfl, rfl, rfl, rfl, fun _ _ _ asked => ?_, trivial⟩
    obtain ⟨_, member, -⟩ := asked
    cases member
  frames _ := nofun
  joined i := nofun

theorem LineHolds.step {after : SlacLine ι κ} {action : LineAction ι κ}
    (holds : LineHolds sites line)
    (step : (slacLine sites).step line action = some after) :
    LineHolds sites after := by
  cases action with
  | evse i input =>
      obtain ⟨delivered, moved⟩ := Option.ite_none_right_eq_some.mp step
      obtain ⟨⟨station, frames⟩, stepped, rfl⟩ :=
        Option.map_eq_some_iff.mp moved
      exact holds.evse_step delivered stepped
  | pev k input =>
      obtain ⟨delivered, moved⟩ := Option.ite_none_right_eq_some.mp step
      obtain ⟨⟨station, frames⟩, stepped, rfl⟩ :=
        Option.map_eq_some_iff.mp moved
      exact holds.pev_step delivered stepped

theorem lineHolds_of_reachable (reachable : (slacLine sites).Reachable line) :
    LineHolds sites line :=
  reachable.invariant lineHolds_initial fun holds _ step => holds.step step

theorem pc_of_connectResult {slac : SlacState}
    (connected : slac.connectResult = some 1) : slac.pc = .returned 0 := by
  unfold SlacState.connectResult at connected
  split at connected
  · next result atPc =>
      split_ifs at connected with zero
      · rw [atPc, zero]
      · cases connected
  · cases connected

/-- When `CSLACify::connect` of a PEV reports success, in whatever run of the
line, its session has the keys of an EVSE whose attenuation profile it has
accepted under the identifier of its attempt, and it has passed these keys to
its modem. -/
theorem slacLine_keysAgree (reachable : (slacLine sites).Reachable line)
    {k : κ} (connected : (line.pev k).slac.connectResult = some 1) :
    (∃ i, HasKeys sites line.sent k i (line.pev k).session) ∧
      setKeyRequest (sites.pevHost k) (line.pev k).session ∈ line.sent := by
  have stage := ((lineHolds_of_reachable reachable).pev k).stage
  have keyed : (line.pev k).stage = .keyed := by
    rw [SlacStation.stage, pc_of_connectResult connected]
    rfl
  rw [keyed] at stage
  exact stage

theorem slacLine_keysAgree_pair :
    ∃ line, (slacLine pairSites).Reachable line ∧
      (line.pev ()).session.nmk = pairSites.evseNmk () ∧
      setKeyRequest (pairSites.pevHost ()) (line.pev ()).session ∈
        line.sent := by
  obtain ⟨line, reachable, pev, -⟩ := exists_pairLine
  obtain ⟨⟨i, keys⟩, told⟩ := slacLine_keysAgree reachable pev
  exact ⟨line, reachable, keys.nmk, told⟩

/-- When `CSLACify::connect` of an EVSE reports success, it has told its keys to
a PEV that had accepted its profile. -/
theorem slacLine_evseTold (reachable : (slacLine sites).Reachable line)
    {i : ι} (connected : (line.evse i).slac.connectResult = some 1) :
    Told sites line.sent i := by
  refine (lineHolds_of_reachable reachable).joined i ?_
  rw [pc_of_connectResult connected]
  rfl

theorem slacLine_evseTold_pair :
    ∃ line, (slacLine pairSites).Reachable line ∧
      Told pairSites line.sent () := by
  obtain ⟨line, reachable, -, evse, -⟩ := exists_pairLine
  exact ⟨line, reachable, slacLine_evseTold reachable evse⟩

/-- An EVSE tells its keys only to a PEV that has accepted its attenuation
profile and asked it for them, and in one attempt a PEV is told the keys of one
EVSE at most, as long as its identifiers have not wrapped around. -/
theorem slacLine_keysDisclosed (reachable : (slacLine sites).Reachable line)
    {frame : SlacFrame} (member : frame ∈ line.sent)
    {confirm : CmSlacMatchConfirm}
    (confirms : frame.fields = .slacMatchConfirm confirm) :
    ∃ i k, MatchConfirmed sites line.sent i k frame confirm ∧
      ((line.pev k).attempts < 2 ^ 64 →
        ∀ other ∈ line.sent, ∀ second,
          other.fields = .slacMatchConfirm second →
            other.peer = frame.peer → second.runId = confirm.runId →
              other.host = frame.host) := by
  have holds := lineHolds_of_reachable reachable
  have told (other : SlacFrame) (sent : other ∈ line.sent)
      {second : CmSlacMatchConfirm}
      (fields : other.fields = .slacMatchConfirm second) :
      ∃ i k, MatchConfirmed sites line.sent i k other second := by
    have told := holds.frames other sent
    rwa [FrameHolds, fields] at told
  obtain ⟨i, k, confirmed⟩ := told frame member confirms
  refine ⟨i, k, confirmed, fun few other sent second fields samePeer sameRun =>
    ?_⟩
  obtain ⟨j, l, otherConfirmed⟩ := told other sent fields
  obtain rfl : l = k := sites.pevHost_injective
    (otherConfirmed.peer.symm.trans (samePeer.trans confirmed.peer))
  obtain ⟨asking, asked, request, requested, runId⟩ := confirmed.requested
  obtain ⟨otherAsking, otherAsked, otherRequest, otherRequested, otherRunId⟩ :=
    otherConfirmed.requested
  have single := (holds.pev l).single few otherRequest request
    ⟨otherAsking, otherAsked, otherRequested.fields, otherRequested.host⟩
    ⟨asking, asked, requested.fields, requested.host⟩
    (otherRunId.trans (sameRun.trans runId.symm))
  rw [otherConfirmed.host, confirmed.host, ← otherRequested.evseMac, single,
    requested.evseMac]

theorem slacLine_keysDisclosed_pair :
    ∃ line, (slacLine pairSites).Reachable line ∧
      ∃ frame ∈ line.sent, ∃ confirm,
        MatchConfirmed pairSites line.sent () () frame confirm ∧
          ∀ other ∈ line.sent, ∀ second,
            other.fields = .slacMatchConfirm second →
              other.peer = frame.peer → second.runId = confirm.runId →
                other.host = frame.host := by
  obtain ⟨line, reachable, -, -, attempts, -, frame, member, confirm,
    confirms⟩ := exists_pairLine
  obtain ⟨i, k, confirmed, single⟩ :=
    slacLine_keysDisclosed reachable member confirms
  exact ⟨line, reachable, frame, member, confirm, confirmed,
    single (by rw [attempts]; decide)⟩

/-- A step in which the modem of an EVSE reports no profile of its PEV with more
groups than there are sums. -/
def keepsSums (line : SlacLine ι κ) : LineAction ι κ → Prop
  | .evse i input => ¬ input.BeyondSums (line.evse i).session.pevMac
  | .pev _ _ => True

/-- How the EVSEs of a line come to leave an array. -/
theorem overrun_iff_of_step {after : SlacLine ι κ} {action : LineAction ι κ}
    (holds : LineHolds sites line)
    (step : (slacLine sites).step line action = some after) :
    (∀ i, (after.evse i).overrun = false) ↔
      (∀ i, (line.evse i).overrun = false) ∧ keepsSums line action := by
  cases action with
  | pev k input =>
      obtain ⟨-, moved⟩ := Option.ite_none_right_eq_some.mp step
      obtain ⟨-, -, rfl⟩ := Option.map_eq_some_iff.mp moved
      exact (and_iff_left trivial).symm
  | evse i input =>
      obtain ⟨-, moved⟩ := Option.ite_none_right_eq_some.mp step
      obtain ⟨⟨station, frames⟩, stepped, rfl⟩ :=
        Option.map_eq_some_iff.mp moved
      have overrun := overrun_iff_of_lineStep (holds.evse i).groups stepped
      have running := (StationCode.step_cases stepped).1
      rw [keepsSums, ← overrun, Bool.not_eq_true]
      constructor
      · intro inside
        have here := inside i
        dsimp only at here
        rw [Function.update_self] at here
        refine ⟨fun j => ?_, here⟩
        rcases eq_or_ne j i with rfl | other
        · exact running
        · have there := inside j
          dsimp only at there
          rwa [Function.update_of_ne other] at there
      · rintro ⟨inside, here⟩ j
        dsimp only
        rcases eq_or_ne j i with rfl | other
        · rwa [Function.update_self]
        · rw [Function.update_of_ne other]
          exact inside j

/-- No PEV ever leaves an array, and no EVSE has left one exactly if no modem has
reported a profile of its PEV with more groups than there are sums. -/
theorem slacLine_overrun_iff (reachable : (slacLine sites).Reachable line) :
    (∀ k, (line.pev k).overrun = false) ∧
      ((∀ i, (line.evse i).overrun = false) ↔
        (slacLine sites).Reaches keepsSums line) := by
  refine ⟨fun k => ((lineHolds_of_reachable reachable).pev k).running, ?_, ?_⟩
  · intro inside
    induction reachable with
    | start => exact .start
    | next earlier _ step ih =>
        obtain ⟨before, keeps⟩ := (overrun_iff_of_step
          (lineHolds_of_reachable earlier) step).mp inside
        exact .next (ih before) keeps step
  · intro reaches
    induction reaches with
    | start => exact fun _ => rfl
    | next earlier keeps step ih =>
        have holds := lineHolds_of_reachable earlier.reachable
        exact (overrun_iff_of_step holds step).mpr
          ⟨ih earlier.reachable, keeps⟩

theorem slacLine_overrun_iff_pair :
    ∃ line, (slacLine pairSites).Reaches keepsSums line ∧
      (line.pev ()).slac.connectResult = some 1 ∧
      (line.pev ()).overrun = false := by
  obtain ⟨line, reachable, pev, -, -, running, -⟩ := exists_pairLine
  have inside := slacLine_overrun_iff reachable
  exact ⟨line, inside.2.mp fun _ => running, pev, inside.1 ()⟩

end Runs

end OpenRTH
