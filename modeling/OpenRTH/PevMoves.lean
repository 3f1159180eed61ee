import OpenRTH.SlacAttenuation
import OpenRTH.SlacSteps

/-!
# What a PEV can do

Every step of a PEV on the line is one of nine moves, which say how far the
attempt has come, what has become of the session, and what has been sent.
-/

namespace OpenRTH

open PackedRecord (ofList)

/-! ## Moves of a PEV -/

/-- Where the machine of a PEV is after a call of messages has returned. -/
def pevNextPc : SlacPc → Bool → SlacPc
  | .param _, true => .exchange .cmStartAttenChar
  | .param initTime, false => .paramTimer initTime
  | .exchange .cmStartAttenChar, true => .exchange .cmMnbcSound
  | .exchange .cmMnbcSound, true => .exchange .cmAttenChar
  | .exchange .cmAttenChar, true => .exchange .slacConnect
  | .exchange .slacConnect, true => .exchange .cmSlacMatch
  | .exchange .cmSlacMatch, true => .setKey
  | .exchange _, false => .startTimer
  | .setKey, true => .pevNetInfo
  | .setKey, false => .returned 0
  | pc, _ => pc

theorem pc_of_pevSlacStep_returned {config : SlacConfig}
    {before after : SlacState} {zero : Bool} {call : SlacCall}
    (inCall : before.pc.slacCall = some call)
    (step : pevSlacStep config before (.returned zero) = some after) :
    after.pc = pevNextPc before.pc zero := by
  cases atPc : before.pc with
  | param initTime =>
      cases zero
      all_goals
        simp [pevSlacStep, atPc, SlacState.log] at step
        subst step
        rfl
  | exchange exchange =>
      cases exchange <;> cases zero
      all_goals
        simp [pevSlacStep, atPc, SlacState.log, pevNextExchange] at step
        subst step
        rfl
  | setKey =>
      cases zero
      all_goals
        simp [pevSlacStep, atPc, SlacState.log] at step
        subst step
        rfl
  | _ => simp [atPc, SlacPc.slacCall] at inCall

theorem pc_of_pevSlacStep_exits {config : SlacConfig}
    {before after : SlacState} {call : SlacCall}
    (inCall : before.pc.slacCall = some call)
    (step : pevSlacStep config before .exits = some after) :
    after.pc = .exited := by
  cases atPc : before.pc
  all_goals simp [atPc, SlacPc.slacCall, pevSlacStep] at inCall step
  all_goals
    subst step
    rfl

/-- Where the machine of a PEV is after a step on its own. -/
theorem pc_of_pevSlacStep_alone {config : SlacConfig}
    {before after : SlacState} {input : SlacInput}
    (noCall : before.pc.slacCall = none)
    (step : pevSlacStep config before input = some after) :
    (before.pc = .startTimer ∧ ∃ now, after.pc = .param now) ∨
      ((∃ initTime, before.pc = .paramTimer initTime) ∧
        ((∃ initTime, after.pc = .param initTime) ∨ after.pc = .startTimer ∨
          after.pc = .returned 1)) ∨
      (before.pc = .pevNetInfo ∧
        (after.pc = .pevNetInfo ∨ after.pc = .returned 0 ∨
          after.pc = .exited)) := by
  cases atPc : before.pc with
  | startTimer =>
      cases input <;> simp [pevSlacStep, atPc] at step
      next now => exact .inl ⟨rfl, now, by rw [← step]⟩
  | paramTimer initTime =>
      refine .inr (.inl ⟨⟨initTime, rfl⟩, ?_⟩)
      cases input <;> simp [pevSlacStep, atPc] at step
      next now =>
        subst step
        unfold retryOrGiveUp
        split_ifs
        · exact .inr (.inr rfl)
        · exact .inr (.inl rfl)
        · exact .inl ⟨initTime, rfl⟩
  | pevNetInfo =>
      refine .inr (.inr ⟨rfl, ?_⟩)
      cases input with
      | clock now => simp [pevSlacStep, atPc] at step
      | returned zero =>
          cases zero
          all_goals
            simp [pevSlacStep, atPc, SlacState.log] at step
            subst step
          · exact .inl rfl
          · exact .inr (.inl rfl)
      | exits =>
          simp [pevSlacStep, atPc] at step
          subst step
          exact .inr (.inr rfl)
  | _ => simp [atPc, SlacPc.slacCall, pevSlacStep] at noCall step

/-- How far a PEV has come with its current attempt. -/
inductive PevStage
  | probing
  | profiled
  | connected
  | requested
  | matched
  | keyed
  | ended
  deriving DecidableEq

/-- The stage of a PEV, by its state machine and its call. -/
def pevStage : SlacPc → CallLocal → PevStage
  | .param _, _ | .paramTimer _, _ => .probing
  | .exchange .cmStartAttenChar, _ | .exchange .cmMnbcSound, _
  | .exchange .cmAttenChar, _ => .probing
  | .exchange .slacConnect, _ => .profiled
  | .exchange .cmSlacMatch, .reading => .requested
  | .exchange .cmSlacMatch, _ => .connected
  | .setKey, .reading | .pevNetInfo, _ | .returned 0, _ => .keyed
  | .setKey, _ => .matched
  | _, _ => .ended

def SlacStation.stage (station : SlacStation) : PevStage :=
  pevStage station.slac.pc station.call

/-- Two sessions that agree in what the match of a PEV rests on. -/
structure SlacSession.SameMatch (before after : SlacSession) : Prop where
  runId : after.runId = before.runId
  pevMac : after.pevMac = before.pevMac
  limit : after.limit = before.limit
  evseMac : after.evseMac = before.evseMac
  numGroups : after.numGroups = before.numGroups
  aag : after.aag = before.aag
  nmk : after.nmk = before.nmk
  nid : after.nid = before.nid

theorem SlacSession.SameMatch.refl (session : SlacSession) :
    session.SameMatch session :=
  ⟨rfl, rfl, rfl, rfl, rfl, rfl, rfl, rfl⟩

/-- The messages that carry neither keys nor a request for them. -/
def SlacFields.plain : SlacFields → Bool
  | .slacParamRequest _ | .slacParamConfirm _ | .startAttenCharIndicate _
  | .mnbcSoundIndicate _ | .attenCharResponse _ => true
  | _ => false

/-- The session of a PEV that has accepted the keys of an EVSE. -/
def SlacSession.withKeys (session : SlacSession)
    (confirm : CmSlacMatchConfirm) : SlacSession :=
  { session with
    evseId := confirm.evseId
    evseMac := confirm.evseMac
    nmk := confirm.nmk
    nid := confirm.nid }

/-- What a step of a PEV does to its stage and its session, and what it
sends. -/
inductive PevMove (sent : List SlacFrame) (host : EtherAddr)
    (before after : SlacStation) : List SlacFrame → Prop
  | begins (ended : before.stage = .ended) (probing : after.stage = .probing)
      (session : after.session =
        { before.session with runId := before.session.runId.memincr })
      (attempts : after.attempts = before.attempts + 1)
      (running : after.overrun = false) :
      PevMove sent host before after []
  | passes {frames : List SlacFrame}
      (stage : after.stage = before.stage ∨ after.stage = .ended)
      (session : before.session.SameMatch after.session)
      (attempts : after.attempts = before.attempts)
      (running : after.overrun = false)
      (plain : ∀ frame ∈ frames, frame.fields.plain = true) :
      PevMove sent host before after frames
  | profiles {frame answer : SlacFrame} {indicate : CmAttenCharIndicate}
      {aag : FixedBuffer UInt8 slacGroups} (probing : before.stage = .probing)
      (profiled : after.stage = .profiled) (member : frame ∈ sent)
      (addressed : frame.goesTo host = true)
      (received : frame.fields = .attenCharIndicate indicate)
      (sameRun : indicate.runId = before.session.runId)
      (stored : before.session.aag.store 0 indicate.groups = some aag)
      (session : after.session =
        { before.session.withProfile frame.host indicate with aag := aag })
      (attempts : after.attempts = before.attempts)
      (running : after.overrun = false)
      (plain : answer.fields.plain = true) :
      PevMove sent host before after [answer]
  | leaves (probing : before.stage = .probing) (ended : after.stage = .ended)
      (runId : after.session.runId = before.session.runId)
      (pevMac : after.session.pevMac = before.session.pevMac)
      (limit : after.session.limit = before.session.limit)
      (attempts : after.attempts = before.attempts)
      (running : after.overrun = false) : PevMove sent host before after []
  | overruns {frame : SlacFrame} {indicate : CmAttenCharIndicate}
      (member : frame ∈ sent)
      (received : frame.fields = .attenCharIndicate indicate)
      (stored : before.session.aag.store 0 indicate.groups = none) :
      PevMove sent host before after []
  | connects (profiled : before.stage = .profiled)
      (connected : after.stage = .connected)
      (accepts : slacConnect before.session = true)
      (session : after.session = before.session)
      (attempts : after.attempts = before.attempts)
      (running : after.overrun = false) : PevMove sent host before after []
  | requests (connected : before.stage = .connected)
      (requested : after.stage = .requested)
      (session : after.session = before.session)
      (attempts : after.attempts = before.attempts)
      (running : after.overrun = false) :
      PevMove sent host before after [pevSlacMatchRequest host before.session]
  | takesKeys {frame : SlacFrame} {confirm : CmSlacMatchConfirm}
      (requested : before.stage = .requested)
      (matched : after.stage = .matched) (member : frame ∈ sent)
      (addressed : frame.goesTo host = true)
      (received : frame.fields = .slacMatchConfirm confirm)
      (sameRun : confirm.runId = before.session.runId)
      (session : after.session = before.session.withKeys confirm)
      (attempts : after.attempts = before.attempts)
      (running : after.overrun = false) : PevMove sent host before after []
  | setsKey (matched : before.stage = .matched)
      (keyed : after.stage = .keyed)
      (session : after.session = before.session)
      (attempts : after.attempts = before.attempts)
      (running : after.overrun = false) :
      PevMove sent host before after [setKeyRequest host before.session]

/-! ## Every step of a PEV is one of its moves -/

/-- The stage of a PEV after a step of its call. -/
def CallProgress.nextStage (pc : SlacPc) (call : CallLocal) :
    CallProgress → PevStage
  | .goesOn state => pevStage pc state
  | .returns zero => pevStage (pevNextPc pc zero) .entered
  | .exits => .ended
  | .overruns => pevStage pc call

def CallProgress.leavesArray : CallProgress → Bool
  | .overruns => true
  | _ => false

section PevMoves

variable {config : SlacConfig} {sent : List SlacFrame} {host : EtherAddr}
  {station after : SlacStation} {step : CallStep}

/-- What a step of a call leaves behind. -/
structure AfterPevCall (station after : SlacStation) (step : CallStep) :
    Prop where
  session : after.session = step.session
  attempts : after.attempts = station.attempts
  stage : after.stage = step.progress.nextStage station.slac.pc station.call
  overrun : after.overrun = step.progress.leavesArray

theorem afterPevCall {call : SlacCall} (running : station.overrun = false)
    (inCall : station.slac.pc.slacCall = some call)
    (moved : (pevCode config host).afterCall station step = some after) :
    AfterPevCall station after step := by
  obtain ⟨session, attempts, ⟨state, progress, slac, entered, overrun⟩ |
    ⟨zero, progress, stepped, entered, overrun⟩ |
    ⟨progress, stepped, -, overrun⟩ | ⟨progress, slac, entered, overrun⟩⟩ :=
    StationCode.afterCall_cases moved
  all_goals
    refine ⟨session, attempts, ?_, ?_⟩
    all_goals rw [progress]
  · rw [SlacStation.stage, slac, entered]
    rfl
  · exact overrun.trans running
  · rw [SlacStation.stage, pc_of_pevSlacStep_returned inCall stepped, entered]
    rfl
  · exact overrun.trans running
  · rw [SlacStation.stage, pc_of_pevSlacStep_exits inCall stepped]
    rfl
  · exact overrun.trans running
  · rw [SlacStation.stage, slac, entered]
    rfl
  · exact overrun

theorem AfterPevCall.passes (moved : AfterPevCall station after step)
    (session : station.session.SameMatch step.session)
    (plain : ∀ frame ∈ step.sent, frame.fields.plain = true)
    (stage : step.progress.nextStage station.slac.pc station.call =
      station.stage ∨
        step.progress.nextStage station.slac.pc station.call = .ended)
    (inside : step.progress.leavesArray = false) :
    PevMove sent host station after step.sent := by
  refine .passes ?_ (moved.session ▸ session) moved.attempts
    (moved.overrun.trans inside) plain
  rwa [moved.stage]

theorem AfterPevCall.passes_of_send {sendOk : Bool} {frame : SlacFrame}
    {progress : CallProgress}
    (moved :
      AfterPevCall station after (station.session.send sendOk frame progress))
    (plain : frame.fields.plain = true)
    (stage : progress.nextStage station.slac.pc station.call = station.stage)
    (inside : progress.leavesArray = false) :
    PevMove sent host station after
      (station.session.send sendOk frame progress).sent := by
  cases sendOk with
  | false => exact moved.passes (.refl _) (fun _ => nofun) (.inr rfl) rfl
  | true =>
      refine moved.passes (.refl _) (fun sent member => ?_) (.inl stage) inside
      rwa [List.mem_singleton.mp member]

theorem AfterPevCall.passes_of_quiet {progress : CallProgress}
    {session : SlacSession}
    (moved : AfterPevCall station after (session.quiet progress))
    (same : station.session.SameMatch session)
    (stage : progress.nextStage station.slac.pc station.call =
      station.stage ∨
        progress.nextStage station.slac.pc station.call = .ended)
    (inside : progress.leavesArray = false) :
    PevMove sent host station after (session.quiet progress).sent :=
  moved.passes same (fun _ => nofun) stage inside

theorem pevMove_of_cmSlacParam {input : CallInput} {initTime : ℤ}
    (atPc : station.slac.pc = .param initTime)
    (called : pevCallStep host station.session .cmSlacParam station.call
      input = some step)
    (moved : AfterPevCall station after step) :
    PevMove sent host station after step.sent := by
  cases atCall : station.call with
  | entered =>
      rw [atCall] at called
      cases input <;> simp only [pevCallStep, reduceCtorEq] at called
      obtain rfl := Option.some.inj called
      exact moved.passes_of_send rfl (by rw [SlacStation.stage, atPc]; rfl) rfl
  | reading =>
      rw [atCall] at called
      cases input <;> simp only [pevCallStep, reduceCtorEq] at called
      obtain ⟨message, -, rfl⟩ := Option.map_eq_some_iff.mp called
      have stage : station.stage = .probing := by
        rw [SlacStation.stage, atPc]
        rfl
      unfold pevCmSlacParam at moved ⊢
      split at moved
      · exact moved.passes_of_quiet (.refl _)
          (.inl (by rw [stage, atPc]; rfl)) rfl
      · dsimp only at moved ⊢
        split_ifs at moved ⊢
        · exact moved.passes_of_quiet ⟨rfl, rfl, rfl, rfl, rfl, rfl, rfl, rfl⟩
            (.inl (by rw [stage, atPc]; rfl)) rfl
        · exact moved.passes_of_quiet (.refl _)
            (.inl (by rw [stage, atPc]; rfl)) rfl
  | sounding aag =>
      rw [atCall] at called
      cases input <;> cases called
  | sending left =>
      rw [atCall] at called
      cases input <;> cases called

/-- The two calls that only send. -/
theorem pevMove_of_sending {input : CallInput} {call : SlacExchange}
    (atPc : station.slac.pc = .exchange call)
    (sends : call = .cmStartAttenChar ∨ call = .cmMnbcSound)
    (called : pevCallStep host station.session (.exchange call) station.call
      input = some step)
    (moved : AfterPevCall station after step) :
    PevMove sent host station after step.sent := by
  have probing (state : CallLocal) :
      pevStage station.slac.pc state = .probing := by
    rw [atPc]
    rcases sends with rfl | rfl <;> rfl
  have going (state : CallLocal) :
      CallProgress.nextStage station.slac.pc station.call (.goesOn state) =
        station.stage :=
    (probing state).trans (probing station.call).symm
  have returning :
      CallProgress.nextStage station.slac.pc station.call (.returns true) =
        station.stage := by
    refine Eq.trans ?_ (probing station.call).symm
    rw [atPc]
    rcases sends with rfl | rfl <;> rfl
  cases atCall : station.call with
  | entered =>
      rw [atCall] at called
      rcases sends with rfl | rfl
      all_goals
        cases input <;> simp only [pevCallStep, reduceCtorEq] at called
        obtain rfl := Option.some.inj called
        exact moved.passes_of_quiet (.refl _) (.inl (going _)) rfl
  | sending left =>
      rw [atCall] at called
      rcases sends with rfl | rfl
      all_goals
        cases input <;> simp only [pevCallStep, reduceCtorEq] at called
        obtain rfl := Option.some.inj called
        cases left with
        | zero =>
            exact moved.passes_of_quiet (.refl _) (.inl returning) rfl
        | succ left => exact moved.passes_of_send rfl (going _) rfl
  | reading =>
      rw [atCall] at called
      rcases sends with rfl | rfl <;> cases input <;> cases called
  | sounding aag =>
      rw [atCall] at called
      rcases sends with rfl | rfl <;> cases input <;> cases called

theorem pevMove_of_cmAttenChar {input : CallInput}
    (atPc : station.slac.pc = .exchange .cmAttenChar)
    (delivered : (StationInput.call input).delivered sent host = true)
    (called : pevCallStep host station.session (.exchange .cmAttenChar)
      station.call input = some step)
    (moved : AfterPevCall station after step) :
    PevMove sent host station after step.sent := by
  have probing : station.stage = .probing := by
    rw [SlacStation.stage, atPc]
    rfl
  cases atCall : station.call with
  | entered =>
      rw [atCall] at called
      cases input <;> simp only [pevCallStep, reduceCtorEq] at called
      next reads seconds sendOk =>
        obtain ⟨message, read, rfl⟩ := Option.map_eq_some_iff.mp called
        cases message with
        | none =>
            exact moved.passes_of_quiet (.refl _)
              (.inr (by rw [atPc]; rfl)) rfl
        | some memory =>
            obtain ⟨frame, member, addressed, rfl, fields⟩ :=
              exists_frame_of_reader delivered read rfl
            obtain ⟨indicate, received⟩ :
                ∃ indicate, frame.fields = .attenCharIndicate indicate :=
              ⟨_, fields⟩
            rw [pevCmAttenChar_bytes received] at moved ⊢
            split_ifs at moved ⊢ with accepted
            · have sameRun := ((RunId.accepts_iff _ _).mp accepted).symm
              split at moved
              · next stored => exact .overruns member received stored
              · next aag stored =>
                  cases sendOk with
                  | false =>
                      exact .leaves probing moved.stage
                        (by rw [moved.session]; rfl)
                        (by rw [moved.session]; rfl)
                        (by rw [moved.session]; rfl)
                        moved.attempts moved.overrun
                  | true =>
                      exact .profiles probing
                        (by rw [moved.stage, atPc]; rfl) member addressed
                        received sameRun stored moved.session
                        moved.attempts moved.overrun rfl
            · exact moved.passes_of_quiet (.refl _)
                (.inl (by rw [probing, atPc]; rfl)) rfl
  | _ =>
      rw [atCall] at called
      cases input <;> cases called

theorem pevMove_of_slacConnect {input : CallInput}
    (atPc : station.slac.pc = .exchange .slacConnect)
    (called : pevCallStep host station.session (.exchange .slacConnect)
      station.call input = some step)
    (moved : AfterPevCall station after step) :
    PevMove sent host station after step.sent := by
  cases atCall : station.call with
  | entered =>
      rw [atCall] at called
      cases input <;> simp only [pevCallStep, reduceCtorEq] at called
      obtain rfl := Option.some.inj called
      cases accepts : slacConnect station.session with
      | false =>
          rw [accepts] at moved
          exact moved.passes_of_quiet (.refl _) (.inr (by rw [atPc]; rfl)) rfl
      | true =>
          rw [accepts] at moved
          exact .connects (by rw [SlacStation.stage, atPc]; rfl)
            (by rw [moved.stage, atPc]; rfl) accepts moved.session
            moved.attempts moved.overrun
  | _ =>
      rw [atCall] at called
      cases input <;> cases called

theorem pevMove_of_cmSlacMatch {input : CallInput}
    (atPc : station.slac.pc = .exchange .cmSlacMatch)
    (delivered : (StationInput.call input).delivered sent host = true)
    (called : pevCallStep host station.session (.exchange .cmSlacMatch)
      station.call input = some step)
    (moved : AfterPevCall station after step) :
    PevMove sent host station after step.sent := by
  cases atCall : station.call with
  | entered =>
      rw [atCall] at called
      cases input <;> simp only [pevCallStep, reduceCtorEq] at called
      next sendOk =>
        obtain rfl := Option.some.inj called
        cases sendOk with
        | false => exact moved.passes (.refl _) (fun _ => nofun) (.inr rfl) rfl
        | true =>
            exact .requests (by rw [SlacStation.stage, atPc, atCall]; rfl)
              (by rw [moved.stage, atPc]; rfl) moved.session moved.attempts
              moved.overrun
  | reading =>
      rw [atCall] at called
      cases input <;> simp only [pevCallStep, reduceCtorEq] at called
      obtain ⟨message, read, rfl⟩ := Option.map_eq_some_iff.mp called
      unfold pevCmSlacMatch at moved ⊢
      split at moved
      · exact moved.passes_of_quiet (.refl _) (.inr (by rw [atPc]; rfl)) rfl
      · next memory =>
          obtain ⟨frame, member, addressed, rfl, fields⟩ :=
            exists_frame_of_reader delivered read rfl
          dsimp only at moved fields ⊢
          split_ifs at moved ⊢ with accepted
          · exact .takesKeys (by rw [SlacStation.stage, atPc, atCall]; rfl)
              (by rw [moved.stage, atPc]; rfl) member addressed fields
              ((RunId.accepts_iff _ _).mp accepted).symm moved.session
              moved.attempts moved.overrun
          · exact moved.passes_of_quiet (.refl _)
              (.inr (by rw [atPc]; rfl)) rfl
  | _ =>
      rw [atCall] at called
      cases input <;> cases called

theorem pevMove_of_cmSetKey {input : CallInput}
    (atPc : station.slac.pc = .setKey)
    (called : pevCallStep host station.session .cmSetKey station.call input =
      some step)
    (moved : AfterPevCall station after step) :
    PevMove sent host station after step.sent := by
  cases atCall : station.call with
  | entered =>
      rw [atCall] at called
      cases input <;> simp only [pevCallStep, reduceCtorEq] at called
      next sendOk =>
        obtain rfl := Option.some.inj called
        cases sendOk with
        | false => exact moved.passes (.refl _) (fun _ => nofun) (.inr rfl) rfl
        | true =>
            exact .setsKey (by rw [SlacStation.stage, atPc, atCall]; rfl)
              (by rw [moved.stage, atPc]; rfl) moved.session moved.attempts
              moved.overrun
  | reading =>
      rw [atCall] at called
      cases input <;> simp only [pevCallStep, reduceCtorEq] at called
      obtain rfl := Option.some.inj called
      have keyed : station.stage = .keyed := by
        rw [SlacStation.stage, atPc, atCall]
        rfl
      have stays (zero : Bool) :
          CallProgress.nextStage station.slac.pc station.call (.returns zero) =
            station.stage := by
        rw [keyed, atPc]
        cases zero <;> rfl
      have goes :
          CallProgress.nextStage station.slac.pc station.call
            (.goesOn .reading) = station.stage := by
        rw [keyed, atPc]
        rfl
      unfold cmSetKeyRead at moved ⊢
      split at moved
      · exact moved.passes_of_quiet (.refl _) (.inl (stays _)) rfl
      · dsimp only at moved ⊢
        split_ifs at moved ⊢
        · exact moved.passes_of_quiet (.refl _) (.inl (stays _)) rfl
        · exact moved.passes_of_quiet (.refl _) (.inl goes) rfl
        · exact moved.passes_of_quiet (.refl _) (.inl goes) rfl
        · exact moved.passes_of_quiet (.refl _) (.inl goes) rfl
        · exact moved.passes_of_quiet (.refl _) (.inl (stays _)) rfl
  | _ =>
      rw [atCall] at called
      cases input <;> cases called

/-- The steps of the state machine between its calls. -/
theorem pevMove_of_alone {input : SlacInput} {slac : SlacState}
    (running : station.overrun = false)
    (noCall : station.slac.pc.slacCall = none)
    (stepped : pevSlacStep config station.slac input = some slac) :
    PevMove sent host station
      { (pevCode config host).begun station with slac := slac } [] := by
  rcases pc_of_pevSlacStep_alone noCall stepped with
    ⟨start, now, param⟩ | ⟨⟨initTime, timer⟩, next⟩ | ⟨join, next⟩
  · rw [StationCode.begun, if_pos start]
    refine .begins ?_ ?_ rfl rfl running
    · rw [SlacStation.stage, start]
      rfl
    · rw [SlacStation.stage, param]
      rfl
  · rw [StationCode.begun, if_neg (by rw [timer]; nofun)]
    refine .passes ?_ (.refl _) rfl running (fun _ => nofun)
    rw [SlacStation.stage, SlacStation.stage, timer]
    rcases next with ⟨again, param⟩ | start | given
    · exact .inl (by rw [param]; rfl)
    · exact .inr (by rw [start]; rfl)
    · exact .inr (by rw [given]; rfl)
  · rw [StationCode.begun, if_neg (by rw [join]; nofun)]
    refine .passes ?_ (.refl _) rfl running (fun _ => nofun)
    rw [SlacStation.stage, SlacStation.stage, join]
    rcases next with again | formed | ended
    · exact .inl (by rw [again])
    · exact .inl (by rw [formed]; rfl)
    · exact .inr (by rw [ended]; rfl)

theorem pevMove_of_slacCall {input : CallInput} {call : SlacCall}
    (running : station.overrun = false)
    (inCall : station.slac.pc.slacCall = some call)
    (delivered : (StationInput.call input).delivered sent host = true)
    (called : pevCallStep host station.session call station.call input =
      some step)
    (moved : (pevCode config host).afterCall station step = some after) :
    PevMove sent host station after step.sent := by
  have moved := afterPevCall running inCall moved
  cases atPc : station.slac.pc with
  | param initTime =>
      rw [atPc] at inCall
      obtain rfl := Option.some.inj inCall
      exact pevMove_of_cmSlacParam atPc called moved
  | exchange exchange =>
      rw [atPc] at inCall
      obtain rfl := Option.some.inj inCall
      cases exchange with
      | cmStartAttenChar =>
          exact pevMove_of_sending atPc (.inl rfl) called moved
      | cmMnbcSound => exact pevMove_of_sending atPc (.inr rfl) called moved
      | cmAttenChar => exact pevMove_of_cmAttenChar atPc delivered called moved
      | slacConnect => exact pevMove_of_slacConnect atPc called moved
      | cmSlacMatch => exact pevMove_of_cmSlacMatch atPc delivered called moved
  | setKey =>
      rw [atPc] at inCall
      obtain rfl := Option.some.inj inCall
      exact pevMove_of_cmSetKey atPc called moved
  | _ =>
      rw [atPc] at inCall
      cases inCall

/-- Every step of a PEV is one of its moves. -/
theorem pevMove_of_lineStep {input : StationInput} {frames : List SlacFrame}
    (delivered : input.delivered sent host = true)
    (step : (pevCode config host).step station input = some (after, frames)) :
    station.overrun = false ∧ PevMove sent host station after frames := by
  obtain ⟨running, ⟨call, callInput, callStep, inCall, rfl, called, moved, rfl⟩ |
    ⟨slacInput, slac, noCall, rfl, stepped, rfl, rfl⟩⟩ :=
    StationCode.step_cases step
  · exact ⟨running,
      pevMove_of_slacCall running inCall delivered called moved⟩
  · exact ⟨running, pevMove_of_alone running noCall stepped⟩

end PevMoves

end OpenRTH
