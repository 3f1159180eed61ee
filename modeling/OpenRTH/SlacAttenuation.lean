import OpenRTH.SlacExchanges

/-!
# Attenuation profiles

What `evse_cm_mnbc_sound` makes of the profiles that its modem sends it: for
every sequence of frames the groups of the session are the means over the
profiles of the PEV of the session, and it leaves its array only by a profile
with more groups than the array has.  The PEV takes the mean of these means and
decides by its limit.
-/

namespace OpenRTH

open PackedRecord (ofList fieldVector)

/-! ## Adding one profile -/

/-- The loop over the groups adds them one by one and stays in the array as long
as the groups do. -/
theorem exists_addProfile (indicated : List UInt8) {left group : ℕ}
    (inside : group + left ≤ slacGroups) (aag : FixedBuffer ℕ slacGroups) :
    ∃ after, addProfile indicated left group aag = some after ∧
      ∀ index, after.contents.getD index 0 =
        aag.contents.getD index 0 +
          if group ≤ index ∧ index < group + left then
            (indicated.getD index 0).toNat
          else 0 := by
  induction left generalizing group aag with
  | zero =>
      refine ⟨aag, rfl, fun index => ?_⟩
      rw [if_neg (by omega), Nat.add_zero]
  | succ left ih =>
      obtain ⟨stored, store⟩ := aag.exists_store_singleton
        (aag.contents.getD group 0 + (indicated.getD group 0).toNat)
        (show group < slacGroups by omega)
      obtain ⟨after, added, sums⟩ :=
        ih (show group + 1 + left ≤ slacGroups by omega) stored
      refine ⟨after, ?_, fun index => ?_⟩
      · rw [addProfile, store]
        exact added
      · have found := FixedBuffer.getElem?_store_singleton store index
        rw [sums, List.getD_eq_getElem?_getD, found]
        by_cases here : index = group
        · subst here
          rw [if_pos rfl, if_neg (by omega), if_pos (by omega)]
          rfl
        · rw [if_neg here, ← List.getD_eq_getElem?_getD]
          congr 1
          by_cases later : group + 1 ≤ index ∧ index < group + 1 + left
          · rw [if_pos later, if_pos (by omega)]
          · rw [if_neg later, if_neg (by omega)]

theorem addProfile_eq_none (indicated : List UInt8) {left group : ℕ}
    (start : group ≤ slacGroups) (outside : slacGroups < group + left)
    (aag : FixedBuffer ℕ slacGroups) :
    addProfile indicated left group aag = none := by
  induction left generalizing group aag with
  | zero => omega
  | succ left ih =>
      rw [addProfile]
      cases store : aag.store group
          [aag.contents.getD group 0 + (indicated.getD group 0).toNat] with
      | none => rfl
      | some stored =>
          have room : group + 1 ≤ slacGroups := FixedBuffer.le_of_store store
          exact ih room (by omega) stored

/-! ## The profiles of a PEV -/

/-- The profile that a frame adds to the sums. -/
def ownProfile (pevMac : EtherAddr) :
    PacketRead → Option CmAttenProfileIndicate
  | .error => none
  | .packet frame _ =>
      let memory := readpacket frame
      let (ethernet, homeplug) :=
        ofList (R := EthernetHdr × HomeplugFmi) memory
      let indicate :=
        (ofList (R := Mme CmAttenProfileIndicate) memory).fields
      if memory.length ≠ 0 ∧ ethernet.mtype = homeplugMtype ∧
          homeplug.mmv = homeplugMmv ∧
          homeplug.mmtype = cmAttenProfile ||| mmtypeInd ∧
          indicate.pevMac = pevMac then
        some indicate
      else none

/-- What a profile says about a group. -/
def CmAttenProfileIndicate.group (indicate : CmAttenProfileIndicate)
    (index : ℕ) : ℕ :=
  if index < indicate.numGroups.toNat then
    (indicate.aag.toList.getD index 0).toNat
  else 0

theorem memcmp_bytes_eq_zero_iff (first second : EtherAddr) :
    memcmp first.bytes second.bytes = 0 ↔ first = second := by
  rw [memcmp_eq_zero_iff (by rw [first.length_bytes, second.length_bytes])]
  refine ⟨fun same => ?_, fun same => by rw [same]⟩
  cases first
  cases second
  congr

theorem soundingFrame_of_none {session : SlacSession}
    {aag : FixedBuffer ℕ slacGroups} {frame : List UInt8} {elapsed : ℤ}
    (other : ownProfile session.pevMac (.packet frame elapsed) = none) :
    soundingFrame session aag (readpacket frame) = some (session, aag) := by
  simp only [ownProfile, ite_eq_right_iff, reduceCtorEq] at other
  simp only [soundingFrame, memcmp_bytes_eq_zero_iff]
  split_ifs with empty mtype mmv sound profile own
  · rfl
  · rfl
  · rfl
  · rfl
  · exact (other ⟨empty, not_not.mp mtype, not_not.mp mmv, profile,
      own.symm⟩).elim
  · rfl
  · rfl

theorem soundingFrame_of_some {session : SlacSession}
    {aag : FixedBuffer ℕ slacGroups} {frame : List UInt8} {elapsed : ℤ}
    {profile : CmAttenProfileIndicate}
    (own : ownProfile session.pevMac (.packet frame elapsed) = some profile) :
    soundingFrame session aag (readpacket frame) =
      (addProfile profile.aag.toList profile.numGroups.toNat 0 aag).map
        fun aag =>
          ({ session with
            numGroups := profile.numGroups
            sounds := session.sounds + 1 }, aag) := by
  simp only [ownProfile, Option.ite_none_right_eq_some, Option.some.injEq]
    at own
  obtain ⟨⟨empty, mtype, mmv, type, pevMac⟩, rfl⟩ := own
  simp only [soundingFrame]
  rw [if_neg empty, if_neg (not_not.mpr mtype), if_neg (not_not.mpr mmv),
    if_neg (by rw [type]; decide), if_pos type,
    if_pos ((memcmp_bytes_eq_zero_iff _ _).mpr pevMac.symm)]

/-! ## The whole loop -/

/-- `evse_cm_mnbc_sound` over exactly the results of `readpacket` that it has
got so far. -/
def evseSoundingRun (session : SlacSession) (aag : FixedBuffer ℕ slacGroups) :
    List PacketRead → Option CallStep
  | [] => some (session.quiet (.goesOn (.sounding aag)))
  | read :: reads =>
      let step := evseCmMnbcSound session aag read
      match step.progress with
      | .goesOn (.sounding aag) => evseSoundingRun step.session aag reads
      | _ => if reads.isEmpty then some step else none

/-- The session and the sums after some profiles. -/
structure ProfilesSummed (start : SlacSession)
    (profiles : List CmAttenProfileIndicate) (session : SlacSession)
    (aag : FixedBuffer ℕ slacGroups) : Prop where
  session : session =
    { start with
      sounds := profiles.length
      numGroups := (profiles.getLast?.map
        CmAttenProfileIndicate.numGroups).getD start.numGroups
      aag := zeroBuffer }
  sums : ∀ index, index < slacGroups → aag.contents.getD index 0 =
    (profiles.map fun profile => profile.group index).sum
  inside : ∀ profile ∈ profiles, profile.numGroups.toNat ≤ slacGroups

theorem ProfilesSummed.append {start session : SlacSession}
    {profiles : List CmAttenProfileIndicate} {aag : FixedBuffer ℕ slacGroups}
    (summed : ProfilesSummed start profiles session aag)
    {profile : CmAttenProfileIndicate}
    (fits : profile.numGroups.toNat ≤ slacGroups) :
    ∃ after,
      addProfile profile.aag.toList profile.numGroups.toNat 0 aag =
          some after ∧
        ProfilesSummed start (profiles ++ [profile])
          { session with
            numGroups := profile.numGroups
            sounds := session.sounds + 1 } after := by
  obtain ⟨after, added, sums⟩ := exists_addProfile profile.aag.toList
    (show 0 + profile.numGroups.toNat ≤ slacGroups by omega) aag
  refine ⟨after, added, ?_, fun index small => ?_, fun other member => ?_⟩
  · rw [summed.session, List.length_append, List.length_singleton,
      List.getLast?_concat]
    rfl
  · rw [sums, summed.sums index small, List.map_append, List.sum_append,
      List.map_singleton, List.sum_singleton, CmAttenProfileIndicate.group]
    simp only [Nat.zero_le, true_and, Nat.zero_add]
  · rcases List.mem_append.mp member with earlier | last
    · exact summed.inside other earlier
    · rwa [List.mem_singleton.mp last]

/-- What the loop has come to after some profiles. -/
def SoundingOutcome (start : SlacSession)
    (profiles : List CmAttenProfileIndicate) (step : CallStep) : Prop :=
  match step.progress with
  | .overruns => ∃ profile ∈ profiles, slacGroups < profile.numGroups.toNat
  | .returns true =>
      ∃ session aag, ProfilesSummed start profiles session aag ∧
        step.session = soundingEnd session aag
  | .goesOn (.sounding aag) => ProfilesSummed start profiles step.session aag
  | _ => ∃ aag, ProfilesSummed start profiles step.session aag

theorem ProfilesSummed.read {start session : SlacSession}
    {profiles : List CmAttenProfileIndicate} {aag : FixedBuffer ℕ slacGroups}
    (summed : ProfilesSummed start profiles session aag) (read : PacketRead) :
    SoundingOutcome start
      (profiles ++ (ownProfile start.pevMac read).toList)
      (evseCmMnbcSound session aag read) := by
  have pevMac : session.pevMac = start.pevMac := by rw [summed.session]
  cases read with
  | error =>
      rw [show ownProfile start.pevMac .error = none from rfl,
        Option.toList_none, List.append_nil]
      exact ⟨aag, summed⟩
  | packet frame elapsed =>
      cases own : ownProfile start.pevMac (.packet frame elapsed) with
      | none =>
          rw [← pevMac] at own
          rw [Option.toList_none, List.append_nil, evseCmMnbcSound,
            soundingFrame_of_none own]
          dsimp only
          split_ifs
          · exact summed
          · exact ⟨session, aag, summed, rfl⟩
      | some profile =>
          rw [← pevMac] at own
          rw [Option.toList_some, evseCmMnbcSound, soundingFrame_of_some own]
          by_cases fits : profile.numGroups.toNat ≤ slacGroups
          · obtain ⟨after, added, more⟩ := summed.append fits
            rw [added]
            dsimp only [Option.map_some]
            split_ifs
            · exact more
            · exact ⟨_, after, more, rfl⟩
          · have tooMany := Nat.not_le.mp fits
            rw [addProfile_eq_none _ (Nat.zero_le _) (by omega)]
            exact ⟨profile, List.mem_append_right _ List.mem_cons_self,
              tooMany⟩

theorem ProfilesSummed.run {start session : SlacSession}
    {profiles : List CmAttenProfileIndicate} {aag : FixedBuffer ℕ slacGroups}
    (summed : ProfilesSummed start profiles session aag)
    {reads : List PacketRead} {step : CallStep}
    (called : evseSoundingRun session aag reads = some step) :
    SoundingOutcome start
      (profiles ++ reads.filterMap (ownProfile start.pevMac)) step := by
  induction reads generalizing profiles session aag with
  | nil =>
      obtain rfl := Option.some.inj called
      rw [List.filterMap_nil, List.append_nil]
      exact summed
  | cons read reads ih =>
      have outcome := summed.read read
      have split :
          profiles ++ (read :: reads).filterMap (ownProfile start.pevMac) =
            (profiles ++ (ownProfile start.pevMac read).toList) ++
              reads.filterMap (ownProfile start.pevMac) := by
        rw [List.append_assoc, List.filterMap_cons]
        cases ownProfile start.pevMac read <;> rfl
      rw [evseSoundingRun] at called
      split at called
      · next sums progress =>
          rw [SoundingOutcome, progress] at outcome
          rw [split]
          exact ih outcome called
      · rw [Option.ite_none_right_eq_some] at called
        obtain ⟨last, called⟩ := called
        obtain rfl := Option.some.inj called
        rw [split, List.isEmpty_iff.mp last, List.filterMap_nil,
          List.append_nil]
        exact outcome

theorem CmAttenProfileIndicate.group_lt
    (indicate : CmAttenProfileIndicate) (index : ℕ) :
    indicate.group index < 256 := by
  rw [CmAttenProfileIndicate.group]
  split_ifs
  · exact UInt8.toNat_lt _
  · omega

theorem mean_lt {values : List ℕ} (bytes : ∀ value ∈ values, value < 256) :
    values.sum / values.length < 256 := by
  rcases Nat.eq_zero_or_pos values.length with none_ | some_
  · rw [none_, Nat.div_zero]
    omega
  · refine (Nat.div_lt_iff_lt_mul some_).mpr ?_
    have bound := List.sum_le_card_nsmul values 255
      fun value member => Nat.le_of_lt_succ (bytes value member)
    rw [Nat.nsmul_eq_mul] at bound
    omega

theorem getD_zeroBuffer {α : Type} [Zero α] (index : ℕ) :
    (zeroBuffer (α := α)).contents.getD index 0 = 0 := by
  rw [zeroBuffer, List.getD_eq_getElem?_getD, List.getElem?_replicate]
  split_ifs <;> rfl

theorem profilesSummed_nil (session : SlacSession) :
    ProfilesSummed session [] { session with sounds := 0, aag := zeroBuffer }
      zeroBuffer :=
  ⟨rfl, fun index _ => getD_zeroBuffer index, fun _ => nofun⟩

theorem ProfilesSummed.soundingEnd_eq {start session : SlacSession}
    {profiles : List CmAttenProfileIndicate} {aag : FixedBuffer ℕ slacGroups}
    (summed : ProfilesSummed start profiles session aag) :
    soundingEnd session aag =
      { start with
        sounds := profiles.length
        numGroups :=
          if profiles = [] then start.numGroups else UInt8.ofNat slacGroups
        aag := (soundingEnd session aag).aag } := by
  rw [summed.session, soundingEnd]
  cases profiles with
  | nil => rfl
  | cons profile profiles => rfl

theorem ProfilesSummed.mean {start session : SlacSession}
    {profiles : List CmAttenProfileIndicate} {aag : FixedBuffer ℕ slacGroups}
    (summed : ProfilesSummed start profiles session aag) {index : ℕ}
    (inside : index < slacGroups) :
    ((soundingEnd session aag).aag.contents.getD index 0).toNat =
      (profiles.map fun profile => profile.group index).sum /
        profiles.length := by
  have count : session.sounds = profiles.length := by rw [summed.session]
  cases profiles with
  | nil =>
      have zeros : session.aag = zeroBuffer := by rw [summed.session]
      rw [soundingEnd, if_neg (by rw [count]; exact Nat.lt_irrefl 0), zeros,
        getD_zeroBuffer]
      exact (Nat.zero_div _).symm
  | cons profile profiles =>
      have bytes : ∀ value ∈
          (profile :: profiles).map fun profile => profile.group index,
          value < 256 := by
        rintro value member
        obtain ⟨other, -, rfl⟩ := List.mem_map.mp member
        exact other.group_lt index
      have small := mean_lt bytes
      have found : index < aag.contents.length := by
        rwa [aag.length_contents]
      have total := summed.sums index inside
      rw [List.getD_eq_getElem _ _ found] at total
      rw [List.length_map, ← total] at small
      rw [soundingEnd, if_pos (by rw [count]; exact Nat.succ_pos _),
        meanGroups, count]
      dsimp only
      rw [List.getD_eq_getElem?_getD, List.getElem?_map,
        List.getElem?_eq_getElem found, Option.map_some, Option.getD_some,
        UInt8.toNat_ofNat_of_lt' small, total]

/-- For every sequence of frames, `evse_cm_mnbc_sound` leaves its array exactly
if a profile of its PEV has more than 58 groups, and when it returns zero the
groups of the session are the means over the profiles of its PEV, and nothing
else has changed but their number and that of the groups. -/
theorem evseCmMnbcSound_means {session : SlacSession} {reads : List PacketRead}
    {step : CallStep}
    (called : evseSoundingRun { session with sounds := 0, aag := zeroBuffer }
      zeroBuffer reads = some step) :
    let profiles := reads.filterMap (ownProfile session.pevMac)
    (step.progress = .overruns ↔
      ∃ profile ∈ profiles, slacGroups < profile.numGroups.toNat) ∧
      (step.progress = .returns true →
        step.session =
          { session with
            sounds := profiles.length
            numGroups :=
              if profiles = [] then session.numGroups
              else UInt8.ofNat slacGroups
            aag := step.session.aag } ∧
          ∀ index, index < slacGroups →
            (step.session.aag.contents.getD index 0).toNat =
              (profiles.map fun profile => profile.group index).sum /
                profiles.length) := by
  have outcome := (profilesSummed_nil session).run called
  rw [List.nil_append] at outcome
  have bounded {profiles : List CmAttenProfileIndicate} {after : SlacSession}
      {aag : FixedBuffer ℕ slacGroups}
      (summed : ProfilesSummed session profiles after aag) :
      ¬ ∃ profile ∈ profiles, slacGroups < profile.numGroups.toNat := by
    rintro ⟨profile, member, large⟩
    exact absurd (summed.inside profile member) (by omega)
  refine ⟨⟨fun overruns => ?_, fun large => ?_⟩, fun returns => ?_⟩
  · rwa [SoundingOutcome, overruns] at outcome
  · unfold SoundingOutcome at outcome
    split at outcome
    · next overruns => exact overruns
    · obtain ⟨_, _, summed, -⟩ := outcome
      exact absurd large (bounded summed)
    · exact absurd large (bounded outcome)
    · obtain ⟨_, summed⟩ := outcome
      exact absurd large (bounded summed)
  · rw [SoundingOutcome, returns] at outcome
    obtain ⟨after, aag, summed, same⟩ := outcome
    rw [same]
    exact ⟨summed.soundingEnd_eq, fun index inside => summed.mean inside⟩

/-- A profile with one attenuation in all groups. -/
def levelProfile (level : UInt8) : List UInt8 :=
  PackedRecord.toList
    { ethernet := ethernetHeader broadcast localcast homeplugMtype
      homeplug := homePlugHeader1 homeplugMmv (cmAttenProfile ||| mmtypeInd)
      fields :=
        { pevMac := zeroSession.pevMac
          numGroups := 58
          rsvd := 0
          aag := fieldVector 255 (List.replicate 58 level) } :
      Mme CmAttenProfileIndicate }

/-- An EVSE that waits for two sounds. -/
def twoSoundsSession : SlacSession :=
  { zeroSession with
    numSounds := 2
    timeOut := 6 }

/-- Two profiles, of 40 and 50 dB. -/
def twoSounds : List PacketRead :=
  [.packet (levelProfile 40) 20, .packet (levelProfile 50) 40]

/-- Whether a call has returned zero. -/
def CallProgress.succeeds : CallProgress → Bool
  | .returns zero => zero
  | _ => false

theorem CallProgress.succeeds_iff (progress : CallProgress) :
    progress.succeeds = true ↔ progress = .returns true := by
  cases progress <;> simp [succeeds]

theorem exists_evseSoundingRun_twoSounds :
    ∃ step,
      evseSoundingRun { twoSoundsSession with sounds := 0, aag := zeroBuffer }
          zeroBuffer twoSounds = some step ∧
        step.progress = .returns true := by
  have returns :
      (evseSoundingRun
        { twoSoundsSession with sounds := 0, aag := zeroBuffer } zeroBuffer
        twoSounds).any
        (fun step => step.progress.succeeds) = true := by
    decide +kernel
  obtain ⟨step, called, returned⟩ := (Option.any_eq_true _ _).mp returns
  exact ⟨step, called, step.progress.succeeds_iff.mp returned⟩

theorem evseCmMnbcSound_means_twoSounds :
    ∃ step,
      evseSoundingRun { twoSoundsSession with sounds := 0, aag := zeroBuffer }
          zeroBuffer twoSounds = some step ∧
        step.session.sounds = 2 ∧
        (step.session.aag.contents.getD 57 0).toNat = 45 := by
  obtain ⟨step, called, returned⟩ := exists_evseSoundingRun_twoSounds
  obtain ⟨session, means⟩ :=
    (@evseCmMnbcSound_means twoSoundsSession _ _ called).2 returned
  have sounds :
      step.session.sounds =
        (twoSounds.filterMap (ownProfile twoSoundsSession.pevMac)).length := by
    rw [session]
  exact ⟨step, called, sounds.trans (by decide +kernel),
    (means 57 (by decide)).trans (by decide +kernel)⟩

/-! ## The decision of the PEV -/

/-- The groups that an indication carries. -/
def CmAttenCharIndicate.groups (indicate : CmAttenCharIndicate) :
    List UInt8 :=
  indicate.aag.toList.take indicate.numGroups.toNat

/-- The session of a PEV that has accepted an attenuation profile. -/
def SlacSession.withProfile (session : SlacSession) (evse : EtherAddr)
    (indicate : CmAttenCharIndicate) : SlacSession :=
  { session with
    evseMac := evse
    numSounds := indicate.numSounds
    numGroups := indicate.numGroups }

theorem pevCmAttenChar_bytes {host : EtherAddr} {frame : SlacFrame}
    {indicate : CmAttenCharIndicate} {session : SlacSession} {sendOk : Bool}
    (received : frame.fields = .attenCharIndicate indicate) :
    pevCmAttenChar host session (some frame.bytes) sendOk =
      if session.runId.accepts indicate.runId then
        match session.aag.store 0 indicate.groups with
        | none => (session.withProfile frame.host indicate).quiet .overruns
        | some aag =>
            let session :=
              { session.withProfile frame.host indicate with aag := aag }
            session.send sendOk (pevAttenCharResponse host session)
              (.returns true)
      else session.quiet (.goesOn .entered) := by
  have read :
      ofList (R := Mme CmAttenCharIndicate) frame.bytes =
        frame.message indicate := by
    rw [SlacFrame.bytes, received, ofList_frameOf (by decide)]
  rw [pevCmAttenChar, read]
  rfl

/-- The mean over the groups of the means over the profiles. -/
def attenuation (profiles : List CmAttenProfileIndicate) : ℕ :=
  ((List.range slacGroups).map fun index =>
    (profiles.map fun profile => profile.group index).sum /
      profiles.length).sum / slacGroups

theorem groups_evseAttenCharIndicate {contents : List UInt8} {numGroups : ℕ}
    (inside : numGroups ≤ contents.length) (small : numGroups ≤ 255) :
    ((fieldVector 255 (contents.take numGroups)).toList.take numGroups) =
      contents.take numGroups := by
  rw [fieldVector]
  have length : (contents.take numGroups).length = numGroups := by
    rw [List.length_take, min_eq_left inside]
  change ((contents.take numGroups ++ List.replicate 255 0).take 255).take
    numGroups = _
  rw [List.take_take, min_eq_left small, List.take_left' length]

/-- `slac_connect` accepts a positive mean within the limit. -/
theorem slacConnect_eq {session : SlacSession} {mean : ℕ}
    (inside : session.numGroups.toNat ≤ slacGroups)
    (computed :
      ((session.aag.contents.take session.numGroups.toNat).map
        UInt8.toNat).sum / session.numGroups.toNat = mean) :
    slacConnect session = decide (0 < mean ∧ mean ≤ session.limit) := by
  rw [slacConnect, if_neg (Nat.not_lt.mpr inside)]
  rcases Nat.eq_zero_or_pos session.numGroups.toNat with none_ | some_
  · rw [none_, Nat.div_zero] at computed
    subst computed
    rw [none_, if_neg (Nat.lt_irrefl 0)]
    rfl
  · rw [if_pos some_, computed]
    dsimp only
    split_ifs with exceeded
    · exact (decide_eq_false (by omega)).symm
    · exact decide_eq_decide.mpr (by omega)

section Decision

variable {evse pev session : SlacSession}
  {profiles : List CmAttenProfileIndicate} {aag : FixedBuffer ℕ slacGroups}

theorem ProfilesSummed.numGroups_le
    (summed : ProfilesSummed evse profiles session aag)
    (bounded : evse.numGroups.toNat ≤ slacGroups) :
    (soundingEnd session aag).numGroups.toNat ≤ slacGroups := by
  rw [summed.soundingEnd_eq]
  dsimp only
  split_ifs
  · exact bounded
  · decide

/-- The mean that a PEV computes from the groups of the session. -/
theorem ProfilesSummed.attenuation_eq
    (summed : ProfilesSummed evse profiles session aag) :
    (((soundingEnd session aag).aag.contents.take
      (soundingEnd session aag).numGroups.toNat).map UInt8.toNat).sum /
        (soundingEnd session aag).numGroups.toNat = attenuation profiles := by
  cases profiles with
  | nil =>
      have zeros : session.aag = zeroBuffer := by rw [summed.session]
      have count : session.sounds = 0 := by
        rw [summed.session]
        rfl
      rw [soundingEnd, if_neg (by omega), zeros, zeroBuffer, List.take_replicate,
        List.map_replicate, List.sum_replicate]
      exact (Nat.zero_div _).trans (by decide)
  | cons profile profiles =>
      have numGroups :
          (soundingEnd session aag).numGroups = UInt8.ofNat slacGroups := by
        rw [summed.soundingEnd_eq]
        rfl
      have full := (soundingEnd session aag).aag.length_contents
      rw [numGroups, show (UInt8.ofNat slacGroups).toNat = slacGroups from rfl,
        List.take_of_length_le full.le, attenuation]
      congr 2
      refine List.ext_getElem (by simpa using full) fun index here there => ?_
      rw [List.length_map, full] at here
      rw [List.getElem_map, List.getElem_map, List.getElem_range,
        ← summed.mean here, List.getD_eq_getElem]

/-- What a PEV decides about an EVSE depends on the profiles alone that the
modem of the EVSE has reported: `slac_connect` accepts the indication that
`evse_cm_atten_char` sends after the sounds exactly if the mean over the groups
of the means over the profiles is positive and within the limit of the PEV.  An
EVSE that has heard nothing is never accepted. -/
theorem slacConnect_attenuation {reads : List PacketRead} {step : CallStep}
    {evseHost pevHost : EtherAddr}
    (bounded : evse.numGroups.toNat ≤ slacGroups)
    (called : evseSoundingRun { evse with sounds := 0, aag := zeroBuffer }
      zeroBuffer reads = some step)
    (returned : step.progress = .returns true)
    (sameRun : pev.runId = evse.runId) :
    let profiles := reads.filterMap (ownProfile evse.pevMac)
    ∃ after response,
      pevCmAttenChar pevHost pev
        (some (evseAttenCharIndicate evseHost step.session).bytes) true =
          ⟨after, [response], .returns true⟩ ∧
        slacConnect after =
          decide (0 < attenuation profiles ∧
            attenuation profiles ≤ pev.limit) := by
  have outcome := (profilesSummed_nil evse).run called
  rw [List.nil_append, SoundingOutcome, returned] at outcome
  obtain ⟨session, aag, summed, same⟩ := outcome
  have inside := summed.numGroups_le bounded
  have mean := summed.attenuation_eq
  have runId : (soundingEnd session aag).runId = evse.runId := by
    rw [summed.soundingEnd_eq]
  rw [same]
  generalize soundingEnd session aag = sounded at inside mean runId
  have groups := groups_evseAttenCharIndicate
    (inside.trans_eq sounded.aag.length_contents.symm)
    (inside.trans (by decide))
  have length :
      (sounded.aag.contents.take sounded.numGroups.toNat).length =
        sounded.numGroups.toNat := by
    rw [List.length_take, sounded.aag.length_contents, min_eq_left inside]
  obtain ⟨stored, store⟩ :
      ∃ stored, pev.aag.store 0
        (sounded.aag.contents.take sounded.numGroups.toNat) = some stored :=
    FixedBuffer.exists_store (by rw [length]; omega)
  have front := FixedBuffer.take_contents_store (Nat.zero_le _) store
  rw [Nat.zero_add, length, List.take_zero, List.nil_append] at front
  rw [pevCmAttenChar_bytes rfl,
    if_pos ((RunId.accepts_iff _ _).mpr (sameRun.trans runId.symm)),
    CmAttenCharIndicate.groups, groups, store]
  refine ⟨_, _, rfl, ?_⟩
  refine slacConnect_eq inside (Eq.trans ?_ mean)
  exact congrArg
    (fun groups => (groups.map UInt8.toNat).sum / sounded.numGroups.toNat)
    front

/-- The two profiles are accepted by a limit of 45 dB. -/
theorem slacConnect_attenuation_twoSounds :
    ∃ step after response,
      evseSoundingRun { twoSoundsSession with sounds := 0, aag := zeroBuffer }
          zeroBuffer twoSounds = some step ∧
        pevCmAttenChar broadcast { zeroSession with limit := 45 }
            (some (evseAttenCharIndicate localcast step.session).bytes) true =
          ⟨after, [response], .returns true⟩ ∧
        slacConnect after = true := by
  obtain ⟨step, called, returned⟩ := exists_evseSoundingRun_twoSounds
  obtain ⟨after, response, answered, decision⟩ :=
    @slacConnect_attenuation twoSoundsSession { zeroSession with limit := 45 }
      _ _ localcast broadcast (by decide) called returned rfl
  exact ⟨step, after, response, called, answered,
    decision.trans (by decide +kernel)⟩

end Decision

end OpenRTH
