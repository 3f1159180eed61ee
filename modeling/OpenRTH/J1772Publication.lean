import OpenRTH.JsonDocuments

/-!
# The published status

`update_J1772_status` writes the struct into the members of a JSON object and
the object into a text.  Whatever the object held before, `parse_J1772_status`
takes over from this text the values that the struct had, and the state whose
name it had.
-/

namespace OpenRTH

/-! ## The status object -/

/-- `operator[]` and the assignment to the member. -/
def JsonValue.assign (root : JsonValue) (key : CString) (value : JsonValue) :
    Except LogicError JsonValue :=
  match root with
  | .null => .ok (.object [(key, value)])
  | .object members => .ok (.object (setMember key value members))
  | _ => .error .requiresObject

/-- Assignments to members, one after the other. -/
def JsonValue.assignAll (root : JsonValue)
    (assignments : List (CString × JsonValue)) : Except LogicError JsonValue :=
  assignments.foldlM (fun root assigned => root.assign assigned.1 assigned.2)
    root

/-- `init_json`, at the start of the program. -/
def initJson : Except LogicError JsonValue :=
  JsonValue.null.assignAll
    [("Vpilot".toList, .int 0), ("Vpilot_min".toList, .int 0),
      ("Vprox".toList, .int 0), ("pilot_duty_cycle".toList, .int 0),
      ("pilot_freq".toList, .int 0),
      ("pilot_state_name".toList, .string "A1".toList)]

/-- The members to which `update_J1772_status` assigns. -/
def statusAssignments (j1772 : J1772) : List (CString × JsonValue) :=
  [("Vpilot".toList, .real j1772.vpilot),
    ("Vpilot_min".toList, .real j1772.vpilotMin),
    ("Vprox".toList, .real j1772.vprox),
    ("pilot_duty_cycle".toList, .real j1772.pilotDutyCycle),
    ("pilot_freq".toList, .int (Int64.ofInt j1772.pilotFreq)),
    ("pilot_state_name".toList, .string j1772.pilotStateName)]

/-- `update_J1772_status`, with the object and the text that it leaves. -/
def updateJ1772Status (status : JsonValue) (j1772 : J1772) :
    Except LogicError (JsonValue × CString) := do
  let status ← status.assignAll (statusAssignments j1772)
  .ok (status, jsonToString status)

/-- The object before an update that follows the start and others. -/
def statusAfter (updates : List J1772) : Except LogicError JsonValue := do
  let status ← initJson
  updates.foldlM
    (fun status j1772 => (updateJ1772Status status j1772).map Prod.fst) status

/-- The names of the fields, which are in the order of the members. -/
def statusKeys : List CString :=
  ["Vpilot".toList, "Vpilot_min".toList, "Vprox".toList,
    "pilot_duty_cycle".toList, "pilot_freq".toList, "pilot_state_name".toList]

theorem statusKeys_ordered : statusKeys.Pairwise (· < ·) := by
  decide +kernel

/-- An object whose members have the names of the fields. -/
def HasStatusKeys (status : JsonValue) : Prop :=
  ∃ members : List (CString × JsonValue),
    status = .object members ∧ members.map Prod.fst = statusKeys

theorem setMember_of_mem {key : CString} {value old : JsonValue}
    {front back : List (CString × JsonValue)}
    (before : ∀ member ∈ front, member.1 < key) :
    setMember key value (front ++ (key, old) :: back) =
      front ++ (key, value) :: back := by
  induction front with
  | nil =>
      have irrefl : ¬key < key := lt_irrefl key
      rw [List.nil_append, setMember, if_neg irrefl, if_pos rfl,
        List.nil_append]
  | cons member front ih =>
      obtain ⟨less, others⟩ := List.forall_mem_cons.mp before
      rw [List.cons_append, setMember, if_pos less, ih others,
        List.cons_append]

/-- Assignments to all members of an object in their order. -/
theorem assignAll_members {front members : List (CString × JsonValue)}
    {assignments : List (CString × JsonValue)}
    (same : members.map Prod.fst = assignments.map Prod.fst)
    (ordered : ((front ++ assignments).map Prod.fst).Pairwise (· < ·)) :
    JsonValue.assignAll (.object (front ++ members)) assignments =
      .ok (.object (front ++ assignments)) := by
  induction assignments generalizing front members with
  | nil =>
      obtain rfl : members = [] := List.map_eq_nil_iff.mp same
      rfl
  | cons assigned assignments ih =>
      obtain ⟨⟨key, old⟩, members, rfl, sameKey, sameOthers⟩ :=
        List.map_eq_cons_iff.mp same
      obtain ⟨name, value⟩ := assigned
      obtain rfl : key = name := sameKey
      have before : ∀ member ∈ front, member.1 < key := by
        intro member inFront
        rw [List.map_append, List.pairwise_append] at ordered
        exact ordered.2.2 _ (List.mem_map_of_mem inFront) _
          List.mem_cons_self
      have next := @ih (front ++ [(key, value)]) members sameOthers
        (by simpa using ordered)
      rw [JsonValue.assignAll, List.foldlM_cons, JsonValue.assign,
        setMember_of_mem before]
      simpa [JsonValue.assignAll, bind, Except.bind] using next

theorem assignAll_behind {front : List (CString × JsonValue)}
    {assignments : List (CString × JsonValue)}
    (ordered : ((front ++ assignments).map Prod.fst).Pairwise (· < ·)) :
    JsonValue.assignAll (.object front) assignments =
      .ok (.object (front ++ assignments)) := by
  induction assignments generalizing front with
  | nil => rw [List.append_nil]; rfl
  | cons assigned assignments ih =>
      have before : ∀ member ∈ front, member.1 < assigned.1 := by
        intro member inFront
        rw [List.map_append, List.pairwise_append] at ordered
        exact ordered.2.2 _ (List.mem_map_of_mem inFront) _
          List.mem_cons_self
      have next := @ih (front ++ [assigned]) (by simpa using ordered)
      rw [JsonValue.assignAll, List.foldlM_cons, JsonValue.assign,
        setMember_of_lt before]
      simpa [JsonValue.assignAll, bind, Except.bind] using next

theorem exists_initJson :
    ∃ status, initJson = .ok status ∧ HasStatusKeys status :=
  ⟨_, @assignAll_behind [_] _ statusKeys_ordered, _, rfl, rfl⟩

theorem assignAll_statusAssignments {status : JsonValue}
    (keys : HasStatusKeys status) (j1772 : J1772) :
    status.assignAll (statusAssignments j1772) =
      .ok (.object (statusAssignments j1772)) := by
  obtain ⟨members, rfl, same⟩ := keys
  exact @assignAll_members [] _ _ same statusKeys_ordered

theorem updateJ1772Status_eq {status : JsonValue}
    (keys : HasStatusKeys status) (j1772 : J1772) :
    updateJ1772Status status j1772 =
      .ok (.object (statusAssignments j1772),
        jsonToString (.object (statusAssignments j1772))) := by
  rw [updateJ1772Status, assignAll_statusAssignments keys]
  rfl

/-- After any updates, the object has its six members. -/
theorem exists_statusAfter (updates : List J1772) :
    ∃ status, statusAfter updates = .ok status ∧ HasStatusKeys status := by
  obtain ⟨start, initial, keys⟩ := exists_initJson
  rw [statusAfter, initial]
  simp only [bind, Except.bind]
  clear initial
  induction updates generalizing start with
  | nil => exact ⟨start, rfl, keys⟩
  | cons j1772 updates ih =>
      obtain ⟨status, ran, same⟩ := ih _ ⟨statusAssignments j1772, rfl, rfl⟩
      refine ⟨status, ?_, same⟩
      rw [List.foldlM_cons, updateJ1772Status_eq keys]
      exact ran

/-! ## The members that are read -/

/-- The values that the types of the published fields hold. -/
structure J1772.InRange (j1772 : J1772) : Prop where
  vpilot : IsDouble j1772.vpilot
  vpilotMin : IsDouble j1772.vpilotMin
  vprox : IsDouble j1772.vprox
  pilotDutyCycle : IsDouble j1772.pilotDutyCycle
  least : -2 ^ 31 ≤ j1772.pilotFreq
  greatest : j1772.pilotFreq ≤ 2 ^ 31 - 1

theorem J1772.InRange.wellFormed {j1772 : J1772} (inRange : j1772.InRange) :
    JsonValue.WellFormed (.object (statusAssignments j1772)) := by
  refine .object (List.pairwise_map.mp statusKeys_ordered) ?_
  simp only [statusAssignments, List.forall_mem_cons]
  exact ⟨.real inRange.vpilot, .real inRange.vpilotMin, .real inRange.vprox,
    .real inRange.pilotDutyCycle, .int _, .string _, List.forall_mem_nil _⟩

theorem two_pow_dvd_of_isDouble {n : ℤ} (double : IsDouble n) :
    (2 : ℤ) ^ (Nat.log2 n.natAbs - 52) ∣ n := by
  by_cases zero : n = 0
  · exact zero ▸ dvd_zero _
  rcases Nat.eq_zero_or_pos (Nat.log2 n.natAbs - 52) with none | some
  · rw [none, pow_zero]
    exact one_dvd n
  have abs : |(n : ℚ)| = (n.natAbs : ℚ) := by
    rw [Nat.cast_natAbs, Int.cast_abs]
  have unit : BinaryFloat.unitExponent 53 (-1074) (n : ℚ) =
      ((Nat.log2 n.natAbs - 52 : ℕ) : ℤ) := by
    rw [BinaryFloat.unitExponent, abs, Int.log_natCast,
      ← Nat.log2_eq_log_two]
    omega
  obtain ⟨m, multiple⟩ := double.1.multiple (by exact_mod_cast zero)
  rw [unit, zpow_natCast] at multiple
  exact ⟨m, by rw [mul_comm]; exact_mod_cast multiple⟩

theorem roundToDouble_of_isDouble {n : ℤ} (double : IsDouble n) :
    roundToDouble n = n := by
  have dvd := two_pow_dvd_of_isDouble double
  unfold roundToDouble
  dsimp only
  rw [Int.emod_eq_zero_of_dvd dvd, if_pos (.inl (by simp)),
    Int.ediv_mul_cancel dvd]

theorem asDouble_ofInteger {n : ℤ} (double : IsDouble n)
    (small : n.natAbs < 10 ^ 17) :
    (JsonValue.ofInteger n).isNumeric = true ∧
      (JsonValue.ofInteger n).asDouble = .ok (n : ℚ) := by
  unfold JsonValue.ofInteger
  split_ifs
  · refine ⟨rfl, ?_⟩
    rw [JsonValue.asDouble, Int64.toInt_ofInt_of_le (by omega) (by omega),
      roundToDouble_of_isDouble double]
  · have fits : n.toNat < UInt64.size := by
      unfold UInt64.size
      omega
    refine ⟨by simp [JsonValue.isNumeric, JsonValue.isIntegral,
      JsonValue.isUInt64], ?_⟩
    rw [JsonValue.asDouble, UInt64.toNat_ofNat_of_lt' fits,
      Int.toNat_of_nonneg (by omega), roundToDouble_of_isDouble double]

theorem asDouble_ofReal {x : ℚ} (double : IsDouble x) :
    (JsonValue.ofReal x).isNumeric = true ∧
      (JsonValue.ofReal x).asDouble = .ok x := by
  unfold JsonValue.ofReal
  split_ifs with integer
  · obtain ⟨whole, small⟩ := integer
    have same : (x.num : ℚ) = x := (Rat.den_eq_one_iff x).mp whole
    rw [← same] at double
    have converted := asDouble_ofInteger double small
    rwa [same] at converted
  · exact ⟨by simp [JsonValue.isNumeric, JsonValue.isDouble], rfl⟩

theorem find_of_mem {members : List (CString × JsonValue)}
    (ordered : (members.map Prod.fst).Pairwise (· < ·))
    {member : CString × JsonValue} (found : member ∈ members) :
    (JsonValue.object members).find member.1 = .ok (some member.2) := by
  obtain ⟨front, back, rfl⟩ := List.append_of_mem found
  rw [List.map_append, List.pairwise_append] at ordered
  rw [JsonValue.find]
  congr 1
  refine List.lookup_eq_some_iff.mpr ⟨front, back, rfl, fun other inFront => ?_⟩
  have less : other.1 < member.1 := ordered.2.2 _
    (List.mem_map_of_mem inFront) _ List.mem_cons_self
  simpa using (ne_of_lt less).symm

theorem parseField_of_find {α : Type} {isType : JsonValue → Bool}
    {asType : JsonValue → Except LogicError α} {key : CString}
    {store : J1772 → α → J1772} {root value : JsonValue} {converted : α}
    (found : root.find key = .ok (some value)) (hasType : isType value = true)
    (converts : asType value = .ok converted) (j1772 : J1772) :
    parseField isType asType key store root j1772 =
      (store j1772 converted, none) := by
  simp [parseField, found, hasType, converts]

/-- The members that are read from the published text. -/
def readAssignments (j1772 : J1772) : List (CString × JsonValue) :=
  [("Vpilot".toList, .ofReal j1772.vpilot),
    ("Vpilot_min".toList, .ofReal j1772.vpilotMin),
    ("Vprox".toList, .ofReal j1772.vprox),
    ("pilot_duty_cycle".toList, .ofReal j1772.pilotDutyCycle),
    ("pilot_freq".toList, .int (Int64.ofInt j1772.pilotFreq)),
    ("pilot_state_name".toList, .string j1772.pilotStateName)]

theorem normal_statusAssignments {j1772 : J1772} (inRange : j1772.InRange) :
    (JsonValue.object (statusAssignments j1772)).normal =
      .object (readAssignments j1772) := by
  have least := inRange.least
  have greatest := inRange.greatest
  have freq : JsonValue.ofInteger (Int64.ofInt j1772.pilotFreq).toInt =
      .int (Int64.ofInt j1772.pilotFreq) := by
    rw [Int64.toInt_ofInt_of_le (by omega) (by omega)]
    exact if_pos (by omega)
  simp only [statusAssignments, JsonValue.normal, JsonValue.normalMembers,
    JsonValue.normalMember, freq, readAssignments]

/-- The struct with the values of another that was published. -/
def J1772.takeOver (before j1772 : J1772) : J1772 :=
  { before with
    vpilot := j1772.vpilot
    vpilotMin := j1772.vpilotMin
    vprox := j1772.vprox
    pilotDutyCycle := j1772.pilotDutyCycle
    pilotFreq := j1772.pilotFreq
    pilotState := pilotStateOfName j1772.pilotStateName
    pilotStateName := j1772.pilotStateName }

theorem run_statusFields {j1772 : J1772} (inRange : j1772.InRange)
    (before : J1772) :
    EarlyReturn.run (statusFields (.object (readAssignments j1772))) before =
      ({ before with
        vpilot := j1772.vpilot
        vpilotMin := j1772.vpilotMin
        vprox := j1772.vprox
        pilotDutyCycle := j1772.pilotDutyCycle
        pilotFreq := j1772.pilotFreq
        pilotStateName := j1772.pilotStateName }, none) := by
  have find {n : ℕ} {member : CString × JsonValue}
      (found : (readAssignments j1772)[n]? = some member) :
      (JsonValue.object (readAssignments j1772)).find member.1 =
        .ok (some member.2) :=
    find_of_mem (show ((readAssignments j1772).map Prod.fst).Pairwise (· < ·)
      from statusKeys_ordered) (List.mem_of_getElem? found)
  have double {n : ℕ} {key : CString} {x : ℚ}
      (found : (readAssignments j1772)[n]? = some (key, .ofReal x))
      (isDouble : IsDouble x) (store : J1772 → ℚ → J1772) (state : J1772) :
      parseDoubleField key store (.object (readAssignments j1772)) state =
        (store state x, none) := by
    obtain ⟨numeric, converts⟩ := asDouble_ofReal isDouble
    exact parseField_of_find (find found) numeric converts state
  have least := inRange.least
  have greatest := inRange.greatest
  have value := Int64.toInt_ofInt_of_le (n := j1772.pilotFreq)
    (by omega) (by omega)
  have isInt : (JsonValue.int (Int64.ofInt j1772.pilotFreq)).isInt = true := by
    rw [JsonValue.isInt, value, decide_eq_true_eq]
    exact ⟨least, greatest⟩
  have asInt : (JsonValue.int (Int64.ofInt j1772.pilotFreq)).asInt =
      .ok j1772.pilotFreq := by
    rw [JsonValue.asInt, if_pos isInt, value]
  have isString : (JsonValue.string j1772.pilotStateName).isString = true :=
    rfl
  have asString : (JsonValue.string j1772.pilotStateName).asString =
      .ok j1772.pilotStateName := rfl
  have freq (store : J1772 → ℤ → J1772) (state : J1772) :
      parseIntField "pilot_freq".toList store
          (.object (readAssignments j1772)) state =
        (store state j1772.pilotFreq, none) :=
    parseField_of_find (find (n := 4) rfl) isInt asInt state
  have name (store : J1772 → CString → J1772) (state : J1772) :
      parseStringField "pilot_state_name".toList store
          (.object (readAssignments j1772)) state =
        (store state j1772.pilotStateName, none) :=
    parseField_of_find (find (n := 5) rfl) isString asString state
  unfold statusFields
  rw [EarlyReturn.run_cons_of_passes (double (n := 0) rfl inRange.vpilot _ _),
    EarlyReturn.run_cons_of_passes (double (n := 1) rfl inRange.vpilotMin _ _),
    EarlyReturn.run_cons_of_passes (double (n := 2) rfl inRange.vprox _ _),
    EarlyReturn.run_cons_of_passes
      (double (n := 3) rfl inRange.pilotDutyCycle _ _),
    EarlyReturn.run_cons_of_passes (freq _ _),
    EarlyReturn.run_cons_of_passes (name _ _)]
  rfl

/-! ## What a subscriber takes over -/

/-- `Reader::parse` as it is called for a message without comments and negative
zeros. -/
def parseMessage (message : CString) : Option JsonValue :=
  (readerParse message).toOption

theorem readerParse_published {j1772 : J1772} (inRange : j1772.InRange) :
    parseMessage (jsonToString (.object (statusAssignments j1772))) =
      some (.object (readAssignments j1772)) := by
  have levels : JsonValue.nestedAtMost stackLimit
      (.object (statusAssignments j1772)) = true := rfl
  rw [parseMessage, inRange.wellFormed.readerParse_eq, if_pos levels,
    normal_statusAssignments inRange]
  rfl

theorem cString_jsonToString {value : JsonValue}
    (wellFormed : value.WellFormed) :
    cString (jsonToString value) = jsonToString value := by
  refine List.takeWhile_eq_self_iff.mpr fun symbol member => ?_
  have visible := wellFormed.visible symbol member
  rw [decide_eq_true_eq]
  rintro rfl
  exact absurd visible (by decide)

/-- After any updates, the text of the next one hands over the values of the
struct to `parse_J1772_status`, whatever the struct there held. -/
theorem publishedStatus_takenOver (updates : List J1772) {j1772 : J1772}
    (inRange : j1772.InRange) (before : J1772) :
    ∃ status after text, statusAfter updates = .ok status ∧
      updateJ1772Status status j1772 = .ok (after, text) ∧
      parseJ1772Status parseMessage (cString text) before =
        (before.takeOver j1772, none) := by
  obtain ⟨status, ran, keys⟩ := exists_statusAfter updates
  refine ⟨status, _, _, ran, updateJ1772Status_eq keys j1772, ?_⟩
  rw [cString_jsonToString inRange.wellFormed, parseJ1772Status,
    readerParse_published inRange]
  simp only [run_statusFields inRange]
  rfl

/-- A vehicle is charged while the subscriber still has the first state. -/
theorem publishedStatus_takenOver_charging :
    ∃ status after text,
      statusAfter [(PilotGlobals.initial true).j1772] = .ok status ∧
      updateJ1772Status status
          { (PilotGlobals.initial true).j1772 with
            vpilot := 6
            vpilotMin := -12
            vprox := 3 / 2
            pilotDutyCycle := 213 / 4
            pilotFreq := 1000
            pilotState := PilotState.C2.value
            pilotStateName := ['C', '2'] } = .ok (after, text) ∧
      parseJ1772Status parseMessage (cString text)
          (PilotGlobals.initial true).j1772 =
        ((PilotGlobals.initial true).j1772.takeOver
          { (PilotGlobals.initial true).j1772 with
            vpilot := 6
            vpilotMin := -12
            vprox := 3 / 2
            pilotDutyCycle := 213 / 4
            pilotFreq := 1000
            pilotState := PilotState.C2.value
            pilotStateName := ['C', '2'] }, none) := by
  have quarters (n : ℤ) (small : |n| < 2 ^ 53) : IsDouble (n / 4) := by
    have double := isDouble_div_two_pow small (show 2 ≤ 1074 by norm_num)
    norm_num at double
    exact double
  have six := quarters 24 (by norm_num)
  have minusTwelve := quarters (-48) (by norm_num)
  have half := quarters 6 (by norm_num)
  have duty := quarters 213 (by norm_num)
  norm_num at six minusTwelve half duty
  exact publishedStatus_takenOver [(PilotGlobals.initial true).j1772]
    ⟨six, minusTwelve, half, duty, by norm_num, by norm_num⟩
    (PilotGlobals.initial true).j1772

end OpenRTH
