import Mathlib.Data.Char
import Mathlib.Data.List.Lex
import OpenRTH.JsonRoundTrip

/-!
# What the reader accepts

The values that the reader makes are ordered and bounded as those of the writer
are; therefore every document that is accepted can be written and read again.
-/

namespace OpenRTH

/-- What a reader of values makes has a property. -/
def ReadsOnly (property : JsonValue → Prop) (readValue : CString → ReadValue) :
    Prop :=
  ∀ text value rest, readValue text = .ok (value, rest) → property value

/-! ## Members in their order -/

theorem mem_setMember {key : CString} {value : JsonValue}
    {members : List (CString × JsonValue)} {member : CString × JsonValue}
    (found : member ∈ setMember key value members) :
    member = (key, value) ∨ member ∈ members := by
  induction members with
  | nil => exact .inl (List.mem_singleton.mp found)
  | cons first members ih =>
      rw [setMember] at found
      split_ifs at found with less same
      · rcases List.mem_cons.mp found with rfl | found
        · exact .inr List.mem_cons_self
        · exact (ih found).imp_right (List.mem_cons_of_mem _)
      · exact (List.mem_cons.mp found).imp_right (List.mem_cons_of_mem _)
      · exact List.mem_cons.mp found

theorem setMember_ordered (key : CString) (value : JsonValue)
    {members : List (CString × JsonValue)}
    (ordered : members.Pairwise fun first second => first.1 < second.1) :
    (setMember key value members).Pairwise
      fun first second => first.1 < second.1 := by
  induction members with
  | nil => exact List.pairwise_singleton _ _
  | cons first members ih =>
      obtain ⟨behind, others⟩ := List.pairwise_cons.mp ordered
      rw [setMember]
      split_ifs with less same
      · refine List.pairwise_cons.mpr ⟨fun member found => ?_, ih others⟩
        rcases mem_setMember found with rfl | found
        · exact less
        · exact behind member found
      · exact List.pairwise_cons.mpr ⟨same ▸ behind, others⟩
      · have greater : key < first.1 :=
          lt_of_le_of_ne (not_lt.mp less) (Ne.symm same)
        refine List.pairwise_cons.mpr ⟨fun member found => ?_, ordered⟩
        rcases List.mem_cons.mp found with rfl | found
        · exact greater
        · exact greater.trans (behind member found)

/-! ## What the loops make -/

section Loops

variable {property : JsonValue → Prop} {readValue : CString → ReadValue}
  {text rest : CString} {value : JsonValue}

theorem readElements_ok (reads : ReadsOnly property readValue) {fuel : ℕ}
    {elements : List JsonValue} (all : ∀ element ∈ elements, property element)
    (read : readElements readValue fuel elements text = .ok (value, rest)) :
    ∃ elements, value = .array elements ∧
      ∀ element ∈ elements, property element := by
  induction fuel generalizing elements text with
  | zero => cases read
  | succ fuel ih =>
      rw [readElements] at read
      cases first : readValue text with
      | error failure => rw [first] at read; cases read
      | ok pair =>
          obtain ⟨element, behind⟩ := pair
          have good := reads _ _ _ first
          have longer : ∀ element' ∈ elements ++ [element],
              property element' := by
            simpa [or_imp, forall_and] using ⟨all, good⟩
          simp only [first, bind, Except.bind] at read
          split_ifs at read
          · cases read
            exact ⟨_, rfl, longer⟩
          · exact ih longer read

theorem readMember_ok (reads : ReadsOnly property readValue) {token : Token}
    {member : CString × JsonValue}
    (read : readMember readValue token text = .ok (member, rest)) :
    property member.2 := by
  unfold readMember at read
  split_ifs at read
  split at read
  · cases read
  · dsimp only at read
    split_ifs at read
    cases valueRead : readValue (readToken text).2 with
    | error failure => rw [valueRead] at read; cases read
    | ok pair =>
        rw [valueRead] at read
        cases read
        exact reads _ _ _ valueRead

theorem readMembers_ok (reads : ReadsOnly property readValue) {fuel : ℕ}
    {name : CString} {members : List (CString × JsonValue)}
    (ordered : members.Pairwise fun first second => first.1 < second.1)
    (all : ∀ member ∈ members, property member.2)
    (read : readMembers readValue fuel name members text =
      .ok (value, rest)) :
    ∃ members, value = .object members ∧
      members.Pairwise (fun first second => first.1 < second.1) ∧
      ∀ member ∈ members, property member.2 := by
  induction fuel generalizing name members text with
  | zero => cases read
  | succ fuel ih =>
      rw [readMembers] at read
      dsimp only at read
      split_ifs at read
      · cases read
        exact ⟨_, rfl, ordered, all⟩
      · cases memberRead : readMember readValue (readToken text).1
            (readToken text).2 with
        | error failure => rw [memberRead] at read; cases read
        | ok pair =>
            obtain ⟨⟨key, made⟩, behind⟩ := pair
            have good := readMember_ok reads memberRead
            have longer : ∀ member ∈ setMember key made members,
                property member.2 := by
              intro member found
              rcases mem_setMember found with rfl | found
              · exact good
              · exact all member found
            have inOrder := setMember_ordered key made ordered
            simp only [memberRead, bind, Except.bind] at read
            cases commaRead : readComma behind with
            | error failure => rw [commaRead] at read; cases read
            | ok pair =>
                obtain ⟨ends, after⟩ := pair
                simp only [commaRead] at read
                split_ifs at read
                · cases read
                  exact ⟨_, rfl, inOrder, longer⟩
                · exact ih inOrder longer read

end Loops

/-! ## Accepted documents -/

theorem decodedNumber_ok {token text rest : CString} {value : JsonValue}
    (read : decodedNumber token text = .ok (value, rest)) :
    decodeNumber token = some value := by
  unfold decodedNumber at read
  split at read
  · cases read
  · rename_i number decoded
    split_ifs at read
    cases read
    exact decoded

/-- A value without elements and members. -/
def JsonValue.IsScalar : JsonValue → Prop
  | .array _ => False
  | .object _ => False
  | _ => True

theorem JsonValue.IsScalar.nestedAtMost {value : JsonValue}
    (scalar : value.IsScalar) (depth : ℕ) :
    value.nestedAtMost (depth + 1) = true := by
  cases value <;> first | rfl | cases scalar

theorem wellFormed_of_decodeNumber {token : CString} {value : JsonValue}
    (decoded : decodeNumber token = some value) :
    value.WellFormed ∧ value.IsScalar := by
  have double (real : decodeDouble token = some value) :
      value.WellFormed ∧ value.IsScalar := by
    obtain ⟨number, read, rfl⟩ := Option.map_eq_some_iff.mp real
    exact ⟨.real (isDouble_of_readDouble read), trivial⟩
  unfold decodeNumber at decoded
  split_ifs at decoded
  · split at decoded
    · exact double decoded
    · cases decoded
      exact ⟨.int _, trivial⟩
  · split at decoded
    · exact double decoded
    · split_ifs at decoded <;> cases decoded
      · exact ⟨.int _, trivial⟩
      · exact ⟨.uint _, trivial⟩

/-- The values that the reader makes with so many levels on the stack. -/
def JsonValue.Readable (depth : ℕ) (value : JsonValue) : Prop :=
  value.WellFormed ∧ value.nestedAtMost depth = true

theorem readArray_ok {depth : ℕ} {readValue : CString → ReadValue}
    (reads : ReadsOnly (JsonValue.Readable depth) readValue)
    {text rest : CString} {value : JsonValue}
    (read : readArray readValue text = .ok (value, rest)) :
    value.Readable (depth + 1) := by
  unfold readArray at read
  dsimp only at read
  split_ifs at read
  · cases read
    exact ⟨.array (List.forall_mem_nil _), rfl⟩
  · obtain ⟨elements, rfl, all⟩ :=
      readElements_ok reads (List.forall_mem_nil _) read
    exact ⟨.array fun element member => (all element member).1,
      List.all_eq_true.mpr fun element member => (all element member).2⟩

theorem readObject_ok {depth fuel : ℕ} {readValue : CString → ReadValue}
    (reads : ReadsOnly (JsonValue.Readable depth) readValue)
    {text rest : CString} {value : JsonValue}
    (read : readMembers readValue fuel [] [] text = .ok (value, rest)) :
    value.Readable (depth + 1) := by
  obtain ⟨members, rfl, ordered, all⟩ :=
    readMembers_ok reads .nil (List.forall_mem_nil _) read
  exact ⟨.object ordered fun member found => (all member found).1,
    List.all_eq_true.mpr fun member found => (all member found).2⟩

/-- What the reader makes is ordered and bounded. -/
theorem readValue_ok (depth : ℕ) :
    ReadsOnly (JsonValue.Readable depth) (readValue depth) := by
  induction depth with
  | zero =>
      intro text value rest read
      cases read
  | succ depth ih =>
      intro text value rest read
      rw [readValue] at read
      dsimp only at read
      unfold valueOfToken at read
      split at read
      · exact readObject_ok ih read
      · exact readArray_ok ih read
      · obtain ⟨wellFormed, scalar⟩ :=
          wellFormed_of_decodeNumber (decodedNumber_ok read)
        exact ⟨wellFormed, scalar.nestedAtMost depth⟩
      · unfold decodedToken at read
        split at read
        · cases read
        · next made decoded =>
            obtain ⟨string, -, rfl⟩ := Option.map_eq_some_iff.mp decoded
            cases read
            exact ⟨.string string, rfl⟩
      · cases read
        exact ⟨.boolean true, rfl⟩
      · cases read
        exact ⟨.boolean false, rfl⟩
      · cases read
        exact ⟨.null, rfl⟩
      · cases read

theorem readValue_of_readerParse {document : CString} {value : JsonValue}
    (accepted : readerParse document = .ok value) :
    ∃ text, readValue stackLimit document = .ok (value, text) := by
  unfold readerParse at accepted
  cases read : readValue stackLimit document with
  | error failure =>
      rw [read] at accepted
      cases accepted
  | ok pair =>
      obtain ⟨made, text⟩ := pair
      simp only [read, bind, Except.bind] at accepted
      split_ifs at accepted
      cases accepted
      exact ⟨text, rfl⟩

/-- Every document that the reader accepts is read again from what the writer
makes of it, and from then on the text does not change. -/
theorem readerParse_writtenAgain {document : CString} {value : JsonValue}
    (accepted : readerParse document = .ok value) :
    readerParse (jsonToString value) = .ok value.normal ∧
      jsonToString value.normal = jsonToString value := by
  obtain ⟨text, read⟩ := readValue_of_readerParse accepted
  obtain ⟨wellFormed, levels⟩ := readValue_ok _ _ _ _ read
  refine ⟨?_, wellFormed.writeValue_normal⟩
  rw [wellFormed.readerParse_eq, if_pos levels]

theorem readerParse_writtenAgain_real :
    readerParse (jsonToString (.array [.real 2])) =
      .ok (.array [.int (Int64.ofInt 2)]) := by
  have number : decodeNumber ['2', '.', '0'] = some (.real 2) := by
    have read : readDouble ['2', '.', '0'] = some 2 := by decide +kernel
    rw [decodeNumber_eq_decodeDouble ⟨'.', by decide, by decide⟩,
      decodeDouble, read, Option.map_some]
  have value : readValue 999 ['2', '.', '0', ']'] = .ok (.real 2, [']']) :=
    decodedNumber_of_decodeNumber number rfl [']']
  have array : readValue stackLimit ['[', ' ', '2', '.', '0', ']'] =
      readElements (readValue 999) 5 [] ['2', '.', '0', ']'] := rfl
  have accepted : readerParse ['[', ' ', '2', '.', '0', ']'] =
      .ok (.array [.real 2]) := by
    rw [readerParse, array, readElements, value]
    rfl
  have whole : JsonValue.ofReal 2 = .int (Int64.ofInt 2) :=
    (if_pos (by decide +kernel)).trans (if_pos (by decide +kernel))
  have normal : (JsonValue.array [.real 2]).normal =
      .array [.int (Int64.ofInt 2)] :=
    congrArg (fun element => JsonValue.array [element]) whole
  exact normal ▸ (readerParse_writtenAgain accepted).1

end OpenRTH
