import OpenRTH.PackedRecord
import OpenRTH.RunIdentifiers
import Mathlib.Data.UInt

/-!
# HomePlug management messages

The frames that the SLAC functions exchange: an Ethernet header, the HomePlug
header and the fields of one message, sent from a buffer that is zero behind
them.  A received frame is put into a zeroed buffer as well, so a reader finds
zeros where the frame ends, and `UnwantedMessage` decides by the headers alone
which frames a reader gets to see.
-/

namespace OpenRTH

deriving instance DecidableEq for EtherAddr

/-! ## Words and addresses in memory -/

/-- `HTOLE16`, as the two bytes in memory. -/
def htole16 (word : UInt16) : List UInt8 :=
  [word.toUInt8, (word >>> 8).toUInt8]

/-- `LE16TOH` of two bytes in memory. -/
def le16toh (bytes : List UInt8) : UInt16 :=
  (bytes.getD 1 0).toUInt16 <<< 8 ||| (bytes.getD 0 0).toUInt16

/-- `htons`, as the two bytes in memory. -/
def htons (word : UInt16) : List UInt8 :=
  [(word >>> 8).toUInt8, word.toUInt8]

/-- `ntohs` of two bytes in memory. -/
def ntohs (bytes : List UInt8) : UInt16 :=
  (bytes.getD 0 0).toUInt16 <<< 8 ||| (bytes.getD 1 0).toUInt16

theorem highByte_shiftLeft_or_lowByte (word : UInt16) :
    (word >>> 8).toUInt8.toUInt16 <<< 8 ||| word.toUInt8.toUInt16 = word := by
  have bound := word.toNat_lt
  apply UInt16.toNat_inj.mp
  rw [BigEndianBytes.toNat_shiftLeft_or_16]
  simp only [UInt8.toNat_toUInt16, UInt16.toNat_toUInt8,
    UInt16.toNat_shiftRight]
  rw [Nat.shiftRight_eq_div_pow, show (8 : UInt16).toNat % 16 = 8 from rfl]
  omega

@[simp]
theorem le16toh_htole16 (word : UInt16) : le16toh (htole16 word) = word :=
  highByte_shiftLeft_or_lowByte word

@[simp]
theorem ntohs_htons (word : UInt16) : ntohs (htons word) = word :=
  highByte_shiftLeft_or_lowByte word

@[simp]
theorem length_htole16 (word : UInt16) : (htole16 word).length = 2 := rfl

@[simp]
theorem length_htons (word : UInt16) : (htons word).length = 2 := rfl

open PackedRecord

/-- The address in a field. -/
def EtherAddr.ofField (field : List UInt8) : EtherAddr :=
  ⟨(fieldVector 6 field).toList, List.Vector.toList_length _⟩

/-- The run identifier in a field. -/
def RunId.ofField (field : List UInt8) : RunId :=
  ⟨(fieldVector 8 field).toList, List.Vector.toList_length _⟩

@[simp]
theorem EtherAddr.ofField_bytes (address : EtherAddr) :
    EtherAddr.ofField address.bytes = address := by
  obtain ⟨bytes, length⟩ := address
  unfold ofField
  congr 1
  exact List.take_left' length

@[simp]
theorem RunId.ofField_bytes (runId : RunId) :
    RunId.ofField runId.bytes = runId := by
  obtain ⟨bytes, length⟩ := runId
  unfold ofField
  congr 1
  exact List.take_left' length

attribute [simp] EtherAddr.length_bytes RunId.length_bytes

/-- `BROADCAST`. -/
def broadcast : EtherAddr :=
  ⟨[0xFF, 0xFF, 0xFF, 0xFF, 0xFF, 0xFF], rfl⟩

/-- `LOCALCAST`. -/
def localcast : EtherAddr :=
  EtherAddr.ofField [0x00, 0xB0, 0x52, 0x00, 0x00, 0x01]

/-! ## Headers -/

/-- `struct ethernet_hdr`; `mtype` is in host order. -/
structure EthernetHdr where
  oda : EtherAddr
  osa : EtherAddr
  mtype : UInt16
  deriving DecidableEq

instance : PackedRecord UInt8 EthernetHdr where
  sizes := [6, 6, 2]
  fields header := [header.oda.bytes, header.osa.bytes, htons header.mtype]
  map_length_fields header := by simp
  read fields :=
    { oda := .ofField (fields.getD 0 [])
      osa := .ofField (fields.getD 1 [])
      mtype := ntohs (fields.getD 2 []) }
  read_fields header := by simp

/-- `struct homeplug_fmi`; `mmtype` is in host order. -/
structure HomeplugFmi where
  mmv : UInt8
  mmtype : UInt16
  fmsn : UInt8
  fmid : UInt8
  deriving DecidableEq

instance : PackedRecord UInt8 HomeplugFmi where
  sizes := [1, 2, 1, 1]
  fields header :=
    [[header.mmv], htole16 header.mmtype, [header.fmsn], [header.fmid]]
  map_length_fields header := by simp
  read fields :=
    { mmv := (fields.getD 0 []).headD 0
      mmtype := le16toh (fields.getD 1 [])
      fmsn := (fields.getD 2 []).headD 0
      fmid := (fields.getD 3 []).headD 0 }
  read_fields header := by simp

def homeplugMtype : UInt16 := 0x88E1
def homeplugMmv : UInt8 := 0x01

/-- `EthernetHeader`. -/
def ethernetHeader (peer host : EtherAddr) (protocol : UInt16) : EthernetHdr :=
  ⟨peer, host, protocol⟩

/-- `HomePlugHeader1`. -/
def homePlugHeader1 (mmv : UInt8) (mmtype : UInt16) : HomeplugFmi :=
  ⟨mmv, mmtype, 0, 0⟩

/-- A message with its two headers. -/
structure Mme (Fields : Type) where
  ethernet : EthernetHdr
  homeplug : HomeplugFmi
  fields : Fields
  deriving DecidableEq

instance {Fields : Type} [PackedRecord UInt8 Fields] :
    PackedRecord UInt8 (Mme Fields) where
  sizes := sizes (R := EthernetHdr × HomeplugFmi × Fields)
  fields message :=
    PackedRecord.fields (message.ethernet, message.homeplug, message.fields)
  map_length_fields message := map_length_fields _
  read pieces :=
    let (ethernet, homeplug, fields) :=
      PackedRecord.read (R := EthernetHdr × HomeplugFmi × Fields) pieces
    ⟨ethernet, homeplug, fields⟩
  read_fields message := by rw [PackedRecord.read_fields]

/-! ## Frames -/

def etherMinLen : ℕ := 64
def etherMaxLen : ℕ := 1518
def etherCrcLen : ℕ := 4

/-- `sizeof (struct message)`. -/
def messageSize : ℕ := 14 + 1500

/-- The first `length` bytes of a zeroed buffer into which a message has been
written. -/
def frameOf {Fields : Type} [PackedRecord UInt8 Fields] (length : ℕ)
    (message : Mme Fields) : List UInt8 :=
  (toList message ++
    List.replicate (length - size (Mme Fields)) 0).take length

/-- `readpacket`, for a frame that has arrived: what does not fit into
`struct message` is cut off. -/
def readpacket (frame : List UInt8) : List UInt8 :=
  frame.take messageSize

/-- `UnwantedMessage`, with `FMI` undefined. -/
def unwantedMessage (memory : List UInt8) (mmv : UInt8) (mmtype : UInt16) :
    Bool :=
  let (ethernet, homeplug) :=
    ofList (R := EthernetHdr × HomeplugFmi) memory
  if memory.length = 0 then true
  else if memory.length < etherMinLen - etherCrcLen then true
  else if etherMaxLen < memory.length then true
  else if ethernet.mtype ≠ homeplugMtype then true
  else if homeplug.mmv ≠ mmv then true
  else if homeplug.mmv = 0 then
    if homeplug.mmtype ≠ mmtype then true
    -- `VS_MMTYPE_MIN` and `VS_MMTYPE_MAX`
    else if mmtype < 0xA000 ∨ 0xBFFF < mmtype then false
    -- the `OUI` of `struct qualcomm_hdr`
    else decide ((memory.drop 17).take 3 ≠ localcast.bytes.take 3)
  else if homeplug.mmv = 1 then decide (homeplug.mmtype ≠ mmtype)
  else false

section FrameOf

variable {Fields : Type} [PackedRecord UInt8 Fields] {length : ℕ}
  {message : Mme Fields}

theorem frameOf_eq_append (fits : size (Mme Fields) ≤ length) :
    frameOf length message =
      toList message ++
        List.replicate (length - size (Mme Fields)) 0 := by
  refine List.take_of_length_le ?_
  rw [List.length_append, List.length_replicate, length_toList]
  omega

theorem length_frameOf : (frameOf length message).length = length := by
  rw [frameOf, List.length_take, List.length_append, List.length_replicate,
    length_toList]
  omega

theorem ofList_frameOf (fits : size (Mme Fields) ≤ length) :
    ofList (frameOf length message) = message := by
  rw [frameOf_eq_append fits, ofList_toList_append]

theorem ofList_headers_frameOf (fits : size (Mme Fields) ≤ length) :
    ofList (R := EthernetHdr × HomeplugFmi) (frameOf length message) =
      (message.ethernet, message.homeplug) := by
  have split : toList message =
      toList (message.ethernet, message.homeplug) ++
        toList message.fields := by
    simp only [toList, PackedRecord.fields, List.flatten_append,
      List.append_assoc]
  rw [frameOf_eq_append fits, split, List.append_assoc, ofList_toList_append]

/-- Which readers want a frame: those that wait for its type, provided that it
is no shorter and no longer than an Ethernet frame can be. -/
theorem unwantedMessage_frameOf (fits : size (Mme Fields) ≤ length)
    (minimum : etherMinLen - etherCrcLen ≤ length)
    (maximum : length ≤ etherMaxLen)
    (mtype : message.ethernet.mtype = homeplugMtype)
    (mmv : message.homeplug.mmv = homeplugMmv) (mmtype : UInt16) :
    unwantedMessage (frameOf length message) homeplugMmv mmtype =
      decide (message.homeplug.mmtype ≠ mmtype) := by
  have nonempty : length ≠ 0 := by
    rintro rfl
    exact absurd minimum (by decide)
  simp only [unwantedMessage, ofList_headers_frameOf fits, length_frameOf,
    nonempty, minimum.not_gt, maximum.not_gt, mtype, mmv, if_false, ne_eq,
    not_true_eq_false]
  rfl

theorem readpacket_frameOf (short : length ≤ messageSize) :
    readpacket (frameOf length message) = frameOf length message :=
  List.take_of_length_le (by rwa [length_frameOf])

end FrameOf

end OpenRTH
