import ConntrackCm.Lib.Bits
import ConntrackCm.Message
import ConntrackCm.Cnp
import Mathlib.Data.List.Pairwise
import Mathlib.Tactic.MkIffOfInductiveProp

/-!
# The format of CM messages

The tables of `ibta_vol1_c12.h` give each field of a message as a byte offset and a width, and the
macros of `iba.h` turn this into an offset, a mask and the width of the word that `IBA_GET` and
`IBA_SET` access. Fields of one message share words of different widths. Here each entry is a range of
bits, on which the macros act as one would think (`ibaGetLoc_eq`, `ibaSet_eq`), and no two fields of a
message overlap (`fields_laid_out`). So a message can be composed field by field, in any order
(`fields_read_back`), and the tracker reads what its sender composed (`composed_read`).

The library itself only reads. `IBA_SET` and `IBA_SET_MEM` are the other half of the format: they
stand in the header for the sake of it and would have to be made to compile before a sender here
could use them.
-/

namespace ConntrackCm

open Lib

/-! ## `iba.h` -/

/-- What the field macros generate: the offset and the mask, and the width of the access in bits. -/
structure IbaLoc extends IbaField where
  numBits : Nat
  deriving DecidableEq, Repr

/-- `IBA_FIELD_BLOC`. -/
def ibaFieldBloc (byteOffset bitOffset numBits : Nat) : IbaLoc where
  offset := byteOffset
  mask := genmask (7 - bitOffset) (7 - bitOffset - (numBits - 1))
  numBits := 8

/-- `IBA_FIELD8_LOC`. -/
def ibaField8Loc (byteOffset numBits : Nat) : IbaLoc := ibaFieldBloc byteOffset 0 numBits

/-- `IBA_FIELD16_LOC`. -/
def ibaField16Loc (byteOffset numBits : Nat) : IbaLoc where
  offset := byteOffset &&& 0xFFFE
  mask := genmask (15 - byteOffset % 2 * 8) (15 - byteOffset % 2 * 8 - (numBits - 1))
  numBits := 16

/-- `IBA_FIELD64_LOC`. -/
def ibaField64Loc (byteOffset : Nat) : IbaLoc where
  offset := byteOffset
  mask := genmask 63 0
  numBits := 64

/-- `FIELD_PREP`. -/
def fieldPrep (mask val : BitVec 64) : BitVec 64 := (val <<< bfShf mask) &&& mask

/-- `_iba_get8` to `_iba_get64`: a big-endian load of `n` bytes. -/
def ibaLoad (p : Mbuf) (i n : Nat) : Except Fault (BitVec 64) := do
  return beWord (← p.load i n)

/-- `_iba_set8` to `_iba_set64`. -/
def ibaStore (p : Mbuf) (i n : Nat) (mask prepValue : BitVec 64) : Except Fault Mbuf := do
  let old ← ibaLoad p i n
  p.store i (bigEndian n ((old &&& ~~~mask) ||| prepValue))

/-- `IBA_SET` on the message at `msg`. Nothing in the library composes messages: the macro came with
`IBA_GET`, and unlike it lacks the cast of the pointer without which it is C and not C++. It is meant
here with that cast. -/
def ibaSet (field : IbaLoc) (p : Mbuf) (msg : Nat) (value : BitVec 64) : Except Fault Mbuf :=
  ibaStore p (msg + field.offset) (field.numBits / 8) field.mask (fieldPrep field.mask value)

/-- `IBA_GET` on the message at `msg`, for every width. -/
def ibaGetLoc (field : IbaLoc) (p : Mbuf) (msg : Nat) : Except Fault (BitVec 64) := do
  let reg ← ibaLoad p (msg + field.offset) (field.numBits / 8)
  return ((fieldGet field.mask reg).setWidth field.numBits).setWidth 64

/-! ## `ibta_vol1_c12.h` -/

/-- `sizeof` of each of the messages, and of a MAD. -/
def sizeofCmMsg : Nat := 256

/-- An entry of a table. -/
inductive CmField where
  /-- `CM_FIELD_BLOC`. -/
  | bloc (byteOffset bitsOffset width : Nat)
  /-- `CM_FIELD8_LOC`. -/
  | field8 (byteOffset width : Nat)
  /-- `CM_FIELD16_LOC`. -/
  | field16 (byteOffset width : Nat)
  /-- `CM_FIELD32_LOC`. -/
  | field32 (byteOffset width : Nat)
  /-- `CM_FIELD64_LOC`. -/
  | field64 (byteOffset : Nat)
  /-- `CM_FIELD_MLOC`: memory that is not accessed through words. -/
  | mloc (byteOffset width : Nat)
  deriving DecidableEq, Repr

namespace CmField

/-- What the macro generates. Message bodies follow the MAD header. -/
def loc : CmField → Option IbaLoc
  | .bloc byteOffset bitsOffset width => some (ibaFieldBloc (byteOffset + sizeofIbMadHdr) bitsOffset width)
  | .field8 byteOffset width => some (ibaField8Loc (byteOffset + sizeofIbMadHdr) width)
  | .field16 byteOffset width => some (ibaField16Loc (byteOffset + sizeofIbMadHdr) width)
  | .field32 byteOffset width => some { cmField32Loc byteOffset width with numBits := 32 }
  | .field64 byteOffset => some (ibaField64Loc (byteOffset + sizeofIbMadHdr))
  | .mloc _ _ => none

/-- The first bit of the field, counted from the start of the MAD. -/
def start : CmField → Nat
  | .bloc byteOffset bitsOffset _ => 8 * (byteOffset + sizeofIbMadHdr) + bitsOffset
  | .field8 byteOffset _ | .field16 byteOffset _ | .field32 byteOffset _ | .field64 byteOffset | .mloc byteOffset _ =>
    8 * (byteOffset + sizeofIbMadHdr)

def width : CmField → Nat
  | .bloc _ _ width | .field8 _ width | .field16 _ width | .field32 _ width | .mloc _ width => width
  | .field64 _ => 64

/-- No bit is in both. -/
def Apart (f g : CmField) : Prop := f.start + f.width ≤ g.start ∨ g.start + g.width ≤ f.start

instance (f g : CmField) : Decidable (f.Apart g) := inferInstanceAs (Decidable (_ ∨ _))

/-- The word of `loc` stands in the body of the message, and its mask has the bits of the field. -/
@[mk_iff]
structure Locates (f : CmField) (loc : IbaLoc) : Prop where
  whole : 8 * (loc.numBits / 8) = loc.numBits
  narrow : loc.numBits ≤ 64
  body : sizeofIbMadHdr ≤ loc.offset
  room : loc.offset + loc.numBits / 8 ≤ sizeofCmMsg
  some : 0 < f.width
  first : 8 * loc.offset ≤ f.start
  last : f.start + f.width ≤ 8 * loc.offset + loc.numBits
  mask : loc.mask = genmask (8 * loc.offset + loc.numBits - 1 - f.start)
    (8 * loc.offset + loc.numBits - (f.start + f.width))

instance (f : CmField) (loc : IbaLoc) : Decidable (f.Locates loc) := decidable_of_iff _ (locates_iff f loc).symm

end CmField

/-- The messages of chapter 12. -/
inductive CmStruct where
  | req | mra | rej | rep | rtu | dreq | drep | lap | apr | sidrReq | sidrRep
  deriving DecidableEq, Repr

/-- Tables 106 to 120. -/
def CmStruct.fields : CmStruct → List CmField
  | .req => [
    .field32 0 32,    -- LOCAL_COMM_ID
    .field64 8,       -- SERVICE_ID
    .field64 16,      -- LOCAL_CA_GUID
    .field32 28 32,   -- LOCAL_Q_KEY
    .field32 32 24,   -- LOCAL_QPN
    .field8 35 8,     -- RESPONDER_RESOURCES
    .field32 36 24,   -- LOCAL_EECN
    .field8 39 8,     -- INITIATOR_DEPTH
    .field32 40 24,   -- REMOTE_EECN
    .field8 43 5,     -- REMOTE_CM_RESPONSE_TIMEOUT
    .bloc 43 5 2,     -- TRANSPORT_SERVICE_TYPE
    .bloc 43 7 1,     -- END_TO_END_FLOW_CONTROL
    .field32 44 24,   -- STARTING_PSN
    .field8 47 5,     -- LOCAL_CM_RESPONSE_TIMEOUT
    .bloc 47 5 3,     -- RETRY_COUNT
    .field16 48 16,   -- PARTITION_KEY
    .field8 50 4,     -- PATH_PACKET_PAYLOAD_MTU
    .bloc 50 4 1,     -- RDC_EXISTS
    .bloc 50 5 3,     -- RNR_RETRY_COUNT
    .field8 51 4,     -- MAX_CM_RETRIES
    .bloc 51 4 1,     -- SRQ
    .bloc 51 5 3,     -- EXTENDED_TRANSPORT_TYPE
    .field16 52 16,   -- PRIMARY_LOCAL_PORT_LID
    .field16 54 16,   -- PRIMARY_REMOTE_PORT_LID
    .mloc 56 128,     -- PRIMARY_LOCAL_PORT_GID
    .mloc 72 128,     -- PRIMARY_REMOTE_PORT_GID
    .field32 88 20,   -- PRIMARY_FLOW_LABEL
    .bloc 91 2 6,     -- PRIMARY_PACKET_RATE
    .field8 92 8,     -- PRIMARY_TRAFFIC_CLASS
    .field8 93 8,     -- PRIMARY_HOP_LIMIT
    .field8 94 4,     -- PRIMARY_SL
    .bloc 94 4 1,     -- PRIMARY_SUBNET_LOCAL
    .field8 95 5,     -- PRIMARY_LOCAL_ACK_TIMEOUT
    .field16 96 16,   -- ALTERNATE_LOCAL_PORT_LID
    .field16 98 16,   -- ALTERNATE_REMOTE_PORT_LID
    .mloc 100 128,    -- ALTERNATE_LOCAL_PORT_GID
    .mloc 116 128,    -- ALTERNATE_REMOTE_PORT_GID
    .field32 132 20,  -- ALTERNATE_FLOW_LABEL
    .bloc 135 2 6,    -- ALTERNATE_PACKET_RATE
    .field8 136 8,    -- ALTERNATE_TRAFFIC_CLASS
    .field8 137 8,    -- ALTERNATE_HOP_LIMIT
    .field8 138 4,    -- ALTERNATE_SL
    .bloc 138 4 1,    -- ALTERNATE_SUBNET_LOCAL
    .field8 139 5,    -- ALTERNATE_LOCAL_ACK_TIMEOUT
    .bloc 139 5 1,    -- SAP_SUPPORTED
    .mloc 140 736]    -- PRIVATE_DATA
  | .mra => [
    .field32 0 32,    -- LOCAL_COMM_ID
    .field32 4 32,    -- REMOTE_COMM_ID
    .field8 8 2,      -- MESSAGE_MRAED
    .field8 9 5,      -- SERVICE_TIMEOUT
    .mloc 10 1776]    -- PRIVATE_DATA
  | .rej => [
    .field32 0 32,    -- LOCAL_COMM_ID
    .field32 4 32,    -- REMOTE_COMM_ID
    .field8 8 2,      -- MESSAGE_REJECTED
    .field8 9 7,      -- REJECTED_INFO_LENGTH
    .field16 10 16,   -- REASON
    .mloc 12 576,     -- ARI
    .mloc 84 1184]    -- PRIVATE_DATA
  | .rep => [
    .field32 0 32,    -- LOCAL_COMM_ID
    .field32 4 32,    -- REMOTE_COMM_ID
    .field32 8 32,    -- LOCAL_Q_KEY
    .field32 12 24,   -- LOCAL_QPN
    .field32 16 24,   -- LOCAL_EE_CONTEXT_NUMBER
    .field32 20 24,   -- STARTING_PSN
    .field8 24 8,     -- RESPONDER_RESOURCES
    .field8 25 8,     -- INITIATOR_DEPTH
    .field8 26 5,     -- TARGET_ACK_DELAY
    .bloc 26 5 2,     -- FAILOVER_ACCEPTED
    .bloc 26 7 1,     -- END_TO_END_FLOW_CONTROL
    .field8 27 3,     -- RNR_RETRY_COUNT
    .bloc 27 3 1,     -- SRQ
    .field64 28,      -- LOCAL_CA_GUID
    .mloc 36 1568]    -- PRIVATE_DATA
  | .rtu | .drep => [
    .field32 0 32,    -- LOCAL_COMM_ID
    .field32 4 32,    -- REMOTE_COMM_ID
    .mloc 8 1792]     -- PRIVATE_DATA
  | .dreq => [
    .field32 0 32,    -- LOCAL_COMM_ID
    .field32 4 32,    -- REMOTE_COMM_ID
    .field32 8 24,    -- REMOTE_QPN_EECN
    .mloc 12 1760]    -- PRIVATE_DATA
  | .lap => [
    .field32 0 32,    -- LOCAL_COMM_ID
    .field32 4 32,    -- REMOTE_COMM_ID
    .field32 12 24,   -- REMOTE_QPN_EECN
    .field8 15 5,     -- REMOTE_CM_RESPONSE_TIMEOUT
    .field16 20 16,   -- ALTERNATE_LOCAL_PORT_LID
    .field16 22 16,   -- ALTERNATE_REMOTE_PORT_LID
    .mloc 24 128,     -- ALTERNATE_LOCAL_PORT_GID
    .mloc 40 128,     -- ALTERNATE_REMOTE_PORT_GID
    .field32 56 20,   -- ALTERNATE_FLOW_LABEL
    .field8 59 8,     -- ALTERNATE_TRAFFIC_CLASS
    .field8 60 8,     -- ALTERNATE_HOP_LIMIT
    .bloc 61 2 6,     -- ALTERNATE_PACKET_RATE
    .field8 62 4,     -- ALTERNATE_SL
    .bloc 62 4 1,     -- ALTERNATE_SUBNET_LOCAL
    .field8 63 5,     -- ALTERNATE_LOCAL_ACK_TIMEOUT
    .mloc 64 1344]    -- PRIVATE_DATA
  | .apr => [
    .field32 0 32,    -- LOCAL_COMM_ID
    .field32 4 32,    -- REMOTE_COMM_ID
    .field8 8 8,      -- ADDITIONAL_INFORMATION_LENGTH
    .field8 9 8,      -- AR_STATUS
    .mloc 12 576,     -- ADDITIONAL_INFORMATION
    .mloc 84 1184]    -- PRIVATE_DATA
  | .sidrReq => [
    .field32 0 32,    -- REQUESTID
    .field16 4 16,    -- PARTITION_KEY
    .field64 8,       -- SERVICEID
    .mloc 16 1728]    -- PRIVATE_DATA
  | .sidrRep => [
    .field32 0 32,    -- REQUESTID
    .field8 4 8,      -- STATUS
    .field8 5 8,      -- ADDITIONAL_INFORMATION_LENGTH
    .field32 8 24,    -- QPN
    .field64 12,      -- SERVICEID
    .field32 20 32,   -- Q_KEY
    .mloc 24 576,     -- ADDITIONAL_INFORMATION
    .mloc 96 1088]    -- PRIVATE_DATA

/-- The fields of a message do not overlap, stand between the MAD header and its end, and are where
the macros look for them. -/
theorem fields_laid_out (m : CmStruct) :
    m.fields.Pairwise CmField.Apart ∧
      ∀ f ∈ m.fields, 8 * sizeofIbMadHdr ≤ f.start ∧ f.start + f.width ≤ 8 * sizeofCmMsg ∧
        ∀ loc ∈ f.loc, f.Locates loc := by
  cases m <;> decide +kernel

/-! ## Fields as ranges of bits -/

theorem isMask_genmask {h l : Nat} (order : l ≤ h) (high : h < 64) : IsMask (genmask h l) h l := by
  have upper : ∀ l, l < 64 → (~~~0#64 - (1#64 <<< l) + 1 : BitVec 64) = BitVec.allOnes 64 <<< l := by decide +kernel
  intro k hk
  rw [genmask, upper l (by omega), BitVec.getLsbD_and, BitVec.getLsbD_shiftLeft, BitVec.getLsbD_ushiftRight,
    BitVec.getLsbD_allOnes, BitVec.getLsbD_not]
  by_cases low : l ≤ k <;> by_cases inside : k ≤ h
  · simp [low, inside, hk, show 63 - h + k < 64 by omega, show k - l < 64 by omega]
  · simp [inside, show ¬ 63 - h + k < 64 by omega]
  · simp [low]
  · simp [low]

theorem bfShf_genmask {h l : Nat} (order : l ≤ h) (high : h < 64) : bfShf (genmask h l) = l := by
  have masks := isMask_genmask order high
  have first : (List.range 64).find? (fun i => (genmask h l).getLsbD i) = some l := by
    rw [List.find?_range_eq_some]
    refine ⟨?_, List.mem_range.mpr (by omega), ?_⟩
    · simp [masks l (by omega), order]
    · intro k hk
      simp [masks k (by omega), hk]
  rw [bfShf, first]
  rfl

/-- The packets differ at most in the bits from `s` up to `e`. -/
structure Mbuf.Patched (p q : Mbuf) (s e : Nat) : Prop where
  rest : { q with buf := p.buf } = p
  mapped : ∀ j, (q.buf j).isSome = (p.buf j).isSome
  bits : ∀ k, k < s ∨ e ≤ k → bitAt q.octet k = bitAt p.octet k

namespace Mbuf.Patched

variable {p q r : Mbuf} {s e : Nat}

theorem refl (p : Mbuf) (s e : Nat) : p.Patched p s e := ⟨rfl, fun _ => rfl, fun _ _ => rfl⟩

theorem trans (first : p.Patched q s e) (second : q.Patched r s e) : p.Patched r s e where
  rest := by
    rw [← first.rest, ← second.rest]
  mapped j := (second.mapped j).trans (first.mapped j)
  bits k away := (second.bits k away).trans (first.bits k away)

theorem mono (h : p.Patched q s e) {s' e' : Nat} (lower : s' ≤ s) (upper : e ≤ e') : p.Patched q s' e' where
  rest := h.rest
  mapped := h.mapped
  bits k away := h.bits k (by omega)

theorem room (h : p.Patched q s e) {i n : Nat} : q.Mapped i n ↔ p.Mapped i n := by
  simp only [RteMbuf.Mapped, h.mapped]

/-- A byte all of whose bits are the same is the same. -/
theorem octet (h : p.Patched q s e) {i : Nat} (away : 8 * (i + 1) ≤ s ∨ e ≤ 8 * i) : q.octet i = p.octet i := by
  apply BitVec.eq_of_getLsbD_eq
  intro j hj
  have same := h.bits (8 * i + (7 - j)) (by omega)
  rw [bitAt_byte (by omega), bitAt_byte (by omega)] at same
  have back : 7 - (7 - j) = j := by omega
  rwa [back] at same

end Mbuf.Patched

theorem Mbuf.put_patched {p : Mbuf} {i s e : Nat} {bs : List (BitVec 8)} (there : p.Mapped i bs.length)
    (bits : ∀ k, k < s ∨ e ≤ k → bitAt (p.put i bs).octet k = bitAt p.octet k) : p.Patched (p.put i bs) s e where
  rest := rfl
  mapped j := isSome_overlay there j
  bits := bits

section Macros

variable {p : Mbuf} {f : CmField} {loc : IbaLoc} {msg : Nat} (located : f.Locates loc) (room : p.Mapped msg sizeofCmMsg)

include located

theorem CmField.Locates.isMask : IsMask loc.mask (8 * loc.offset + loc.numBits - 1 - f.start)
    (8 * loc.offset + loc.numBits - (f.start + f.width)) := by
  obtain ⟨whole, narrow, body, fits, some, first, last, mask⟩ := located
  rw [mask]
  exact isMask_genmask (by omega) (by omega)

theorem CmField.Locates.shift : bfShf loc.mask = 8 * loc.offset + loc.numBits - (f.start + f.width) := by
  obtain ⟨whole, narrow, body, fits, some, first, last, mask⟩ := located
  rw [mask]
  exact bfShf_genmask (by omega) (by omega)

include room

theorem CmField.Locates.word : p.Mapped (msg + loc.offset) (loc.numBits / 8) := room.part located.room

/-- `IBA_GET` yields the bits of the field. -/
theorem ibaGetLoc_eq : ∃ v, ibaGetLoc loc p msg = .ok v ∧
    ∀ j, v.getLsbD j = (decide (j < f.width) && bitAt p.octet (8 * msg + f.start + f.width - 1 - j)) := by
  have loaded := Mbuf.load_eq (located.word room)
  have shift := located.shift
  have masks := located.isMask
  obtain ⟨whole, narrow, body, fits, some, first, last, mask⟩ := located
  refine ⟨_, by rw [ibaGetLoc, ibaLoad, bind_of_ok loaded]; rfl, ?_⟩
  intro j
  have extract := getLsbD_extract masks (by omega) (by omega) (by omega) (m := p.octet) (i := msg + loc.offset)
    (n := loc.numBits / 8) j
  have width : 8 * loc.offset + loc.numBits - 1 - f.start + 1 - (8 * loc.offset + loc.numBits - (f.start + f.width)) =
      f.width := by
    omega
  have position : 8 * (msg + loc.offset + loc.numBits / 8) - 1 - (8 * loc.offset + loc.numBits - (f.start + f.width)) - j =
      8 * msg + f.start + f.width - 1 - j := by
    omega
  rw [width, position] at extract
  rw [BitVec.getLsbD_setWidth, BitVec.getLsbD_setWidth, fieldGet, shift, extract]
  by_cases inside : j < f.width
  · simp [inside, show j < 64 by omega, show j < loc.numBits by omega]
  · simp [inside]

/-- `IBA_SET` changes them and nothing else. -/
theorem ibaSet_eq (v : BitVec 64) : ∃ q, ibaSet loc p msg v = .ok q ∧
    p.Patched q (8 * msg + f.start) (8 * msg + f.start + f.width) ∧
    ∀ j, j < f.width → bitAt q.octet (8 * msg + f.start + f.width - 1 - j) = v.getLsbD j := by
  have there := located.word room
  have loaded := Mbuf.load_eq there
  have shift := located.shift
  have masks := located.isMask
  obtain ⟨whole, narrow, body, fits, some, first, last, mask⟩ := located
  let old := beWord ((List.range (loc.numBits / 8)).map fun k => p.octet (msg + loc.offset + k))
  let bs := bigEndian (loc.numBits / 8) ((old &&& ~~~loc.mask) ||| fieldPrep loc.mask v)
  have size : bs.length = loc.numBits / 8 := length_bigEndian _ _
  have stores : ibaSet loc p msg v = .ok (p.put (msg + loc.offset) bs) := by
    have old : ibaLoad p (msg + loc.offset) (loc.numBits / 8) = .ok old := by
      rw [ibaLoad, bind_of_ok loaded]
      rfl
    rw [ibaSet, ibaStore, bind_of_ok old]
    exact Mbuf.store_eq (by rwa [length_bigEndian])
  have inside : ∀ k, k < loc.numBits / 8 → (p.put (msg + loc.offset) bs).octet (msg + loc.offset + k) =
      (bigEndian (loc.numBits / 8) ((old &&& ~~~loc.mask) |||
        ((v <<< (8 * loc.offset + loc.numBits - (f.start + f.width))) &&& loc.mask))).getD k 0 := by
    intro k hk
    rw [Mbuf.octet_inside (by omega), ← shift]
    rfl
  have outside : ∀ j, j < msg + loc.offset ∨ msg + loc.offset + loc.numBits / 8 ≤ j →
      (p.put (msg + loc.offset) bs).octet j = p.octet j := by
    intro j away
    exact Mbuf.octet_outside (by omega)
  have bits := bitAt_replace masks (by omega) (by omega) (by omega) inside outside
  refine ⟨_, stores, Mbuf.put_patched (by rwa [size]) ?_, ?_⟩
  · intro k away
    rw [bits, if_neg (by omega)]
  · intro j inside
    rw [bits, if_pos (by omega)]
    congr 1
    omega

end Macros

/-! ## Composing a message -/

/-- `IBA_SET_MEM`: the bytes are copied as they are, also when there are too many for the field and
`WARN_ON`, which the library would have to define first, says so. -/
def ibaSetMem (byteOffset : Nat) (p : Mbuf) (msg : Nat) (bytes : List (BitVec 8)) : Except Fault Mbuf :=
  if bytes.length = 0 then .ok p else p.store (msg + byteOffset) bytes

/-- An assignment to a field. -/
inductive CmWrite where
  /-- `IBA_SET`. -/
  | set (field : CmField) (loc : IbaLoc) (generated : field.loc = some loc) (value : BitVec 64)
  /-- `IBA_SET_MEM`. -/
  | setMem (byteOffset width : Nat) (bytes : List (BitVec 8))

namespace CmWrite

def field : CmWrite → CmField
  | .set field _ _ _ => field
  | .setMem byteOffset width _ => .mloc byteOffset width

/-- The bytes of an `IBA_SET_MEM` fit into the field, and it does not warn. -/
def Fits : CmWrite → Prop
  | .set _ _ _ _ => True
  | .setMem _ width bytes => bytes.length * 8 ≤ width

instance : DecidablePred Fits
  | .set _ _ _ _ => inferInstanceAs (Decidable True)
  | .setMem _ _ _ => inferInstanceAs (Decidable (_ ≤ _))

/-- The value that `IBA_GET` is to find. -/
def value : CmWrite → BitVec 64
  | .set _ _ _ value => value
  | .setMem _ _ _ => 0#64

/-- Carry out an assignment to the message at `msg`. -/
def apply (msg : Nat) (p : Mbuf) : CmWrite → Except Fault Mbuf
  | .set _ loc _ value => ibaSet loc p msg value
  | .setMem byteOffset _ bytes => ibaSetMem (byteOffset + sizeofIbMadHdr) p msg bytes

/-- The last value assigned to `f`. -/
def lastValue (f : CmField) : List CmWrite → Option (BitVec 64)
  | [] => none
  | w :: ws => (lastValue f ws).or (if w.field = f then some w.value else none)

variable {w : CmWrite} {m : CmStruct} {p : Mbuf} {msg : Nat}

/-- One assignment. -/
theorem apply_eq (listed : w.field ∈ m.fields) (fits : w.Fits) (room : p.Mapped msg sizeofCmMsg) :
    ∃ q, w.apply msg p = .ok q ∧ p.Patched q (8 * msg + w.field.start) (8 * msg + w.field.start + w.field.width) ∧
      (∀ loc, w.field.loc = some loc → ∀ j, j < w.field.width →
        bitAt q.octet (8 * msg + w.field.start + w.field.width - 1 - j) = w.value.getLsbD j) := by
  obtain ⟨first, last, locates⟩ := (fields_laid_out m).2 _ listed
  cases w with
  | set field loc generated value =>
    obtain ⟨q, done, patched, bits⟩ := ibaSet_eq (locates loc generated) room value
    exact ⟨q, done, patched, fun _ _ => bits⟩
  | setMem byteOffset width bytes =>
    have small : bytes.length * 8 ≤ width := fits
    have unread : ∀ loc, (CmField.mloc byteOffset width).loc ≠ some loc := nofun
    by_cases empty : bytes.length = 0
    · refine ⟨p, if_pos empty, .refl .., fun loc read => absurd read (unread loc)⟩
    · have size : byteOffset + sizeofIbMadHdr + bytes.length ≤ sizeofCmMsg := by
        simp only [field, CmField.start, CmField.width] at last
        omega
      have there : p.Mapped (msg + (byteOffset + sizeofIbMadHdr)) bytes.length := room.part size
      refine ⟨_, (if_neg empty).trans (Mbuf.store_eq there), ?_, fun loc read => absurd read (unread loc)⟩
      apply Mbuf.put_patched there
      intro k away
      simp only [field, CmField.start, CmField.width] at away
      rw [bitAt, bitAt, Mbuf.octet_outside (by omega)]

/-- What a field holds after some assignments. -/
structure Holds (ws : List CmWrite) (msg : Nat) (p q : Mbuf) (f : CmField) : Prop where
  assigned : ∀ v, lastValue f ws = some v → ∀ j, j < f.width →
    bitAt q.octet (8 * msg + f.start + f.width - 1 - j) = v.getLsbD j
  kept : lastValue f ws = none → ∀ j, j < f.width →
    bitAt q.octet (8 * msg + f.start + f.width - 1 - j) = bitAt p.octet (8 * msg + f.start + f.width - 1 - j)

/-- One assignment in terms of `Holds`. -/
theorem holds_one {q : Mbuf} {f : CmField} {loc : IbaLoc} (listed : w.field ∈ m.fields) (mem : f ∈ m.fields)
    (generated : f.loc = some loc)
    (patched : p.Patched q (8 * msg + w.field.start) (8 * msg + w.field.start + w.field.width))
    (bits : ∀ loc, w.field.loc = some loc → ∀ j, j < w.field.width →
      bitAt q.octet (8 * msg + w.field.start + w.field.width - 1 - j) = w.value.getLsbD j) : Holds [w] msg p q f := by
  by_cases same : w.field = f
  · subst same
    have last : lastValue w.field [w] = some w.value := by simp [lastValue]
    refine ⟨?_, ?_⟩
    · intro v found j hj
      rw [bits loc generated j hj, Option.some.inj (last.symm.trans found)]
    · intro never
      rw [last] at never
      cases never
  · have none : lastValue f [w] = none := by simp [lastValue, same]
    have symm : Std.Symm CmField.Apart := ⟨fun _ _ => Or.symm⟩
    have apart : w.field.Apart f := (fields_laid_out m).1.forall listed mem same
    unfold CmField.Apart at apart
    refine ⟨?_, ?_⟩
    · intro v found
      rw [none] at found
      cases found
    · intro _ j hj
      exact patched.bits _ (by omega)

theorem Holds.trans {ws : List CmWrite} {q r : Mbuf} {f : CmField} (first : Holds [w] msg p q f) (rest : Holds ws msg q r f) :
    Holds (w :: ws) msg p r f := by
  have split : lastValue f (w :: ws) = (lastValue f ws).or (lastValue f [w]) := by simp [lastValue]
  cases later : lastValue f ws with
  | some v =>
    rw [later, Option.some_or] at split
    refine ⟨?_, ?_⟩
    · intro v' found
      rw [← Option.some.inj (split.symm.trans found)]
      exact rest.assigned v later
    · intro never
      rw [split] at never
      cases never
  | none =>
    rw [later, Option.none_or] at split
    refine ⟨?_, ?_⟩
    · intro v found j hj
      rw [rest.kept later j hj, first.assigned v (split.symm.trans found) j hj]
    · intro never j hj
      rw [rest.kept later j hj, first.kept (split.symm.trans never) j hj]

/-- Any assignments in any order. -/
theorem run_apply {ws : List CmWrite} (listed : ∀ w ∈ ws, w.field ∈ m.fields) (fits : ∀ w ∈ ws, w.Fits)
    (room : p.Mapped msg sizeofCmMsg) : ∃ q, run (apply msg) p ws = .ok q ∧ p.Patched q (8 * (msg + sizeofIbMadHdr)) (8 * (msg + sizeofCmMsg)) ∧
      ∀ f ∈ m.fields, ∀ loc, f.loc = some loc → Holds ws msg p q f := by
  induction ws generalizing p with
  | nil => exact ⟨p, rfl, .refl .., fun f _ _ _ => ⟨nofun, fun _ _ _ => rfl⟩⟩
  | cons w ws ih =>
    have mine : w.field ∈ m.fields := listed w List.mem_cons_self
    obtain ⟨lower, upper, _⟩ := (fields_laid_out m).2 _ mine
    obtain ⟨q, done, patched, bits⟩ := apply_eq mine (fits w List.mem_cons_self) room
    obtain ⟨r, rest, further, holds⟩ := ih (fun w mem => listed w (List.mem_cons_of_mem _ mem))
      (fun w mem => fits w (List.mem_cons_of_mem _ mem)) (patched.room.mpr room)
    refine ⟨r, by rw [run_cons, bind_of_ok done, rest], (patched.mono (by omega) (by omega)).trans further, ?_⟩
    intro f mem loc generated
    exact (holds_one mine mem generated patched bits).trans (holds f mem loc generated)

section Read

variable {ws : List CmWrite} {q : Mbuf} {f : CmField} {loc : IbaLoc}

/-- A field that was assigned reads as its last value, cut to its width. -/
theorem Holds.get {v : BitVec 64} (holds : Holds ws msg p q f) (located : f.Locates loc) (room : q.Mapped msg sizeofCmMsg)
    (last : lastValue f ws = some v) : ibaGetLoc loc q msg = .ok ((v.setWidth f.width).setWidth 64) := by
  obtain ⟨r, read, bits⟩ := ibaGetLoc_eq located room
  have narrow : f.width ≤ 64 := by
    obtain ⟨whole, narrow, body, fits, some, first, last, mask⟩ := located
    omega
  rw [read]
  congr 1
  apply BitVec.eq_of_getLsbD_eq
  intro j hj
  rw [bits, BitVec.getLsbD_setWidth, BitVec.getLsbD_setWidth]
  by_cases inside : j < f.width
  · simp [inside, hj, holds.assigned v last j inside]
  · simp [inside]

/-- A field that was not assigned reads as before. -/
theorem Holds.get_kept (holds : Holds ws msg p q f) (located : f.Locates loc) (before : p.Mapped msg sizeofCmMsg)
    (room : q.Mapped msg sizeofCmMsg) (never : lastValue f ws = none) : ibaGetLoc loc q msg = ibaGetLoc loc p msg := by
  obtain ⟨r, read, bits⟩ := ibaGetLoc_eq located room
  obtain ⟨r', read', bits'⟩ := ibaGetLoc_eq located before
  rw [read, read']
  congr 1
  apply BitVec.eq_of_getLsbD_eq
  intro j hj
  rw [bits, bits']
  by_cases inside : j < f.width
  · rw [holds.kept never j inside]
  · simp [inside]

end Read

end CmWrite

/-- Whatever is assigned to the fields of a message, in whatever order and how often, as long as no
`IBA_SET_MEM` is given more bytes than its field has: nothing outside the body of the message changes,
and each field reads as the last value assigned to it, cut to its width, or as before. -/
theorem fields_read_back {m : CmStruct} {ws : List CmWrite} {p : Mbuf} {msg : Nat} (listed : ∀ w ∈ ws, w.field ∈ m.fields)
    (fits : ∀ w ∈ ws, w.Fits) (room : p.Mapped msg sizeofCmMsg) :
    ∃ q, run (CmWrite.apply msg) p ws = .ok q ∧
      (∀ i, i < msg + sizeofIbMadHdr ∨ msg + sizeofCmMsg ≤ i → q.octet i = p.octet i) ∧
      ∀ f ∈ m.fields, ∀ loc, f.loc = some loc →
        (∀ v, CmWrite.lastValue f ws = some v → ibaGetLoc loc q msg = .ok ((v.setWidth f.width).setWidth 64)) ∧
        (CmWrite.lastValue f ws = none → ibaGetLoc loc q msg = ibaGetLoc loc p msg) := by
  obtain ⟨q, done, patched, holds⟩ := CmWrite.run_apply listed fits room
  refine ⟨q, done, fun i away => patched.octet (by omega), ?_⟩
  intro f mem loc generated
  have located := ((fields_laid_out m).2 f mem).2.2 loc generated
  have here := holds f mem loc generated
  have after := patched.room.mpr room
  exact ⟨fun v last => here.get located after last, here.get_kept located room after⟩

/-- A datagram with an empty MAD. -/
def blankMbuf (attrId : BitVec 16) : Mbuf where
  toRteMbuf := cmMbuf attrId 0x0100000a#32 0x0200000a#32 0#32 0#32 0#32
  l3Len := 20
  l4Len := 8
  bthOffset := 42

theorem blankMbuf_room (attrId : BitVec 16) : (blankMbuf attrId).Mapped 62 sizeofCmMsg := by
  intro j inside
  have there : 62 + j < 322 := by
    simp only [sizeofCmMsg] at inside
    omega
  simp [blankMbuf, cmMbuf, there]

/-- A REJ whose reason is assigned twice, with a value too wide for MESSAGE_REJECTED and some ARI. -/
def rejWrites : List CmWrite :=
  [.set (.field16 10 16) _ rfl 5#64, .set (.field8 8 2) _ rfl 0xff#64, .setMem 12 576 [1, 2, 3],
    .set (.field16 10 16) _ rfl 28#64]

theorem fields_read_back_rej :
    ∃ q, run (CmWrite.apply 62) (blankMbuf cmRejAttrId) rejWrites = .ok q ∧
      ibaGetLoc (ibaField16Loc 34 16) q 62 = .ok 28#64 ∧ ibaGetLoc (ibaField8Loc 32 2) q 62 = .ok 3#64 := by
  have listed : ∀ w ∈ rejWrites, w.field ∈ CmStruct.rej.fields := by decide
  obtain ⟨q, done, _, fields⟩ := fields_read_back listed (by decide) (blankMbuf_room cmRejAttrId)
  have reason := fields (.field16 10 16) (by decide) _ rfl
  have rejected := fields (.field8 8 2) (by decide) _ rfl
  exact ⟨q, done, reason.1 28#64 rfl, rejected.1 0xff#64 rfl⟩

-- 20 bytes for the 16 of PRIMARY_REMOTE_PORT_GID: the rest goes to PRIMARY_FLOW_LABEL
example : (run (CmWrite.apply 62) (blankMbuf cmReqAttrId) [.setMem 72 128 (List.replicate 20 0xff)] >>= fun q =>
    ibaGetLoc { cmField32Loc 88 20 with numBits := 32 } q 62) = .ok 0xfffff#64 := by
  decide +kernel

/-! ## What the tracker makes of it -/

namespace CmOp

/-- The message a handler expects. -/
def struct : CmOp → CmStruct
  | .reqSent | .reqReceived => .req
  | .rejSent | .rejReceived => .rej
  | .repSent | .repReceived => .rep
  | .rtuSent | .rtuReceived => .rtu
  | .dreqSent | .dreqReceived => .dreq
  | .drepSent | .drepReceived => .drep

/-! The entries that a handler reads. -/

def localEntry : CmOp → Option CmField
  | .reqReceived => none
  | .reqSent | .rejSent | .repSent | .rtuSent | .dreqSent | .drepSent => some (.field32 0 32)
  | _ => some (.field32 4 32)

def remoteEntry : CmOp → Option CmField
  | .rejSent | .repSent | .drepSent => some (.field32 4 32)
  | .reqReceived | .rejReceived | .repReceived | .drepReceived => some (.field32 0 32)
  | _ => none

def qpnEntry : CmOp → Option CmField
  | .reqSent | .reqReceived => some (.field32 32 24)
  | .repSent | .repReceived => some (.field32 12 24)
  | _ => none

def entries (op : CmOp) : List CmField := [op.localEntry, op.remoteEntry, op.qpnEntry].reduceOption

/-- The address of the peer. -/
def peerAddr (op : CmOp) (p : RteMbuf) : Except Fault InAddrT :=
  match op.dir with
  | .FROM_HOST => daddr p
  | .FROM_NET => saddr p

/-- The event of a message whose entries have these values. -/
def composed (op : CmOp) (addr : InAddrT) (value : CmField → BitVec 32) : Event where
  op := op
  localId := op.localEntry.elim 0#32 value
  remoteId := op.remoteEntry.elim .null fun f => ⟨addr, value f⟩
  qpn := .ok (op.qpnEntry.elim 0#32 value)

end CmOp

namespace Mbuf.Patched

variable {p q : Mbuf} {s e : Nat} (h : p.Patched q s e)

include h

theorem buf {i : Nat} (away : 8 * (i + 1) ≤ s ∨ e ≤ 8 * i) : q.buf i = p.buf i := by
  have same := h.octet away
  have both := h.mapped i
  unfold RteMbuf.octet at same
  cases first : p.buf i with
  | none =>
    rw [first, Option.isSome_none] at both
    exact Option.isSome_eq_false_iff.mp both |> Option.isNone_iff_eq_none.mp
  | some b =>
    rw [first, Option.isSome_some] at both
    obtain ⟨c, there⟩ := Option.isSome_iff_exists.mp both
    rw [first, there] at same
    rw [there]
    exact congrArg some same

theorem mad : mbufMad q.toRteMbuf = mbufMad p.toRteMbuf := congrArg (fun p => mbufMad p.toRteMbuf) h.rest

theorem be16 {i : Nat} (away : 8 * (i + 2) ≤ s) : q.be16 i = p.be16 i := by
  simp only [RteMbuf.be16, RteMbuf.byte]
  rw [h.buf (by omega), h.buf (by omega)]

theorem load32 {i : Nat} (away : 8 * (i + 4) ≤ s) : q.load32 i = p.load32 i := by
  simp only [RteMbuf.load32, RteMbuf.byte]
  rw [h.buf (by omega), h.buf (by omega), h.buf (by omega), h.buf (by omega)]

/-- The addresses stand before the message. -/
theorem peerAddr (op : CmOp) (before : 8 * (p.l2Len.toNat + sizeofIphdr) ≤ s) :
    op.peerAddr q.toRteMbuf = op.peerAddr p.toRteMbuf := by
  have ip : mbufIp q.toRteMbuf = mbufIp p.toRteMbuf := congrArg (fun p => mbufIp p.toRteMbuf) h.rest
  simp only [sizeofIphdr] at before
  unfold CmOp.peerAddr daddr saddr
  rw [ip]
  by_cases ipv4 : p.packetType &&& rtePtypeL3Ipv4 ≠ 0
  · have here : mbufIp p.toRteMbuf = .ok p.l2Len.toNat := mbufIp_of_ipv4 ipv4
    rw [bind_of_ok here, bind_of_ok here, bind_of_ok here, bind_of_ok here, h.load32 (by omega), h.load32 (by omega)]
  · have here : mbufIp p.toRteMbuf = .error (.assertion .mbufIpv4) := by
      rw [mbufIp, bind_of_error (check_neg ipv4)]
    rw [bind_of_error here, bind_of_error here, bind_of_error here, bind_of_error here]

end Mbuf.Patched

/-- The tracker's `IBA_GET` is the one for 32 bits. -/
theorem ibaGet_eq {p : Mbuf} {msg : Nat} {field : IbaField} {v : BitVec 64} (word : p.Mapped (msg + field.offset) 4)
    (read : ibaGetLoc { field with numBits := 32 } p msg = .ok v) :
    ibaGet field p.toRteMbuf (some msg) = .ok (v.setWidth 32) := by
  have loaded : ibaLoad p (msg + field.offset) 4 = .ok ((p.word (msg + field.offset)).setWidth 64) := by
    rw [ibaLoad, bind_of_ok (Mbuf.load_eq word)]
    exact congrArg Except.ok (beWord_four _ _ _ _)
  have reg : p.be32 (msg + field.offset) = .ok (p.word (msg + field.offset)) := word.be32 (j := 0) (by decide)
  simp only [ibaGetLoc, Nat.reduceDiv] at read
  rw [bind_of_ok loaded] at read
  rw [ibaGet, bind_of_ok reg, ← Except.ok.inj read]
  congr 1
  apply BitVec.eq_of_getLsbD_eq
  intro j hj
  simp [hj, show j < 64 by omega]

namespace CmOp

variable (op : CmOp) {field : IbaField}

theorem entries_listed : ∀ f ∈ op.entries, f ∈ op.struct.fields := by
  cases op <;> decide +kernel

/-! The locations that a handler reads are those of its entries. -/

theorem localEntry_of (reads : op.localField = some field) :
    ∃ f, op.localEntry = some f ∧ f.loc = some { field with numBits := 32 } ∧ f ∈ op.entries := by
  cases op <;> cases reads <;> exact ⟨_, rfl, rfl, by decide⟩

theorem remoteEntry_of (reads : op.remoteField = some field) :
    ∃ f, op.remoteEntry = some f ∧ f.loc = some { field with numBits := 32 } ∧ f ∈ op.entries := by
  cases op <;> cases reads <;> exact ⟨_, rfl, rfl, by decide⟩

theorem qpnEntry_of (reads : op.qpnField = some field) :
    ∃ f, op.qpnEntry = some f ∧ f.loc = some { field with numBits := 32 } ∧ f ∈ op.entries := by
  cases op <;> cases reads <;> exact ⟨_, rfl, rfl, by decide⟩

end CmOp

/-- The value of an entry after some assignments. -/
def CmWrite.lastField (ws : List CmWrite) (f : CmField) : BitVec 32 :=
  (((lastValue f ws).getD 0#64).setWidth f.width).setWidth 32

section Composed

variable {op : CmOp} {ws : List CmWrite} {p q : Mbuf} {msg : Nat}

/-- An entry of a handler as the handler reads it. -/
theorem getField_composed {f : CmField} {field : IbaField} (mem : f ∈ op.entries)
    (generated : f.loc = some { field with numBits := 32 }) (filled : (CmWrite.lastValue f ws).isSome = true)
    (room : q.Mapped msg sizeofCmMsg) (mad : mbufMad q.toRteMbuf = .ok (some msg))
    (holds : ∀ f ∈ op.struct.fields, ∀ loc, f.loc = some loc → CmWrite.Holds ws msg p q f) :
    getField field q.toRteMbuf = .ok (CmWrite.lastField ws f) := by
  obtain ⟨v, last⟩ := Option.isSome_iff_exists.mp filled
  have listed := op.entries_listed f mem
  have located := ((fields_laid_out op.struct).2 f listed).2.2 _ generated
  have read := (holds f listed _ generated).get located room last
  have word : q.Mapped (msg + field.offset) 4 := by simpa using located.word room
  rw [getField_of mad, ibaGet_eq word read, CmWrite.lastField, last, Option.getD_some,
    BitVec.setWidth_setWidth_of_le _ (by decide)]

/-- The tracker reads what the sender composed: whatever is assigned to the fields of a message, in
whatever order and within each field, if the ids and the QPN are among them then the handler reads
these, as last assigned, and the address of the peer from the header. -/
theorem composed_read {addr : InAddrT} (listed : ∀ w ∈ ws, w.field ∈ op.struct.fields) (fits : ∀ w ∈ ws, w.Fits)
    (filled : ∀ f ∈ op.entries, (CmWrite.lastValue f ws).isSome = true) (room : p.Mapped msg sizeofCmMsg)
    (mad : mbufMad p.toRteMbuf = .ok (some msg)) (attr : getAttrId p.toRteMbuf = .ok op.attrId)
    (before : p.l2Len.toNat + sizeofIphdr ≤ msg) (peer : op.peerAddr p.toRteMbuf = .ok addr) :
    ∃ q, run (CmWrite.apply msg) p ws = .ok q ∧ Reads (q.toRteMbuf, op.dir) (op.composed addr (CmWrite.lastField ws)) := by
  obtain ⟨q, done, patched, holds⟩ := CmWrite.run_apply listed fits room
  have after : q.Mapped msg sizeofCmMsg := patched.room.mpr room
  have mad' : mbufMad q.toRteMbuf = .ok (some msg) := patched.mad.trans mad
  have attr' : getAttrId q.toRteMbuf = .ok op.attrId := by
    have header : q.be16 (msg + 16) = p.be16 (msg + 16) := by
      apply patched.be16
      simp only [sizeofIbMadHdr]
      omega
    rw [getAttrId, bind_of_ok mad] at attr
    rw [getAttrId, bind_of_ok mad']
    exact header.trans attr
  have addr' : op.peerAddr q.toRteMbuf = .ok addr := (patched.peerAddr op (by omega)).trans peer
  have entry : ∀ {f field}, f ∈ op.entries → f.loc = some { field with numBits := 32 } →
      getField field q.toRteMbuf = .ok (CmWrite.lastField ws f) :=
    fun mem generated => getField_composed mem generated (filled _ mem) after mad' holds
  refine ⟨q, done, ReadsFields.reads ⟨rfl, attr', ?_, ?_, ?_, ?_, ?_, ?_⟩⟩
  · intro field reads
    obtain ⟨f, here, generated, mem⟩ := op.localEntry_of reads
    rw [CmOp.composed, here]
    exact entry mem generated
  · intro unread
    cases op <;> cases unread
    rfl
  · intro field reads
    obtain ⟨f, here, generated, mem⟩ := op.remoteEntry_of reads
    rw [CmOp.composed, here]
    exact ⟨entry mem generated, addr'⟩
  · intro unread
    cases op <;> cases unread <;> rfl
  · intro field reads
    obtain ⟨f, here, generated, mem⟩ := op.qpnEntry_of reads
    rw [CmOp.composed, here]
    exact (entry mem generated).symm
  · intro unread
    cases op <;> cases unread <;> rfl

end Composed

/-- A REQ of the host. RESPONDER_RESOURCES shares a word with the QPN, which is given one bit too many. -/
def reqWrites : List CmWrite :=
  [.set (.field8 35 8) _ rfl 16#64, .set (.field32 32 24) _ rfl 0x1000011#64, .set (.field32 0 32) _ rfl 7#64,
    .setMem 140 736 [1, 2, 3], .set (.field32 36 24) _ rfl 9#64]

theorem composed_read_req :
    ∃ q, run (CmWrite.apply 62) (blankMbuf cmReqAttrId) reqWrites = .ok q ∧
      Reads (q.toRteMbuf, .FROM_HOST) ⟨.reqSent, 7#32, .null, .ok 0x11#32⟩ := by
  have listed : ∀ w ∈ reqWrites, w.field ∈ CmOp.reqSent.struct.fields := by decide
  have filled : ∀ f ∈ CmOp.reqSent.entries, (CmWrite.lastValue f reqWrites).isSome = true := by decide
  have peer : CmOp.reqSent.peerAddr (blankMbuf cmReqAttrId).toRteMbuf = .ok 0x0200000a#32 := by decide +kernel
  have attr : getAttrId (blankMbuf cmReqAttrId).toRteMbuf = .ok cmReqAttrId := by decide +kernel
  obtain ⟨q, done, reads⟩ := composed_read listed (by decide) filled (blankMbuf_room cmReqAttrId) rfl attr (by decide) peer
  exact ⟨q, done, reads⟩

end ConntrackCm
