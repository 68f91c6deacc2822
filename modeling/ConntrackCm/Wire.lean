import ConntrackCm.Lib.Run
import ConntrackCm.Lib.Bytes

/-!
# Reading CM messages out of an mbuf

The tracker sees a packet through three readers: the annotated MAD header
(`parser_context::mbuf_mad`), the IPv4 header (`mbuf_ip`) and the `IBA_GET` field macros of
`iba.h`. Packet memory is a partial function of the offset from `rte_pktmbuf_mtod`, so a
read that leaves the mapped bytes is a fault of its own, next to the failed assertions.
The host is little-endian: `__be16` and `__be32` fields are swapped by `be16toh` and
`be32toh`, `in_addr_t` fields are loaded as they stand.
-/

namespace ConntrackCm

open Lib

/-- The assertions a packet can reach, named after the function that makes them. -/
inductive Assertion where
  /-- `ctcm_mbuf_get_mad`: the annotated offset is inside the packet. -/
  | getMadOffset
  /-- `mbuf_ip`: the packet type is IPv4. -/
  | mbufIpv4
  /-- `get_flow`: one of the ids is set. -/
  | getFlowIds
  /-- `erase_flow`: one of the ids is set. -/
  | eraseFlowIds
  /-- `add_new_flow`: both indexes hold the same flow. -/
  | addNewFlowSame
  /-- `add_new_flow`: the flow in both indexes carries the two ids. -/
  | addNewFlowOwnIds
  /-- `add_new_flow`: a flow is only created under an id that is set. -/
  | addNewFlowIds
  /-- `add_new_flow`: a flow was picked. -/
  | addNewFlowState
  /-- `add_new_flow`: a local id is bound once. -/
  | addNewFlowLocalId
  /-- `add_new_flow`: a remote id is bound once. -/
  | addNewFlowRemoteId
  /-- `req_received`: a repeated REQ carries the same QPN. -/
  | reqReceivedQpn
  /-- `mbuf_udp`: there is an L3 header and the packet type is UDP. -/
  | mbufUdp
  /-- `mbuf_bth`: the lengths of the L3 and L4 headers are set. -/
  | mbufBth
  /-- `ctcm_mbuf_get_bth`, `ctcm_mbuf_set_bth` and `ctcm_mbuf_set_mad`: the offset is inside the
  packet. -/
  | getBthOffset
  | setBthOffset
  | setMadOffset
  deriving DecidableEq, Repr

/-- How processing a packet ends early. -/
inductive Fault where
  | assertion (a : Assertion)
  /-- A load outside the bytes mapped behind the packet, a null header included. -/
  | badRead (offset : Nat)
  /-- A store outside them. -/
  | badWrite (offset : Nat)
  deriving DecidableEq, Repr

/-- The part of `rte_mbuf` the tracker reads. -/
structure RteMbuf where
  /-- Memory from `rte_pktmbuf_mtod` on. -/
  buf : Nat → Option (BitVec 8)
  pktLen : BitVec 32
  packetType : BitVec 32
  l2Len : BitVec 7
  /-- The dynamic field "IB_MAD_HDR": the offset of the MAD header, 0 for none. -/
  madOffset : BitVec 16

inductive CtcmDirection where
  | FROM_HOST
  | FROM_NET
  deriving DecidableEq, Repr

namespace RteMbuf

def byte (p : RteMbuf) (i : Nat) : Except Fault (BitVec 8) :=
  match p.buf i with
  | some b => .ok b
  | none => .error (.badRead i)

/-- `be16toh` of the word at `i`. -/
def be16 (p : RteMbuf) (i : Nat) : Except Fault (BitVec 16) := do
  let b0 ← p.byte i
  let b1 ← p.byte (i + 1)
  return b0 ++ b1

/-- `be32toh` of the word at `i`. -/
def be32 (p : RteMbuf) (i : Nat) : Except Fault (BitVec 32) := do
  let b0 ← p.byte i
  let b1 ← p.byte (i + 1)
  let b2 ← p.byte (i + 2)
  let b3 ← p.byte (i + 3)
  return b0 ++ b1 ++ b2 ++ b3

/-- The word at `i` in host order. -/
def load32 (p : RteMbuf) (i : Nat) : Except Fault (BitVec 32) := do
  let b0 ← p.byte i
  let b1 ← p.byte (i + 1)
  let b2 ← p.byte (i + 2)
  let b3 ← p.byte (i + 3)
  return b3 ++ b2 ++ b1 ++ b0

end RteMbuf

/-! ## Header locations -/

/-- `parser_context::mbuf_mad`, through `ctcm_mbuf_get_mad`. -/
def mbufMad (p : RteMbuf) : Except Fault (Option Nat) :=
  if p.madOffset ≠ 0 then do
    check (p.madOffset.toNat < p.pktLen.toNat) (.assertion .getMadOffset)
    return some p.madOffset.toNat
  else
    return none

/-- `RTE_PTYPE_L3_IPV4`, the bit `RTE_ETH_IS_IPV4_HDR` tests. -/
def rtePtypeL3Ipv4 : BitVec 32 := 0x10

/-- `mbuf_ip`: the offset of the IPv4 header. -/
def mbufIp (p : RteMbuf) : Except Fault Nat := do
  check (p.packetType &&& rtePtypeL3Ipv4 ≠ 0) (.assertion .mbufIpv4)
  return p.l2Len.toNat

theorem mbufIp_of_ipv4 {p : RteMbuf} (ipv4 : p.packetType &&& rtePtypeL3Ipv4 ≠ 0) : mbufIp p = .ok p.l2Len.toNat := by
  rw [mbufIp, bind_of_ok (check_pos ipv4)]
  rfl

/-- `mbuf_ip(p)->saddr`. -/
def saddr (p : RteMbuf) : Except Fault (BitVec 32) := do
  let ip ← mbufIp p
  p.load32 (ip + 12)

/-- `mbuf_ip(p)->daddr`. -/
def daddr (p : RteMbuf) : Except Fault (BitVec 32) := do
  let ip ← mbufIp p
  p.load32 (ip + 16)

/-! ## `IBA_GET` -/

/-- A 32-bit field location: the aligned offset of its word and its mask in CPU order. -/
structure IbaField where
  offset : Nat
  mask : BitVec 64
  deriving DecidableEq, Repr

/-- `GENMASK(h, l)`: bits `l` to `h`. -/
def genmask (h l : Nat) : BitVec 64 :=
  (~~~0#64 - (1#64 <<< l) + 1) &&& (~~~0#64 >>> (63 - h))

/-- `__bf_shf`: the position of the lowest bit of a mask. -/
def bfShf (mask : BitVec 64) : Nat :=
  ((List.range 64).find? fun i => mask.getLsbD i).getD 64

/-- `FIELD_GET`. -/
def fieldGet (mask reg : BitVec 64) : BitVec 64 := (reg &&& mask) >>> bfShf mask

/-- `IBA_FIELD32_LOC`. -/
def ibaField32Loc (byteOffset numBits : Nat) : IbaField where
  offset := byteOffset &&& 0xFFFC
  mask := genmask (31 - byteOffset % 4 * 8) (31 - byteOffset % 4 * 8 - (numBits - 1))

/-- `sizeof(struct ib_mad_hdr)`. -/
def sizeofIbMadHdr : Nat := 24

/-- `CM_FIELD32_LOC`: message bodies follow the common MAD header. -/
def cmField32Loc (byteOffset width : Nat) : IbaField :=
  ibaField32Loc (byteOffset + sizeofIbMadHdr) width

/-- `IBA_GET` on the message at `msg`. -/
def ibaGet (field : IbaField) (p : RteMbuf) (msg : Option Nat) : Except Fault (BitVec 32) :=
  match msg with
  | none => .error (.badRead field.offset)
  | some base => do
    let reg ← p.be32 (base + field.offset)
    return (fieldGet field.mask (reg.setWidth 64)).setWidth 32

def cmReqLocalCommId : IbaField := cmField32Loc 0 32
def cmReqLocalQpn : IbaField := cmField32Loc 32 24
def cmRejLocalCommId : IbaField := cmField32Loc 0 32
def cmRejRemoteCommId : IbaField := cmField32Loc 4 32
def cmRepLocalCommId : IbaField := cmField32Loc 0 32
def cmRepRemoteCommId : IbaField := cmField32Loc 4 32
def cmRepLocalQpn : IbaField := cmField32Loc 12 24
def cmRtuLocalCommId : IbaField := cmField32Loc 0 32
def cmRtuRemoteCommId : IbaField := cmField32Loc 4 32
def cmDreqLocalCommId : IbaField := cmField32Loc 0 32
def cmDreqRemoteCommId : IbaField := cmField32Loc 4 32
def cmDrepLocalCommId : IbaField := cmField32Loc 0 32
def cmDrepRemoteCommId : IbaField := cmField32Loc 4 32

/-! ## Message kinds -/

def cmReqAttrId : BitVec 16 := 0x0010
def cmRejAttrId : BitVec 16 := 0x0012
def cmRepAttrId : BitVec 16 := 0x0013
def cmRtuAttrId : BitVec 16 := 0x0014
def cmDreqAttrId : BitVec 16 := 0x0015
def cmDrepAttrId : BitVec 16 := 0x0016
def cmMaxAttrId : BitVec 16 := 0x20

/-- `get_attr_id`: `attr_id` is the big-endian halfword 16 bytes into the MAD header. -/
def getAttrId (p : RteMbuf) : Except Fault (BitVec 16) := do
  match ← mbufMad p with
  | none => .error (.badRead 16)
  | some base => p.be16 (base + 16)

/-- What `process_packet` logs of a message without a handler: `base_version`, `mgmt_class`,
`class_version` and `method`, the first four bytes of the MAD header. -/
def logUnknown (p : RteMbuf) : Except Fault Unit := do
  match ← mbufMad p with
  | none => .error (.badRead 0)
  | some base =>
    let _ ← p.byte base
    let _ ← p.byte (base + 1)
    let _ ← p.byte (base + 2)
    let _ ← p.byte (base + 3)
    return ()

/-! ## Laying out a message -/

/-- Byte `i` of a word stored big-endian at `base`. -/
def beAt (base : Nat) (v : BitVec 32) (i : Nat) : Option (BitVec 8) :=
  if base ≤ i ∧ i < base + 4 then some ((v >>> (8 * (3 - (i - base)))).setWidth 8) else none

/-- Byte `i` of a word stored in host order at `base`. -/
def hostAt (base : Nat) (v : BitVec 32) (i : Nat) : Option (BitVec 8) :=
  if base ≤ i ∧ i < base + 4 then some ((v >>> (8 * (i - base))).setWidth 8) else none

/-- A whole CM datagram as an endpoint sends it: Ethernet, IPv4, UDP, BTH and DETH headers,
a 256-byte MAD and the ICRC, with the addresses, the attribute, the communication ids and
the QPN in place and every other byte 0. The QPN is put both where a REQ and where a REP has
it. -/
def cmMbuf (attrId : BitVec 16) (src dst localCommId remoteCommId qpn : BitVec 32) : RteMbuf where
  buf i :=
    if i < 322 then
      some ((hostAt 26 src i <|> hostAt 30 dst i <|> beAt 78 (attrId ++ 0#16) i <|> beAt 86 localCommId i <|>
        beAt 90 remoteCommId i <|> beAt 98 (qpn <<< 8) i <|> beAt 118 (qpn <<< 8) i).getD 0#8)
    else none
  pktLen := 322
  packetType := 0x210
  l2Len := 14
  madOffset := 62

section ReadBack

/-- The bytes of a big-endian word. -/
theorem be_bytes (v : BitVec 32) :
    (v >>> 24).setWidth 8 ++ (v >>> 16).setWidth 8 ++ (v >>> 8).setWidth 8 ++ (v >>> 0).setWidth 8 = v := by
  simp only [BitVec.setWidth_ushiftRight_eq_extractLsb]
  exact join_four v

theorem be_half (v : BitVec 16) : ((v ++ 0#16) >>> 24).setWidth 8 ++ ((v ++ 0#16) >>> 16).setWidth 8 = v := by
  rw [BitVec.setWidth_ushiftRight_eq_extractLsb, BitVec.setWidth_ushiftRight_eq_extractLsb,
    BitVec.extractLsb'_append_eq_of_le (by decide), BitVec.extractLsb'_append_eq_of_le (by decide)]
  exact join_two v

variable (attrId : BitVec 16) (src dst l r q : BitVec 32)

/-! A datagram reads back what it was made of. -/

theorem cmMbuf_attrId : getAttrId (cmMbuf attrId src dst l r q) = .ok attrId := by
  have stored : getAttrId (cmMbuf attrId src dst l r q) =
    .ok (((attrId ++ 0#16) >>> 24).setWidth 8 ++ ((attrId ++ 0#16) >>> 16).setWidth 8) := rfl
  rw [stored, be_half]

theorem cmMbuf_addr : saddr (cmMbuf attrId src dst l r q) = .ok src ∧ daddr (cmMbuf attrId src dst l r q) = .ok dst := by
  have ip : mbufIp (cmMbuf attrId src dst l r q) = .ok 14 :=
    mbufIp_of_ipv4 (by decide : (0x210 : BitVec 32) &&& rtePtypeL3Ipv4 ≠ 0)
  constructor
  · have stored : (cmMbuf attrId src dst l r q).load32 (14 + 12) = .ok
      ((src >>> 24).setWidth 8 ++ (src >>> 16).setWidth 8 ++ (src >>> 8).setWidth 8 ++ (src >>> 0).setWidth 8) := rfl
    rw [saddr, bind_of_ok ip, stored, be_bytes]
  · have stored : (cmMbuf attrId src dst l r q).load32 (14 + 16) = .ok
      ((dst >>> 24).setWidth 8 ++ (dst >>> 16).setWidth 8 ++ (dst >>> 8).setWidth 8 ++ (dst >>> 0).setWidth 8) := rfl
    rw [daddr, bind_of_ok ip, stored, be_bytes]

end ReadBack

end ConntrackCm
