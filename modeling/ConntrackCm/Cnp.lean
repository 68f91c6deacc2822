import ConntrackCm.Parser
import ConntrackCm.Lib.Bytes

/-!
# Congestion notification packets

`cnp.cpp`: `ctcm_fill_cnp_template` appends a template of 60 bytes to an mbuf, IPv4 and UDP
headers, a BTH, 16 reserved bytes and room for the ICRC; `ctcm_generate_cnp` completes it for a
QP. `rte_pktmbuf_append` and `rte_net_crc_calc` are DPDK's and parameters here. The template
is written at the tail that `rte_pktmbuf_append` returns, the QP number and the ICRC where
the header lengths of the mbuf say.
-/

namespace ConntrackCm

open Lib

/-! ## Layout of the headers -/

def sizeofIphdr : Nat := 20

namespace Iphdr
def tos : Nat := 1
def totLen : Nat := 2
def fragOff : Nat := 6
def ttl : Nat := 8
def protocol : Nat := 9
def check : Nat := 10
end Iphdr

namespace Udphdr
def sport : Nat := 0
def dport : Nat := 2
def ulen : Nat := 4
def check : Nat := 6
end Udphdr

namespace RxeBth
def opcode : Nat := 0
def pkey : Nat := 2
def qpn : Nat := 4
end RxeBth

def ipDf : BitVec 16 := 0x4000
def ipprotoUdp : BitVec 8 := 17
def bthFecnMask : BitVec 32 := 0x80000000
def bthBecnMask : BitVec 32 := 0x40000000
def bthResv6aMask : BitVec 32 := 0x3f000000

def ctcmBthLength : Nat := 12
def ctcmIcrcLength : Nat := 4
def ctcmCnpLength : Nat := 16
def ctcmCnpTotalLength : Nat := ctcmBthLength + ctcmCnpLength + ctcmIcrcLength

/-! ## Stores -/

namespace Mbuf

/-- The packet with the bytes `bs` from `i` on. -/
def put (p : Mbuf) (i : Nat) (bs : List (BitVec 8)) : Mbuf := { p with buf := overlay p.buf i bs }

/-- A store of the bytes `bs`, all of them where memory is mapped. -/
def store (p : Mbuf) (i : Nat) (bs : List (BitVec 8)) : Except Fault Mbuf := do
  check (p.Mapped i bs.length) (.badWrite i)
  return p.put i bs

/-- The `n` bytes from `i` on. -/
def load (p : Mbuf) (i n : Nat) : Except Fault (List (BitVec 8)) := do
  check (p.Mapped i n) (.badRead i)
  return (List.range n).map fun k => p.octet (i + k)

end Mbuf

/-- `ip->version = v`, the high half of the first byte. -/
def ipSetVersion (p : Mbuf) (ip : Nat) (v : BitVec 4) : Except Fault Mbuf := do
  let old ← p.byte ip
  p.store ip [v ++ old.extractLsb' 0 4]

/-- `ip->ihl = v`, the low half. -/
def ipSetIhl (p : Mbuf) (ip : Nat) (v : BitVec 4) : Except Fault Mbuf := do
  let old ← p.byte ip
  p.store ip [old.extractLsb' 4 4 ++ v]

/-- `__bth_set_opcode`. -/
def bthSetOpcode (p : Mbuf) (bth : Nat) (opcode : BitVec 8) : Except Fault Mbuf :=
  p.store (bth + RxeBth.opcode) [opcode]

/-- `__bth_set_pkey`. -/
def bthSetPkey (p : Mbuf) (bth : Nat) (pkey : BitVec 16) : Except Fault Mbuf :=
  p.store (bth + RxeBth.pkey) (bigEndian 2 pkey)

/-- `__bth_set_becn`. The mask is swapped instead of the word. -/
def bthSetBecn (p : Mbuf) (bth : Nat) (becn : Bool) : Except Fault Mbuf := do
  let qpn ← p.be32 (bth + RxeBth.qpn)
  p.store (bth + RxeBth.qpn) (bigEndian 4 (if becn then qpn ||| bthBecnMask else qpn &&& ~~~bthBecnMask))

/-- `__bth_set_qpn`. -/
def bthSetQpn (p : Mbuf) (bth : Nat) (qpn : BitVec 32) : Except Fault Mbuf := do
  let resvqpn ← p.be32 (bth + RxeBth.qpn)
  p.store (bth + RxeBth.qpn) (bigEndian 4 ((bthQpnMask &&& qpn) ||| (~~~bthQpnMask &&& resvqpn)))

/-! ## The template -/

section Template

/-- The type and the header lengths of a CNP. -/
def setCnpLengths (cnp : Mbuf) : Mbuf :=
  { cnp with
    packetType := rtePtypeL4Udp ||| rtePtypeL3Ipv4
    l3Len := BitVec.ofNat 9 sizeofIphdr
    l4Len := BitVec.ofNat 8 sizeofUdphdr }

/-- The headers of the template, written at the tail `ip` of the packet. -/
def fillCnpHeaders (p : Mbuf) (ip : Nat) : Except Fault Mbuf := do
  let len := sizeofIphdr + sizeofUdphdr + ctcmCnpTotalLength
  let p ← p.store ip (List.replicate len 0)
  let p ← ipSetVersion p ip 4
  let p ← ipSetIhl p ip (BitVec.ofNat 4 (sizeofIphdr / 4))
  let p ← p.store (ip + Iphdr.ttl) [255]
  let p ← p.store (ip + Iphdr.protocol) [ipprotoUdp]
  let p ← p.store (ip + Iphdr.fragOff) (bigEndian 2 ipDf)
  let p ← p.store (ip + Iphdr.tos) [0xc2]
  let p ← p.store (ip + Iphdr.totLen) (bigEndian 2 (BitVec.ofNat 16 len))
  let udp := ip + sizeofIphdr
  let p ← p.store (udp + Udphdr.sport) (bigEndian 2 (0xf000 : BitVec 16))
  let p ← p.store (udp + Udphdr.dport) (bigEndian 2 udpPortRoceV2)
  let p ← p.store (udp + Udphdr.ulen) (bigEndian 2 (BitVec.ofNat 16 (sizeofUdphdr + ctcmCnpTotalLength)))
  let bth := udp + sizeofUdphdr
  let p ← bthSetOpcode p bth 0x81
  let p ← bthSetBecn p bth true
  bthSetPkey p bth 0xffff

-- `rte_pktmbuf_append`: the tail of the data, if there was room behind it
variable (rtePktmbufAppend : Mbuf → Nat → Option (Nat × Mbuf))

/-- `ctcm_fill_cnp_template`: the return code and the packet, whose lengths are set in any case. -/
def ctcmFillCnpTemplate (cnp : Mbuf) : Except Fault (Int × Mbuf) :=
  match rtePktmbufAppend (setCnpLengths cnp) (sizeofIphdr + sizeofUdphdr + ctcmCnpTotalLength) with
  | none => return (-1, setCnpLengths cnp)
  | some (ip, cnp) => do
    let cnp ← fillCnpHeaders cnp ip
    return (0, cnp)

end Template

/-! ## The CNP -/

/-- `mbuf_bth`: the offset of the BTH. -/
def mbufBth (p : Mbuf) : Except Fault Nat := do
  check (p.l3Len ≠ 0 ∧ p.l4Len ≠ 0) (.assertion .mbufBth)
  return p.l2Len.toNat + p.l3Len.toNat + p.l4Len.toNat

/-- `cnp_icrc_pseudo_packet`: 8 reserved bytes, the headers and `CTCM_CNP_LENGTH` more. -/
def sizeofCnpIcrcPseudoPacket : Nat := 8 + sizeofIphdr + sizeofUdphdr + sizeofRxeBth + ctcmCnpLength

/-- `__bth_qpn` of the BTH at `bth` in the pseudo packet. -/
def phdrBthQpn (phdr : List (BitVec 8)) (bth : Nat) : BitVec 32 :=
  bthQpnMask &&& (phdr.getD (bth + 4) 0 ++ phdr.getD (bth + 5) 0 ++ phdr.getD (bth + 6) 0 ++ phdr.getD (bth + 7) 0)

/-- The pseudo packet of the `header` bytes, with the fields that routers may change set to ones. -/
def cnpIcrcPseudoPacket (header : List (BitVec 8)) : List (BitVec 8) :=
  let ip := 8
  let udp := ip + sizeofIphdr
  let bth := udp + sizeofUdphdr
  let phdr := List.replicate 8 0xff ++ header
  let phdr := splice phdr (ip + Iphdr.check) [0xff, 0xff]
  let phdr := splice phdr (ip + Iphdr.ttl) [0xff]
  let phdr := splice phdr (ip + Iphdr.tos) [0xff]
  let phdr := splice phdr (udp + Udphdr.check) [0xff, 0xff]
  splice phdr (bth + RxeBth.qpn)
    (bigEndian 4 (bthFecnMask ||| bthBecnMask ||| bthResv6aMask ||| phdrBthQpn phdr bth))

/-- `ctcm_generate_cnp`. The ICRC is stored as the host holds it. -/
def ctcmGenerateCnp (rteNetCrcCalc : List (BitVec 8) → BitVec 32) (cnp : Mbuf) (destQpn : BitVec 32) :
    Except Fault Mbuf := do
  let ip ← mbufIp cnp.toRteMbuf
  let bth ← mbufBth cnp
  let cnp ← bthSetQpn cnp bth destQpn
  let header ← cnp.load ip (sizeofCnpIcrcPseudoPacket - 8)
  let icrc := rteNetCrcCalc (cnpIcrcPseudoPacket header)
  cnp.store (bth + sizeofRxeBth + ctcmCnpLength) (littleEndian 4 icrc)

/-! ## What the stores do -/

namespace Mbuf

variable {p : Mbuf} {i j n : Nat} {bs cs : List (BitVec 8)}

theorem store_eq (there : p.Mapped i bs.length) : p.store i bs = .ok (p.put i bs) := by
  rw [store, bind_of_ok (check_pos there)]
  rfl

theorem store_bad (gap : ¬ p.Mapped i bs.length) : p.store i bs = .error (.badWrite i) := bind_of_error (check_neg gap)

theorem load_eq (there : p.Mapped i n) : p.load i n = .ok ((List.range n).map fun k => p.octet (i + k)) := by
  rw [load, bind_of_ok (check_pos there)]
  rfl

/-- What is mapped stays mapped. -/
theorem mapped_put (there : p.Mapped i bs.length) : (p.put i bs).Mapped j n ↔ p.Mapped j n := by
  simp only [RteMbuf.Mapped, put, isSome_overlay there]

theorem octet_inside (inside : n < bs.length) : (p.put i bs).octet (i + n) = bs.getD n 0 := by
  simp only [RteMbuf.octet, put, overlay_inside inside, List.getD_eq_getElem?_getD]
  rfl

theorem octet_outside (outside : j < i ∨ i + bs.length ≤ j) : (p.put i bs).octet j = p.octet j := by
  simp only [RteMbuf.octet, put, overlay_outside outside]

/-- A load gives back what was stored. -/
theorem load_put (there : p.Mapped i bs.length) : (p.put i bs).load i bs.length = .ok bs := by
  rw [load_eq ((mapped_put there).mpr there)]
  congr 1
  apply List.ext_getElem?
  intro j
  rw [getElem?_map_range]
  by_cases inside : j < bs.length
  · rw [if_pos inside, octet_inside inside, List.getD_eq_getElem?_getD, List.getElem?_eq_getElem inside]
    rfl
  · rw [if_neg inside, List.getElem?_eq_none (by omega)]

/-! Stores and loads inside a range that was just written. -/

section Within

variable {k : Nat} (room : p.Mapped i n) (size : bs.length = n)

include room size

theorem store_within (inside : k + cs.length ≤ n) : (p.put i bs).store (i + k) cs = .ok (p.put i (splice bs k cs)) := by
  subst size
  have there : (p.put i bs).Mapped (i + k) cs.length := by
    rw [mapped_put room]
    exact room.part inside
  rw [store_eq there, put, put, put, overlay_within inside]

theorem byte_within (inside : k < n) : (p.put i bs).byte (i + k) = .ok (bs.getD k 0) := by
  subst size
  have there : (p.put i bs).Mapped i bs.length := (mapped_put room).mpr room
  rw [there.byte inside, octet_inside inside]

theorem be32_within (inside : k + 4 ≤ n) :
    (p.put i bs).be32 (i + k) = .ok (bs.getD k 0 ++ bs.getD (k + 1) 0 ++ bs.getD (k + 2) 0 ++ bs.getD (k + 3) 0) := by
  subst size
  have there : (p.put i bs).Mapped i bs.length := (mapped_put room).mpr room
  have octet : ∀ d, d < 4 → (p.put i bs).octet (i + k + d) = bs.getD (k + d) 0 := by
    intro d hd
    rw [Nat.add_assoc, octet_inside (by omega)]
  rw [there.be32 inside, RteMbuf.word, octet 1 (by decide), octet 2 (by decide), octet 3 (by decide)]
  exact congrArg (fun b => Except.ok (b ++ _ ++ _ ++ _)) (octet 0 (by decide))

end Within

end Mbuf

/-! ## What the template holds -/

/-- The bytes of a template: IPv4, UDP, BTH, reserved bytes and ICRC. -/
def cnpTemplate : List (BitVec 8) :=
  [0x45, 0xc2, 0x00, 0x3c, 0x00, 0x00, 0x40, 0x00, 0xff, 0x11, 0x00, 0x00] ++ List.replicate 8 0x00 ++
  [0xf0, 0x00, 0x12, 0xb7, 0x00, 0x28, 0x00, 0x00] ++
  [0x81, 0x00, 0xff, 0xff, 0x40, 0x00, 0x00, 0x00, 0x00, 0x00, 0x00, 0x00] ++ List.replicate 20 0x00

section Fields

variable {p : Mbuf} {ip : Nat} {bs : List (BitVec 8)} (room : p.Mapped ip 60) (size : bs.length = 60)

include room size

theorem ipSetVersion_eq {v : BitVec 4} :
    ipSetVersion (p.put ip bs) ip v = .ok (p.put ip (splice bs 0 [v ++ (bs.getD 0 0).extractLsb' 0 4])) := by
  have old : (p.put ip bs).byte ip = .ok (bs.getD 0 0) := Mbuf.byte_within room size (k := 0) (by decide)
  rw [ipSetVersion, bind_of_ok old]
  exact Mbuf.store_within room size (k := 0) (by simp)

theorem ipSetIhl_eq {v : BitVec 4} :
    ipSetIhl (p.put ip bs) ip v = .ok (p.put ip (splice bs 0 [(bs.getD 0 0).extractLsb' 4 4 ++ v])) := by
  have old : (p.put ip bs).byte ip = .ok (bs.getD 0 0) := Mbuf.byte_within room size (k := 0) (by decide)
  rw [ipSetIhl, bind_of_ok old]
  exact Mbuf.store_within room size (k := 0) (by simp)

theorem bthSetBecn_eq : bthSetBecn (p.put ip bs) (ip + 28) true = .ok (p.put ip (splice bs 32
    (bigEndian 4 ((bs.getD 32 0 ++ bs.getD 33 0 ++ bs.getD 34 0 ++ bs.getD 35 0) ||| bthBecnMask)))) := by
  have old : (p.put ip bs).be32 (ip + 32) = _ := Mbuf.be32_within room size (by decide)
  refine (bind_of_ok old).trans ?_
  exact Mbuf.store_within room size (k := 32) (by rw [length_bigEndian]; decide)

end Fields

theorem fillCnpHeaders_eq {p : Mbuf} {ip : Nat} (room : p.Mapped ip 60) :
    fillCnpHeaders p ip = .ok (p.put ip cnpTemplate) := by
  have zeroed : p.store ip (List.replicate 60 0) = .ok (p.put ip (List.replicate 60 0)) := Mbuf.store_eq room
  unfold fillCnpHeaders
  refine (bind_of_ok zeroed).trans ?_
  refine (bind_of_ok (ipSetVersion_eq room rfl)).trans ?_
  refine (bind_of_ok (ipSetIhl_eq room rfl)).trans ?_
  refine (bind_of_ok (Mbuf.store_within room rfl (k := 8) (by decide))).trans ?_
  refine (bind_of_ok (Mbuf.store_within room rfl (k := 9) (by decide))).trans ?_
  refine (bind_of_ok (Mbuf.store_within room rfl (k := 6) (by decide))).trans ?_
  refine (bind_of_ok (Mbuf.store_within room rfl (k := 1) (by decide))).trans ?_
  refine (bind_of_ok (Mbuf.store_within room rfl (k := 2) (by decide))).trans ?_
  refine (bind_of_ok (Mbuf.store_within room rfl (k := 20) (by decide))).trans ?_
  refine (bind_of_ok (Mbuf.store_within room rfl (k := 22) (by decide))).trans ?_
  refine (bind_of_ok (Mbuf.store_within room rfl (k := 24) (by decide))).trans ?_
  refine (bind_of_ok (Mbuf.store_within room rfl (k := 28) (by decide))).trans ?_
  refine (bind_of_ok (bthSetBecn_eq room rfl)).trans ?_
  refine (Mbuf.store_within room rfl (k := 30) (by decide)).trans ?_
  exact congrArg (fun bs => Except.ok (p.put ip bs)) (by decide)

/-- What DPDK documents of `rte_pktmbuf_append`, for a packet in one segment: the added bytes
start where the data ended, they can be written, and nothing but the length changes. -/
structure Appends (rtePktmbufAppend : Mbuf → Nat → Option (Nat × Mbuf)) : Prop where
  tail : ∀ {p p' : Mbuf} {n t : Nat}, rtePktmbufAppend p n = some (t, p') → t = p.pktLen.toNat
  mbuf : ∀ {p p' : Mbuf} {n t : Nat}, rtePktmbufAppend p n = some (t, p') →
    p' = { p with pktLen := p.pktLen + BitVec.ofNat 32 n }
  room : ∀ {p p' : Mbuf} {n t : Nat}, rtePktmbufAppend p n = some (t, p') → p.Mapped t n

/-- The packet as a CNP, with the template behind its data. -/
def Mbuf.template (m : Mbuf) : Mbuf :=
  { setCnpLengths m with buf := overlay m.buf m.pktLen.toNat cnpTemplate, pktLen := m.pktLen + 60 }

theorem cnp_size : sizeofIphdr + sizeofUdphdr + ctcmCnpTotalLength = 60 := rfl

section Filled

variable {append : Mbuf → Nat → Option (Nat × Mbuf)} (appends : Appends append) {m : Mbuf}

include appends

/-- Where there is room, the template is filled in behind the data. -/
theorem ctcmFillCnpTemplate_eq {ip : Nat} {p : Mbuf} (appended : append (setCnpLengths m) 60 = some (ip, p)) :
    ctcmFillCnpTemplate append m = .ok (0, m.template) ∧ m.Mapped m.pktLen.toNat 60 := by
  have tail : ip = (setCnpLengths m).pktLen.toNat := appends.tail appended
  have mbuf := appends.mbuf appended
  have room : (setCnpLengths m).Mapped ip 60 := appends.room appended
  have there : p.Mapped ip 60 := by
    rw [mbuf]
    exact room
  have filled : ctcmFillCnpTemplate append m = fillCnpHeaders p ip >>= fun cnp => .ok (0, cnp) := by
    rw [ctcmFillCnpTemplate, cnp_size, appended]
    rfl
  subst tail mbuf
  rw [filled, bind_of_ok (fillCnpHeaders_eq there)]
  exact ⟨rfl, room⟩

theorem ctcmFillCnpTemplate_ok {f : Mbuf} (filled : ctcmFillCnpTemplate append m = .ok (0, f)) :
    f = m.template ∧ m.Mapped m.pktLen.toNat 60 := by
  cases appended : append (setCnpLengths m) 60 with
  | none =>
    have failed : ctcmFillCnpTemplate append m = .ok (-1, setCnpLengths m) := by
      rw [ctcmFillCnpTemplate, cnp_size, appended]
      rfl
    rw [failed] at filled
    cases filled
  | some added =>
    obtain ⟨template, room⟩ := ctcmFillCnpTemplate_eq appends appended
    rw [template] at filled
    cases filled
    exact ⟨rfl, room⟩

end Filled

/-! ## What a CNP holds -/

/-- The bytes of a CNP that may change on its way: TOS, TTL, the checksums of IPv4 and UDP, and
the byte of FECN, BECN and reserved bits. -/
def variantBytes : List Nat := [1, 8, 10, 11, 26, 27, 32]

/-- What the ICRC of the packet at `ip` covers: eight bytes of ones, then the first 56 bytes of the
packet with ones for the variant bytes. -/
def Mbuf.icrcInput (p : Mbuf) (ip : Nat) : List (BitVec 8) :=
  List.replicate 8 0xff ++ (List.range 56).map fun i => if i ∈ variantBytes then 0xff else p.octet (ip + i)

section PseudoPacket

variable (f : Nat → BitVec 8)

theorem pseudo_tabulated : List.replicate 8 0xff ++ (List.range 56).map f =
    (List.range 64).map fun j => if j < 8 then 0xff else f (j - 8) := by
  have cut : List.range 64 = List.range 8 ++ (List.range 56).map (8 + ·) := List.range_add (n := 8) (m := 56)
  have back : (fun j => if j < 8 then 0xff else f (j - 8)) ∘ (8 + ·) = f := by
    funext i
    have above : ¬ 8 + i < 8 := by omega
    simp [above]
  rw [cut, List.map_append, List.map_map, back]
  rfl

theorem phdrBthQpn_eq : phdrBthQpn ((List.range 64).map f) 36 = bthQpnMask &&& (f 40 ++ f 41 ++ f 42 ++ f 43) := by
  simp only [phdrBthQpn, List.getD_eq_getElem?_getD, getElem?_map_range]
  rfl

/-- The BTH word with ones above the QP number. -/
theorem bigEndian_variant (a b c d : BitVec 8) :
    bigEndian 4 (bthFecnMask ||| bthBecnMask ||| bthResv6aMask ||| (bthQpnMask &&& (a ++ b ++ c ++ d))) =
      [0xff, b, c, d] := by
  have qpn : bigEndian 4 bthQpnMask = [0, 0xff, 0xff, 0xff] := by decide
  have ones : bigEndian 4 (bthFecnMask ||| bthBecnMask ||| bthResv6aMask) = [0xff, 0, 0, 0] := by decide
  rw [bigEndian_or, bigEndian_and, bigEndian_word, qpn, ones]
  simp [ones_and]

/-- Storing that word changes the byte above the QP number only. -/
theorem splice_variant : splice ((List.range 64).map f) 40 [0xff, f 41, f 42, f 43] =
    (List.range 64).map fun j => if 40 ≤ j ∧ j < 40 + 1 then 0xff else f j := by
  have own : ∀ k, k < [f 41, f 42, f 43].length → ((List.range 64).map f)[40 + 1 + k]? = [f 41, f 42, f 43][k]? := by
    intro k hk
    simp only [List.length_cons, List.length_nil] at hk
    obtain rfl | rfl | rfl : k = 0 ∨ k = 1 ∨ k = 2 := by omega
    · rw [getElem?_map_range]
      rfl
    · rw [getElem?_map_range]
      rfl
    · rw [getElem?_map_range]
      rfl
  rw [splice_cons (by simp) own]
  exact splice_replicate (k := 1) (by decide)

/-- The pseudo packet is what the ICRC covers. -/
theorem cnpIcrcPseudoPacket_eq (p : Mbuf) (ip : Nat) :
    cnpIcrcPseudoPacket ((List.range 56).map fun k => p.octet (ip + k)) = p.icrcInput ip := by
  have check : ∀ g : Nat → BitVec 8, splice ((List.range 64).map g) 18 [0xff, 0xff] = _ :=
    fun g => splice_replicate (k := 2) (by decide)
  have ttl : ∀ g : Nat → BitVec 8, splice ((List.range 64).map g) 16 [0xff] = _ :=
    fun g => splice_replicate (k := 1) (by decide)
  have tos : ∀ g : Nat → BitVec 8, splice ((List.range 64).map g) 9 [0xff] = _ :=
    fun g => splice_replicate (k := 1) (by decide)
  have udpCheck : ∀ g : Nat → BitVec 8, splice ((List.range 64).map g) 34 [0xff, 0xff] = _ :=
    fun g => splice_replicate (k := 2) (by decide)
  unfold cnpIcrcPseudoPacket
  simp only [sizeofIphdr, sizeofUdphdr, Iphdr.check, Iphdr.ttl, Iphdr.tos, Udphdr.check, RxeBth.qpn, Nat.reduceAdd]
  rw [pseudo_tabulated, check, ttl, tos, udpCheck, phdrBthQpn_eq, bigEndian_variant, splice_variant, Mbuf.icrcInput,
    pseudo_tabulated]
  apply List.map_congr_left
  intro j _
  by_cases front : j < 8
  · rw [if_neg (by omega), if_neg (by omega), if_neg (by omega), if_neg (by omega), if_neg (by omega), if_pos front,
      if_pos front]
  · simp only [if_neg front]
    by_cases variant : j - 8 ∈ variantBytes
    · rw [if_pos variant]
      simp only [variantBytes, List.mem_cons, List.not_mem_nil, or_false] at variant
      split_ifs <;> first | rfl | omega
    · rw [if_neg variant]
      simp only [variantBytes, List.mem_cons, List.not_mem_nil, or_false] at variant
      rw [if_neg (by omega), if_neg (by omega), if_neg (by omega), if_neg (by omega), if_neg (by omega)]

end PseudoPacket

/-- A packet with the type and the header lengths that the template sets. -/
structure Mbuf.IsCnp (p : Mbuf) : Prop where
  ipv4 : p.packetType &&& rtePtypeL3Ipv4 ≠ 0
  l3Len : p.l3Len = 20
  l4Len : p.l4Len = 8

namespace Mbuf

/-- The packet with the QP number in its BTH. -/
def setQpn (p : Mbuf) (q : BitVec 32) : Mbuf := p.put (p.l2Len.toNat + 33) (bigEndian 3 q)

/-- The packet with the ICRC at its end. -/
def setIcrc (p : Mbuf) (icrc : BitVec 32) : Mbuf := p.put (p.l2Len.toNat + 56) (littleEndian 4 icrc)

/-- The CNP for a QP. -/
def cnpFor (crc : List (BitVec 8) → BitVec 32) (p : Mbuf) (q : BitVec 32) : Mbuf :=
  (p.setQpn q).setIcrc (crc ((p.setQpn q).icrcInput p.l2Len.toNat))

theorem mapped_setQpn {p : Mbuf} {q : BitVec 32} (word : p.Mapped (p.l2Len.toNat + 32) 4) {i n : Nat} :
    (p.setQpn q).Mapped i n ↔ p.Mapped i n := by
  apply mapped_put
  rw [length_bigEndian]
  exact word.part (j := 1) (by decide)

end Mbuf

/-- The low three bytes of the word come from the QP number, the upper one from memory. -/
theorem bigEndian_qpn (q : BitVec 32) (a b c d : BitVec 8) :
    bigEndian 4 ((bthQpnMask &&& q) ||| (~~~bthQpnMask &&& (a ++ b ++ c ++ d))) = a :: bigEndian 3 q := by
  have qpn : bigEndian 4 bthQpnMask = [0, 0xff, 0xff, 0xff] := by decide
  have resv : bigEndian 4 (~~~bthQpnMask) = [0xff, 0, 0, 0] := by decide
  have word : bigEndian 4 q = [q.extractLsb' 24 8, q.extractLsb' 16 8, q.extractLsb' 8 8, q.extractLsb' 0 8] := rfl
  have low : bigEndian 3 q = [q.extractLsb' 16 8, q.extractLsb' 8 8, q.extractLsb' 0 8] := rfl
  rw [bigEndian_or, bigEndian_and, bigEndian_and, bigEndian_word, qpn, resv, word, low]
  simp [ones_and]

theorem bthSetQpn_eq {p : Mbuf} {bth : Nat} (there : p.Mapped (bth + 4) 4) (q : BitVec 32) :
    bthSetQpn p bth q = .ok (p.put (bth + 5) (bigEndian 3 q)) := by
  have old : p.be32 (bth + RxeBth.qpn) = .ok (p.word (bth + 4)) := there.be32 (j := 0) (by decide)
  have merged : bigEndian 4 ((bthQpnMask &&& q) ||| (~~~bthQpnMask &&& p.word (bth + 4))) =
      p.octet (bth + 4) :: bigEndian 3 q := bigEndian_qpn q _ _ _ _
  have first : p.buf (bth + 4) = some (p.octet (bth + 4)) := by
    obtain ⟨b, here⟩ := Option.isSome_iff_exists.mp (there 0 (by decide))
    rw [Nat.add_zero] at here
    simp [RteMbuf.octet, here]
  have kept : overlay p.buf (bth + 4) [p.octet (bth + 4)] = p.buf := by
    apply overlay_own
    intro k hk
    simp only [List.length_cons, List.length_nil] at hk
    obtain rfl : k = 0 := by omega
    exact first
  rw [bthSetQpn, bind_of_ok old, merged, Mbuf.store_eq there, Mbuf.put, RxeBth.qpn, overlay_cons, kept]
  rfl

theorem mbufBth_eq {p : Mbuf} (cnp : p.IsCnp) : mbufBth p = .ok (p.l2Len.toNat + 28) := by
  have lengths : p.l3Len ≠ 0 ∧ p.l4Len ≠ 0 := by
    rw [cnp.l3Len, cnp.l4Len]
    decide
  rw [mbufBth, bind_of_ok (check_pos lengths), cnp.l3Len, cnp.l4Len]
  rfl

section Generate

variable {p : Mbuf} (crc : List (BitVec 8) → BitVec 32) (cnp : p.IsCnp)

include cnp

/-- A CNP is generated where the lengths of the mbuf say, if memory is mapped there. -/
theorem ctcmGenerateCnp_eq (there : p.Mapped p.l2Len.toNat 60) (q : BitVec 32) :
    ctcmGenerateCnp crc p q = .ok (p.cnpFor crc q) := by
  have word : p.Mapped (p.l2Len.toNat + 32) 4 := there.part (by decide)
  have same : ∀ {i n : Nat}, (p.setQpn q).Mapped i n ↔ p.Mapped i n := Mbuf.mapped_setQpn word
  have qpn : bthSetQpn p (p.l2Len.toNat + 28) q = .ok (p.setQpn q) := bthSetQpn_eq word q
  have header : (p.setQpn q).load p.l2Len.toNat 56 = _ := Mbuf.load_eq (same.mpr (there.part (j := 0) (by decide)))
  unfold ctcmGenerateCnp
  rw [bind_of_ok (mbufIp_of_ipv4 cnp.ipv4), bind_of_ok (mbufBth_eq cnp), bind_of_ok qpn]
  refine (bind_of_ok header).trans ?_
  rw [cnpIcrcPseudoPacket_eq]
  apply Mbuf.store_eq
  rw [length_littleEndian]
  exact same.mpr (there.part (j := 56) (by decide))

/-- Where it is not mapped, the fault is the same for every QP. -/
theorem ctcmGenerateCnp_bad (gap : ¬ p.Mapped p.l2Len.toNat 60) : ∃ x, ∀ q, ctcmGenerateCnp crc p q = .error x := by
  have start : ∀ q, ctcmGenerateCnp crc p q =
      bthSetQpn p (p.l2Len.toNat + 28) q >>= fun r => r.load p.l2Len.toNat 56 >>= fun header =>
        r.store (p.l2Len.toNat + 56) (littleEndian 4 (crc (cnpIcrcPseudoPacket header))) := by
    intro q
    unfold ctcmGenerateCnp
    rw [bind_of_ok (mbufIp_of_ipv4 cnp.ipv4), bind_of_ok (mbufBth_eq cnp)]
    rfl
  by_cases word : p.Mapped (p.l2Len.toNat + 28 + 4) 4
  · have qpn : ∀ q, bthSetQpn p (p.l2Len.toNat + 28) q = .ok (p.setQpn q) := fun q => bthSetQpn_eq word q
    have same : ∀ q {i n : Nat}, (p.setQpn q).Mapped i n ↔ p.Mapped i n := fun q => Mbuf.mapped_setQpn word
    by_cases header : p.Mapped p.l2Len.toNat 56
    · refine ⟨.badWrite (p.l2Len.toNat + 56), fun q => ?_⟩
      rw [start, bind_of_ok (qpn q), bind_of_ok (Mbuf.load_eq ((same q).mpr header))]
      apply Mbuf.store_bad
      rw [same, length_littleEndian]
      exact fun icrc => gap (header.append icrc)
    · refine ⟨.badRead p.l2Len.toNat, fun q => ?_⟩
      have bad : (p.setQpn q).load p.l2Len.toNat 56 = .error (.badRead p.l2Len.toNat) :=
        bind_of_error (check_neg (mt (same q).mp header))
      rw [start, bind_of_ok (qpn q), bind_of_error bad]
  · cases old : p.be32 (p.l2Len.toNat + 28 + RxeBth.qpn) with
    | error x =>
      refine ⟨x, fun q => ?_⟩
      rw [start, bthSetQpn, bind_of_error old]
      rfl
    | ok w =>
      refine ⟨.badWrite (p.l2Len.toNat + 28 + 4), fun q => ?_⟩
      rw [start, bthSetQpn, bind_of_ok old]
      apply bind_of_error
      apply Mbuf.store_bad
      rw [length_bigEndian]
      exact word

end Generate

end ConntrackCm
