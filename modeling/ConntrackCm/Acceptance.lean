import ConntrackCm.Parser

/-!
# Which packets the parser accepts

A CM datagram has room in its UDP length for the UDP header, the BTH, the DETH, the MAD header and
the ICRC. `extract_bth` compares the length with the UDP header counted in, but takes only the BTH
and the ICRC off it, so the later checks see eight bytes too many: datagrams that are short of a
MAD header by up to eight bytes are accepted.
-/

namespace ConntrackCm

open Lib

namespace Mbuf

/-- The header fields of a CM datagram. -/
structure CmFields (p : Mbuf) : Prop where
  dport : p.udpDport = udpPortRoceV2
  opcode : p.opcode = ibOpcodeUdSendOnly
  destQpn : p.destQpn = 1
  mgmtClass : p.mgmtClass = ibMgmtClassCm

/-- A CM datagram: its UDP length has room for all its headers and the ICRC. -/
structure CmDatagram (p : Mbuf) : Prop extends CmFields p where
  room : sizeofUdphdr + sizeofRxeBth + sizeofRxeDeth + sizeofIbMadHdr + 4 ≤ p.udpLen

theorem accepted_iff {p : Mbuf} : p.Accepted ↔ p.CmFields ∧ 48 ≤ p.udpLen := by
  constructor
  · intro h
    exact ⟨⟨h.dport, h.opcode, h.destQpn, h.mgmtClass⟩, h.madLen⟩
  · rintro ⟨h, long⟩
    exact ⟨⟨⟨by omega, h.dport⟩, h.opcode, h.destQpn, long⟩, h.mgmtClass⟩

theorem cmDatagram_iff {p : Mbuf} : p.CmDatagram ↔ p.CmFields ∧ 56 ≤ p.udpLen :=
  ⟨fun h => ⟨h.toCmFields, h.room⟩, fun h => ⟨h.1, h.2⟩⟩

end Mbuf

/-! ## The running length -/

theorem extractBth_length {p : Mbuf} {udp bth : Nat} {len len' : BitVec 64}
    (h : extractBth p udp len = .ok (some bth, len')) : len'.toNat + (sizeofRxeBth + 4) = len.toNat := by
  unfold extractBth at h
  split at h
  · cases h
  · rename_i enough
    have least : 24 ≤ len.toNat := Nat.le_of_not_lt enough
    have taken : (BitVec.ofNat 64 (sizeofRxeBth + 4)).toNat = 16 := rfl
    obtain ⟨dport, _, h⟩ := bind_ok h
    split at h
    · cases h
    · cases h
      rw [BitVec.toNat_sub_of_le, taken]
      · simp only [sizeofRxeBth]
        omega
      · rw [BitVec.le_def, taken]
        omega

theorem extractDeth_length {p : Mbuf} {bth deth : Nat} {len len' : BitVec 64}
    (h : extractDeth p bth len = .ok (some deth, len')) : len'.toNat + sizeofRxeDeth = len.toNat := by
  unfold extractDeth at h
  obtain ⟨opcode, _, h⟩ := bind_ok h
  split at h
  · cases h
  · rename_i enough
    have least : 8 ≤ len.toNat := Nat.le_of_not_lt fun short => enough (Or.inr short)
    have taken : (BitVec.ofNat 64 sizeofRxeDeth).toNat = 8 := rfl
    cases h
    rw [BitVec.toNat_sub_of_le, taken]
    · simp only [sizeofRxeDeth]
      omega
    · rw [BitVec.le_def, taken]
      omega

/-! ## Acceptance -/

/-- The parser accepts `p` exactly when it is a CM datagram, the header it returns lies in the UDP
payload in front of the ICRC, and the running length never underflows. -/
structure ParsesExactly (p : Mbuf) : Prop where
  accepts : (∃ mad p', parsePacket p = .ok (some mad, p')) ↔ p.CmDatagram
  inside : ∀ mad p', parsePacket p = .ok (some mad, p') →
    p.udp + sizeofUdphdr ≤ mad ∧ mad + sizeofIbMadHdr + 4 ≤ p.udp + p.udpLen
  bthLength : ∀ len bth len', extractBth p p.udp len = .ok (some bth, len') →
    len'.toNat + (sizeofRxeBth + 4) = len.toNat
  dethLength : ∀ bth len deth len', extractDeth p bth len = .ok (some deth, len') →
    len'.toNat + sizeofRxeDeth = len.toNat

theorem parsePacket_some {p : Mbuf} (udp : p.IsUdp) (ins : p.Inspectable) {mad : Nat} {p' : Mbuf} :
    parsePacket p = .ok (some mad, p') ↔ p.Accepted ∧ mad = p.udp + 28 ∧ p' = p.annotate := by
  rw [parsePacket_eq udp ins]
  by_cases accepted : p.Accepted
  · rw [if_pos accepted]
    constructor
    · intro same
      cases same
      exact ⟨accepted, rfl, rfl⟩
    · rintro ⟨_, rfl, rfl⟩
      rfl
  · rw [if_neg accepted]
    constructor
    · intro same
      cases same
    · rintro ⟨also, _⟩
      exact absurd also accepted

/-- **Which packets the parser gets right.** A packet that holds the headers inspected is parsed as
it should be, unless it has the fields of a CM datagram and a UDP length of 48 to 55. -/
theorem parses_exactly_iff {p : Mbuf} (udp : p.IsUdp) (ins : p.Inspectable) :
    ParsesExactly p ↔ ¬ (p.CmFields ∧ 48 ≤ p.udpLen ∧ p.udpLen < 56) := by
  have accepts : (∃ mad p', parsePacket p = .ok (some mad, p')) ↔ p.Accepted := by
    constructor
    · rintro ⟨mad, p', parsed⟩
      exact ((parsePacket_some udp ins).mp parsed).1
    · intro accepted
      exact ⟨_, _, (parsePacket_some udp ins).mpr ⟨accepted, rfl, rfl⟩⟩
  constructor
  · rintro exactly ⟨fields, long, short⟩
    have datagram := exactly.accepts.mp (accepts.mpr (Mbuf.accepted_iff.mpr ⟨fields, long⟩))
    have room := (Mbuf.cmDatagram_iff.mp datagram).2
    omega
  · intro regular
    have long : p.Accepted → 56 ≤ p.udpLen := by
      intro accepted
      obtain ⟨fields, room⟩ := Mbuf.accepted_iff.mp accepted
      by_contra short
      exact regular ⟨fields, room, by omega⟩
    refine ⟨?_, ?_, fun _ _ _ => extractBth_length, fun _ _ _ _ => extractDeth_length⟩
    · rw [accepts, Mbuf.cmDatagram_iff]
      constructor
      · intro accepted
        exact ⟨(Mbuf.accepted_iff.mp accepted).1, long accepted⟩
      · rintro ⟨fields, room⟩
        exact Mbuf.accepted_iff.mpr ⟨fields, by omega⟩
    · intro mad p' parsed
      obtain ⟨accepted, rfl, _⟩ := (parsePacket_some udp ins).mp parsed
      have room := long accepted
      simp only [sizeofUdphdr, sizeofIbMadHdr]
      omega

/-- A CM datagram between `10.0.0.2` and `10.0.0.1` as it comes off the wire, with the given UDP
length and 322 bytes of packet. -/
def roceMbuf (udpLen : BitVec 16) : Mbuf where
  toRteMbuf := { cmMbuf cmReqAttrId 0x0200000a#32 0x0100000a#32 2#32 0#32 0x22#32 with
    buf := fun i =>
      (beAt 34 (0xf000#16 ++ udpPortRoceV2) i <|> beAt 38 (udpLen ++ 0#16) i <|>
        beAt 42 (ibOpcodeUdSendOnly ++ 0#24) i <|> beAt 46 1#32 i <|>
        beAt 62 (1#8 ++ ibMgmtClassCm ++ 2#8 ++ 3#8) i <|>
        (cmMbuf cmReqAttrId 0x0200000a#32 0x0100000a#32 2#32 0#32 0x22#32).buf i)
    madOffset := 0 }
  l3Len := 20
  l4Len := 8
  bthOffset := 0

theorem roceMbuf_mapped (udpLen : BitVec 16) {i n : Nat} (inside : i + n ≤ 322) : (roceMbuf udpLen).Mapped i n := by
  intro j within
  have there : i + j < 322 := by omega
  simp [roceMbuf, cmMbuf, there]

theorem roceMbuf_inspectable (udpLen : BitVec 16) : (roceMbuf udpLen).Inspectable := by
  have holds : ∀ i n, i + n ≤ 322 → (roceMbuf udpLen).Holds i n := fun i n inside =>
    ⟨inside, roceMbuf_mapped udpLen inside⟩
  exact ⟨holds 34 8 (by decide), fun _ => holds 42 12 (by decide), fun _ => holds 62 2 (by decide)⟩

theorem roceMbuf_isUdp (udpLen : BitVec 16) : (roceMbuf udpLen).IsUdp :=
  ⟨(by decide : (20 : BitVec 9) ≠ 0), (by decide : (0x210 : BitVec 32) &&& rtePtypeL4Mask = rtePtypeL4Udp)⟩

/-- A REQ with its 256-byte MAD is parsed as it should be. -/
theorem parses_exactly_req : ParsesExactly (roceMbuf 288) := by
  refine (parses_exactly_iff (roceMbuf_isUdp 288) (roceMbuf_inspectable 288)).mpr ?_
  rintro ⟨_, _, short⟩
  exact absurd short (by decide +kernel)

/-- With a UDP length of 48, eight bytes short of a MAD header, it is accepted all the same. -/
theorem parses_short_datagram :
    (roceMbuf 48).IsUdp ∧ (roceMbuf 48).Inspectable ∧ (roceMbuf 48).udpLen = 48 ∧
      (∃ mad p', parsePacket (roceMbuf 48) = .ok (some mad, p') ∧
        (roceMbuf 48).udp + (roceMbuf 48).udpLen < mad + sizeofIbMadHdr) ∧
      ¬ (roceMbuf 48).CmDatagram ∧ ¬ ParsesExactly (roceMbuf 48) := by
  have length : (roceMbuf 48).udpLen = 48 := by decide +kernel
  have accepted : (roceMbuf 48).Accepted := by decide +kernel
  have parsed := (parsePacket_some (roceMbuf_isUdp 48) (roceMbuf_inspectable 48)).mpr ⟨accepted, rfl, rfl⟩
  have beyond : (roceMbuf 48).udp + (roceMbuf 48).udpLen < (roceMbuf 48).udp + 28 + sizeofIbMadHdr := by decide +kernel
  have short : ¬ (roceMbuf 48).CmDatagram := by
    intro datagram
    have room := (Mbuf.cmDatagram_iff.mp datagram).2
    omega
  exact ⟨roceMbuf_isUdp 48, roceMbuf_inspectable 48, length, ⟨_, _, parsed, beyond⟩, short,
    fun exactly => short (exactly.accepts.mp ⟨_, _, parsed⟩)⟩

end ConntrackCm
