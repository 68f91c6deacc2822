import ConntrackCm.Wire

/-!
# Parsing a packet

`parser_context::parse_packet`: three extraction functions, each given the header before and the
length that is left, and the annotations of the packet. Offsets count from `rte_pktmbuf_mtod`;
the running `size_t len` is a 64-bit word that is passed on as the functions leave it.
`parsePacket_eq` says what the parser does to a packet that holds the headers it inspects.
-/

namespace ConntrackCm

open Lib

/-- The part of `rte_mbuf` the parser reads and writes. -/
structure Mbuf extends RteMbuf where
  l3Len : BitVec 9
  l4Len : BitVec 8
  /-- The dynamic field "BTH": the offset of the BTH, 0 for none. -/
  bthOffset : BitVec 16

def rtePtypeL4Mask : BitVec 32 := 0xf00
def rtePtypeL4Udp : BitVec 32 := 0x200

/-! ## Annotations -/

/-- `ctcm_mbuf_get_bth`. -/
def ctcmMbufGetBth (p : Mbuf) : Except Fault (Option Nat) :=
  if p.bthOffset ≠ 0 then do
    check (p.bthOffset.toNat < p.pktLen.toNat) (.assertion .getBthOffset)
    return some p.bthOffset.toNat
  else
    return none

/-- `ctcm_mbuf_set_bth`: the offset is narrowed to 16 bits. -/
def ctcmMbufSetBth (p : Mbuf) (bth : Option Nat) : Except Fault Mbuf := do
  let offset := bth.getD 0
  check (offset < p.pktLen.toNat) (.assertion .setBthOffset)
  return { p with bthOffset := BitVec.ofNat 16 offset }

/-- `ctcm_mbuf_set_mad`. -/
def ctcmMbufSetMad (p : Mbuf) (mad : Option Nat) : Except Fault Mbuf := do
  let offset := mad.getD 0
  check (offset < p.pktLen.toNat) (.assertion .setMadOffset)
  return { p with madOffset := BitVec.ofNat 16 offset }

/-! ## The headers -/

/-- `mbuf_udp`: the offset of the UDP header. -/
def mbufUdp (p : Mbuf) : Except Fault Nat := do
  check (p.l3Len ≠ 0 ∧ p.packetType &&& rtePtypeL4Mask = rtePtypeL4Udp) (.assertion .mbufUdp)
  return p.l2Len.toNat + p.l3Len.toNat

def sizeofUdphdr : Nat := 8
def sizeofRxeBth : Nat := 12
def sizeofRxeDeth : Nat := 8
def udpPortRoceV2 : BitVec 16 := 4791
def ibOpcodeUdSendOnly : BitVec 8 := 0x64
def ibMgmtClassCm : BitVec 8 := 0x07
def bthQpnMask : BitVec 32 := 0x00ffffff

/-- `__bth_opcode`. -/
def bthOpcode (p : RteMbuf) (bth : Nat) : Except Fault (BitVec 8) := p.byte bth

/-- `__bth_qpn`. -/
def bthQpn (p : RteMbuf) (bth : Nat) : Except Fault (BitVec 32) := do
  return bthQpnMask &&& (← p.be32 (bth + 4))

/-- `extract_bth`. The ICRC counts 4 bytes. -/
def extractBth (p : Mbuf) (udp : Nat) (len : BitVec 64) : Except Fault (Option Nat × BitVec 64) := do
  if len < BitVec.ofNat 64 (sizeofRxeBth + sizeofUdphdr + 4) then
    return (none, len)
  if (← p.be16 (udp + 2)) ≠ udpPortRoceV2 then
    return (none, len)
  return (some (udp + sizeofUdphdr), len - BitVec.ofNat 64 (sizeofRxeBth + 4))

/-- `extract_deth`. -/
def extractDeth (p : Mbuf) (bth : Nat) (len : BitVec 64) : Except Fault (Option Nat × BitVec 64) := do
  if (← bthOpcode p.toRteMbuf bth) ≠ ibOpcodeUdSendOnly ∨ len < BitVec.ofNat 64 sizeofRxeDeth then
    return (none, len)
  return (some (bth + sizeofRxeBth), len - BitVec.ofNat 64 sizeofRxeDeth)

/-- `extract_mad`. -/
def extractMad (deth : Nat) (len : BitVec 64) : Option Nat :=
  if len < BitVec.ofNat 64 sizeofIbMadHdr then none else some (deth + sizeofRxeDeth)

/-- `parse_packet` once it has a BTH. -/
def parseFromBth (p : Mbuf) (bth : Nat) (len : BitVec 64) : Except Fault (Option Nat × Mbuf) := do
  let (deth, len) ← extractDeth p bth len
  match deth with
  | none => return (none, p)
  | some deth =>
    if (← bthQpn p.toRteMbuf bth) ≠ 1 then
      return (none, p)
    match extractMad deth len with
    | none => return (none, p)
    | some mad =>
      if (← p.byte (mad + 1)) ≠ ibMgmtClassCm then
        return (none, p)
      let p ← ctcmMbufSetMad p (some mad)
      return (some mad, p)

/-- `parser_context::parse_packet`: the MAD header, and the packet with its annotations. -/
def parsePacket (p : Mbuf) : Except Fault (Option Nat × Mbuf) := do
  let udp ← mbufUdp p
  let len := (← p.be16 (udp + 4)).setWidth 64
  let (bth, len) ← extractBth p udp len
  let p ← ctcmMbufSetBth p bth
  let p ← ctcmMbufSetMad p none
  match bth with
  | none => return (none, p)
  | some bth => parseFromBth p bth len

/-- `ctcm_parse_packet`. -/
def ctcmParsePacket (p : Mbuf) : Except Fault Mbuf := do
  let (_, p) ← parsePacket p
  return p

/-! ## What is in a packet -/

namespace RteMbuf

/-- Byte `i`, 0 where nothing is mapped. -/
def octet (p : RteMbuf) (i : Nat) : BitVec 8 := (p.buf i).getD 0#8

def half (p : RteMbuf) (i : Nat) : BitVec 16 := p.octet i ++ p.octet (i + 1)

def word (p : RteMbuf) (i : Nat) : BitVec 32 := p.octet i ++ p.octet (i + 1) ++ p.octet (i + 2) ++ p.octet (i + 3)

/-- The word at `i` as a load brings it into a register. -/
def hostWord (p : RteMbuf) (i : Nat) : BitVec 32 :=
  p.octet (i + 3) ++ p.octet (i + 2) ++ p.octet (i + 1) ++ p.octet i

/-- The `n` bytes from `i` on are mapped. -/
def Mapped (p : RteMbuf) (i n : Nat) : Prop := ∀ j, j < n → (p.buf (i + j)).isSome = true

instance (p : RteMbuf) (i n : Nat) : Decidable (p.Mapped i n) := inferInstanceAs (Decidable (∀ j, j < n → _))

variable {p : RteMbuf} {i n : Nat}

theorem byte_eq (h : (p.buf i).isSome = true) : p.byte i = .ok (p.octet i) := by
  obtain ⟨b, there⟩ := Option.isSome_iff_exists.mp h
  simp [byte, octet, there]

/-- A part of a range that is mapped. -/
theorem Mapped.part (h : p.Mapped i n) {j k : Nat} (inside : j + k ≤ n) : p.Mapped (i + j) k := by
  intro d hd
  rw [Nat.add_assoc]
  exact h (j + d) (by omega)

theorem Mapped.append (h : p.Mapped i n) {k : Nat} (rest : p.Mapped (i + n) k) : p.Mapped i (n + k) := by
  intro j hj
  by_cases low : j < n
  · exact h j low
  · obtain ⟨d, rfl⟩ : ∃ d, j = n + d := ⟨j - n, by omega⟩
    rw [← Nat.add_assoc]
    exact rest d (by omega)

theorem Mapped.byte (h : p.Mapped i n) {j : Nat} (inside : j < n) : p.byte (i + j) = .ok (p.octet (i + j)) :=
  byte_eq (h j inside)

theorem Mapped.be16 (h : p.Mapped i n) {j : Nat} (inside : j + 2 ≤ n) : p.be16 (i + j) = .ok (p.half (i + j)) := by
  have first := h.byte (j := j) (by omega)
  have second := h.byte (j := j + 1) (by omega)
  rw [← Nat.add_assoc] at second
  rw [RteMbuf.be16, bind_of_ok first, bind_of_ok second]
  rfl

/-- The bytes of a word in a range that is mapped. -/
theorem Mapped.bytes (h : p.Mapped i n) {j : Nat} (inside : j + 4 ≤ n) {k : Nat} (hk : k < 4) :
    p.byte (i + j + k) = .ok (p.octet (i + j + k)) := by
  rw [Nat.add_assoc]
  exact h.byte (by omega)

theorem Mapped.be32 (h : p.Mapped i n) {j : Nat} (inside : j + 4 ≤ n) : p.be32 (i + j) = .ok (p.word (i + j)) := by
  have b0 : p.byte (i + j) = .ok (p.octet (i + j)) := h.bytes inside (k := 0) (by decide)
  rw [RteMbuf.be32, bind_of_ok b0, bind_of_ok (h.bytes inside (by decide)), bind_of_ok (h.bytes inside (by decide)),
    bind_of_ok (h.bytes inside (by decide))]
  rfl

theorem Mapped.load32 (h : p.Mapped i n) {j : Nat} (inside : j + 4 ≤ n) :
    p.load32 (i + j) = .ok (p.hostWord (i + j)) := by
  have b0 : p.byte (i + j) = .ok (p.octet (i + j)) := h.bytes inside (k := 0) (by decide)
  rw [RteMbuf.load32, bind_of_ok b0, bind_of_ok (h.bytes inside (by decide)), bind_of_ok (h.bytes inside (by decide)),
    bind_of_ok (h.bytes inside (by decide))]
  rfl

end RteMbuf

namespace Mbuf

/-- The offset of the UDP header. -/
def udp (p : Mbuf) : Nat := p.l2Len.toNat + p.l3Len.toNat

def udpDport (p : Mbuf) : BitVec 16 := p.half (p.udp + 2)
def udpLen (p : Mbuf) : Nat := (p.half (p.udp + 4)).toNat
def opcode (p : Mbuf) : BitVec 8 := p.octet (p.udp + 8)
def destQpn (p : Mbuf) : BitVec 32 := bthQpnMask &&& p.word (p.udp + 12)
def mgmtClass (p : Mbuf) : BitVec 8 := p.octet (p.udp + 29)

/-- A UDP packet with an L3 header. -/
structure IsUdp (p : Mbuf) : Prop where
  l3Len : p.l3Len ≠ 0
  packetType : p.packetType &&& rtePtypeL4Mask = rtePtypeL4Udp

/-- `extract_bth` finds a BTH. -/
structure HasBth (p : Mbuf) : Prop where
  len : 24 ≤ p.udpLen
  dport : p.udpDport = udpPortRoceV2

/-- `extract_mad` is reached and finds a MAD header. -/
structure HasMad (p : Mbuf) : Prop extends HasBth p where
  opcode : p.opcode = ibOpcodeUdSendOnly
  destQpn : p.destQpn = 1
  madLen : 48 ≤ p.udpLen

/-- `parse_packet` returns the MAD header. -/
structure Accepted (p : Mbuf) : Prop extends HasMad p where
  mgmtClass : p.mgmtClass = ibMgmtClassCm

instance (p : Mbuf) : Decidable p.IsUdp := decidable_of_iff (p.l3Len ≠ 0 ∧ p.packetType &&& rtePtypeL4Mask = rtePtypeL4Udp)
  ⟨fun h => ⟨h.1, h.2⟩, fun h => ⟨h.1, h.2⟩⟩

instance (p : Mbuf) : Decidable p.HasBth := decidable_of_iff (24 ≤ p.udpLen ∧ p.udpDport = udpPortRoceV2)
  ⟨fun h => ⟨h.1, h.2⟩, fun h => ⟨h.1, h.2⟩⟩

instance (p : Mbuf) : Decidable p.HasMad :=
  decidable_of_iff (p.HasBth ∧ p.opcode = ibOpcodeUdSendOnly ∧ p.destQpn = 1 ∧ 48 ≤ p.udpLen)
    ⟨fun h => ⟨h.1, h.2.1, h.2.2.1, h.2.2.2⟩, fun h => ⟨h.1, h.2, h.3, h.4⟩⟩

instance (p : Mbuf) : Decidable p.Accepted := decidable_of_iff (p.HasMad ∧ p.mgmtClass = ibMgmtClassCm)
  ⟨fun h => ⟨h.1, h.2⟩, fun h => ⟨h.1, h.2⟩⟩

/-- The header of `n` bytes at `i` is in the packet. -/
structure Holds (p : Mbuf) (i n : Nat) : Prop where
  inside : i + n ≤ p.pktLen.toNat
  mapped : p.Mapped i n

/-- The headers that `parse_packet` inspects are in the packet; of the MAD header it looks no
further than `mgmt_class`. -/
structure Inspectable (p : Mbuf) : Prop where
  udp : p.Holds p.udp sizeofUdphdr
  bth : p.HasBth → p.Holds (p.udp + 8) sizeofRxeBth
  mad : p.HasMad → p.Holds (p.udp + 28) 2

/-- The packet with other annotations. -/
def mark (p : Mbuf) (bth mad : BitVec 16) : Mbuf := { p with bthOffset := bth, madOffset := mad }

/-- The packet with the annotations of its last parse. -/
def annotate (p : Mbuf) : Mbuf :=
  p.mark (if p.HasBth then BitVec.ofNat 16 (p.udp + 8) else 0) (if p.Accepted then BitVec.ofNat 16 (p.udp + 28) else 0)

/-! Annotations change nothing that the parser looks at. -/

section Mark

variable {p : Mbuf} {b m : BitVec 16}

@[simp] theorem hasBth_mark : (p.mark b m).HasBth ↔ p.HasBth :=
  ⟨fun h => ⟨h.len, h.dport⟩, fun h => ⟨h.len, h.dport⟩⟩

@[simp] theorem hasMad_mark : (p.mark b m).HasMad ↔ p.HasMad :=
  ⟨fun h => ⟨hasBth_mark.mp h.toHasBth, h.opcode, h.destQpn, h.madLen⟩,
    fun h => ⟨hasBth_mark.mpr h.toHasBth, h.opcode, h.destQpn, h.madLen⟩⟩

@[simp] theorem accepted_mark : (p.mark b m).Accepted ↔ p.Accepted :=
  ⟨fun h => ⟨hasMad_mark.mp h.toHasMad, h.mgmtClass⟩, fun h => ⟨hasMad_mark.mpr h.toHasMad, h.mgmtClass⟩⟩

theorem Holds.mark {i n : Nat} (h : p.Holds i n) : (p.mark b m).Holds i n := ⟨h.inside, h.mapped⟩

theorem IsUdp.mark (h : p.IsUdp) : (p.mark b m).IsUdp := ⟨h.l3Len, h.packetType⟩

theorem Inspectable.mark (h : p.Inspectable) : (p.mark b m).Inspectable :=
  ⟨h.udp.mark, fun bth => (h.bth (hasBth_mark.mp bth)).mark, fun mad => (h.mad (hasMad_mark.mp mad)).mark⟩

theorem annotate_mark : (p.mark b m).annotate = p.annotate := by
  simp only [annotate, hasBth_mark, accepted_mark]
  rfl

end Mark

end Mbuf

/-! ## What the parser does -/

section Extract

variable {p : Mbuf} {len : BitVec 64}

/-- A 16-bit length fits the running length. -/
theorem toNat_len (len : BitVec 16) : (len.setWidth 64).toNat = len.toNat := by
  have small := len.isLt
  simp only [BitVec.toNat_setWidth]
  omega

theorem extractBth_eq (holds : p.Holds p.udp sizeofUdphdr) (same : len.toNat = p.udpLen) :
    extractBth p p.udp len = .ok (if p.HasBth then (some (p.udp + 8), len - 16) else (none, len)) := by
  have dport : p.be16 (p.udp + 2) = .ok p.udpDport := holds.mapped.be16 (by decide)
  unfold extractBth
  by_cases short : len < BitVec.ofNat 64 (sizeofRxeBth + sizeofUdphdr + 4)
  · have few : len.toNat < 24 := short
    rw [if_pos short, if_neg (fun bth => absurd bth.len (by omega))]
    rfl
  · have enough : 24 ≤ len.toNat := Nat.le_of_not_lt short
    rw [if_neg short, bind_of_ok dport]
    by_cases port : p.udpDport = udpPortRoceV2
    · rw [if_neg (not_not_intro port), if_pos ⟨same ▸ enough, port⟩]
      rfl
    · rw [if_pos port, if_neg (fun bth => port bth.dport)]
      rfl

/-- What is left when there is a BTH. -/
theorem toNat_sub_bth (bth : p.HasBth) (same : len.toNat = p.udpLen) : (len - 16).toNat = p.udpLen - 16 := by
  have enough := bth.len
  rw [BitVec.toNat_sub_of_le]
  · simp [same]
  · simp [BitVec.le_def, same]
    omega

theorem extractDeth_eq {bth : Nat} (there : p.byte bth = .ok (p.octet bth)) (enough : 8 ≤ len.toNat) :
    extractDeth p bth len =
      .ok (if p.octet bth = ibOpcodeUdSendOnly then (some (bth + 12), len - 8) else (none, len)) := by
  unfold extractDeth
  rw [bthOpcode, bind_of_ok there]
  have long : ¬ len < BitVec.ofNat 64 sizeofRxeDeth := Nat.not_lt.mpr enough
  by_cases opcode : p.octet bth = ibOpcodeUdSendOnly
  · rw [if_neg (not_or.mpr ⟨not_not_intro opcode, long⟩), if_pos opcode]
    rfl
  · rw [if_pos (Or.inl opcode), if_neg opcode]
    rfl

/-- What is left in front of the MAD header. -/
theorem extractMad_eq (bth : p.HasBth) (same : len.toNat = p.udpLen) (deth : Nat) :
    extractMad deth (len - 16 - 8) = if 48 ≤ p.udpLen then some (deth + 8) else none := by
  have left := toNat_sub_bth bth same
  have enough := bth.len
  have rest : (len - 16 - 8).toNat = p.udpLen - 24 := by
    have eight : (8 : BitVec 64).toNat = 8 := rfl
    rw [BitVec.toNat_sub_of_le]
    · rw [left, eight]
      omega
    · rw [BitVec.le_def, left, eight]
      omega
  unfold extractMad
  by_cases long : 48 ≤ p.udpLen
  · have fits : ¬ len - 16 - 8 < BitVec.ofNat 64 sizeofIbMadHdr := by
      intro short
      have few : (len - 16 - 8).toNat < 24 := short
      omega
    rw [if_neg fits, if_pos long]
    rfl
  · have short : len - 16 - 8 < BitVec.ofNat 64 sizeofIbMadHdr := by
      have few : (len - 16 - 8).toNat < 24 := by omega
      exact few
    rw [if_pos short, if_neg long]

end Extract

theorem mbufUdp_eq {p : Mbuf} (udp : p.IsUdp) : mbufUdp p = .ok p.udp := by
  rw [mbufUdp, bind_of_ok (check_pos ⟨udp.l3Len, udp.packetType⟩)]
  rfl

theorem ctcmMbufSetBth_eq {p : Mbuf} {bth : Option Nat} (inside : bth.getD 0 < p.pktLen.toNat) :
    ctcmMbufSetBth p bth = .ok (p.mark (BitVec.ofNat 16 (bth.getD 0)) p.madOffset) := by
  simp only [ctcmMbufSetBth, bind_of_ok (check_pos inside)]
  rfl

theorem ctcmMbufSetMad_eq {p : Mbuf} {mad : Option Nat} (inside : mad.getD 0 < p.pktLen.toNat) :
    ctcmMbufSetMad p mad = .ok (p.mark p.bthOffset (BitVec.ofNat 16 (mad.getD 0))) := by
  simp only [ctcmMbufSetMad, bind_of_ok (check_pos inside)]
  rfl

/-- The parse from the BTH on, on a packet whose MAD annotation is reset. -/
theorem parseFromBth_eq {p : Mbuf} (ins : p.Inspectable) (bth : p.HasBth) (reset : p.madOffset = 0) {len : BitVec 64}
    (same : len.toNat = p.udpLen) :
    parseFromBth p (p.udp + 8) (len - 16) =
      .ok (if p.Accepted then some (p.udp + 28) else none,
        p.mark p.bthOffset (if p.Accepted then BitVec.ofNat 16 (p.udp + 28) else 0)) := by
  have header := ins.bth bth
  have left := toNat_sub_bth bth same
  have enough := bth.len
  have rejects : ¬ p.Accepted → (.ok (none, p) : Except Fault (Option Nat × Mbuf)) =
      .ok (if p.Accepted then some (p.udp + 28) else none,
        p.mark p.bthOffset (if p.Accepted then BitVec.ofNat 16 (p.udp + 28) else 0)) := by
    intro rejected
    rw [if_neg rejected, if_neg rejected, ← reset]
    rfl
  have first : p.byte (p.udp + 8) = .ok p.opcode := header.mapped.byte (j := 0) (by decide)
  have qpn : bthQpn p.toRteMbuf (p.udp + 8) = .ok p.destQpn := by
    rw [bthQpn, bind_of_ok (header.mapped.be32 (j := 4) (by decide))]
    rfl
  have deth : extractDeth p (p.udp + 8) (len - 16) =
      .ok (if p.opcode = ibOpcodeUdSendOnly then (some (p.udp + 8 + 12), len - 16 - 8) else (none, len - 16)) :=
    extractDeth_eq first (by omega)
  unfold parseFromBth
  rw [bind_of_ok deth]
  by_cases opcode : p.opcode = ibOpcodeUdSendOnly
  · simp only [if_pos opcode]
    rw [bind_of_ok qpn]
    by_cases dest : p.destQpn = 1
    · rw [if_neg (not_not_intro dest), extractMad_eq bth same]
      by_cases long : 48 ≤ p.udpLen
      · have mad : p.HasMad := ⟨bth, opcode, dest, long⟩
        have there := ins.mad mad
        have mgmt : p.byte (p.udp + 8 + 12 + 8 + 1) = .ok p.mgmtClass := there.mapped.byte (j := 1) (by decide)
        rw [if_pos long]
        dsimp only
        rw [bind_of_ok mgmt]
        by_cases cm : p.mgmtClass = ibMgmtClassCm
        · have inside : (some (p.udp + 8 + 12 + 8)).getD 0 < p.pktLen.toNat := by
            have last := there.inside
            simp only [Option.getD_some]
            omega
          have accepted : p.Accepted := ⟨mad, cm⟩
          rw [if_neg (not_not_intro cm), bind_of_ok (ctcmMbufSetMad_eq inside), if_pos accepted, if_pos accepted]
          rfl
        · rw [if_pos cm]
          exact rejects fun accepted => cm accepted.mgmtClass
      · rw [if_neg long]
        exact rejects fun accepted => long accepted.madLen
    · rw [if_pos dest]
      exact rejects fun accepted => dest accepted.destQpn
  · simp only [if_neg opcode]
    exact rejects fun accepted => opcode accepted.opcode

/-- **The parser.** On a packet that holds the headers it inspects, no assertion fails; it returns
the MAD header of an accepted packet and leaves exactly the annotations of this parse. -/
theorem parsePacket_eq {p : Mbuf} (udp : p.IsUdp) (ins : p.Inspectable) :
    parsePacket p = .ok (if p.Accepted then some (p.udp + 28) else none, p.annotate) := by
  have nonempty : 0 < p.pktLen.toNat := by
    have inside := ins.udp.inside
    simp only [sizeofUdphdr] at inside
    omega
  have field : p.be16 (p.udp + 4) = .ok (p.half (p.udp + 4)) := ins.udp.mapped.be16 (by decide)
  have same : ((p.half (p.udp + 4)).setWidth 64).toNat = p.udpLen := toNat_len _
  have reset : ∀ b m, ctcmMbufSetMad (p.mark b m) none = .ok (p.mark b 0) := fun b m => ctcmMbufSetMad_eq nonempty
  unfold parsePacket
  rw [bind_of_ok (mbufUdp_eq udp), bind_of_ok field, bind_of_ok (extractBth_eq ins.udp same)]
  by_cases bth : p.HasBth
  · have inside : (some (p.udp + 8)).getD 0 < p.pktLen.toNat := by
      have last := (ins.bth bth).inside
      simp only [sizeofRxeBth] at last
      simp only [Option.getD_some]
      omega
    simp only [if_pos bth]
    rw [bind_of_ok (ctcmMbufSetBth_eq inside), bind_of_ok (reset _ _)]
    have rest := parseFromBth_eq (p := p.mark (BitVec.ofNat 16 (p.udp + 8)) 0) ins.mark (Mbuf.hasBth_mark.mpr bth) rfl same
    refine rest.trans ?_
    simp only [Mbuf.accepted_mark, Mbuf.annotate, if_pos bth]
    rfl
  · have rejected : ¬ p.Accepted := fun accepted => bth accepted.toHasBth
    have none : ctcmMbufSetBth p none = .ok (p.mark 0 p.madOffset) := ctcmMbufSetBth_eq nonempty
    simp only [if_neg bth]
    rw [bind_of_ok none, bind_of_ok (reset _ _), if_neg rejected, Mbuf.annotate, if_neg bth, if_neg rejected]
    rfl

end ConntrackCm
