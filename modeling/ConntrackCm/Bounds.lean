import ConntrackCm.Annotation
import ConntrackCm.Step

/-!
# Reading in bounds

The parser checks the UDP length against the common MAD header, and the handlers read the body of
the message behind it without a check of their own. For a packet that ends where its UDP length
says, `Covered` is how long it has to be: the communication ids of its message have to be there,
and for a REQ or a REP also the QPN, unless its ids are null and every lookup fails before the QPN
is read.
-/

namespace ConntrackCm

open Lib

namespace Mbuf

def attrId (p : Mbuf) : BitVec 16 := p.half (p.udp + 44)
def localCommId (p : Mbuf) : BitVec 32 := p.word (p.udp + 52)
def remoteCommId (p : Mbuf) : BitVec 32 := p.word (p.udp + 56)
def srcAddr (p : Mbuf) : BitVec 32 := p.hostWord (p.l2Len.toNat + 12)
def dstAddr (p : Mbuf) : BitVec 32 := p.hostWord (p.l2Len.toNat + 16)

/-- An IPv4 packet that ends where its UDP length says. -/
structure Framed (p : Mbuf) : Prop where
  ipv4 : p.packetType &&& rtePtypeL3Ipv4 ≠ 0
  size : p.udp + p.udpLen = p.pktLen.toNat
  mapped : ∀ i, (p.buf i).isSome = true ↔ i < p.pktLen.toNat

/-- The UDP length covers what the handlers of the message read. -/
structure Covered (p : Mbuf) : Prop where
  req : p.attrId = cmReqAttrId → 56 ≤ p.udpLen ∧ (p.localCommId ≠ 0#32 → 88 ≤ p.udpLen)
  rep : p.attrId = cmRepAttrId → 60 ≤ p.udpLen ∧ (p.localCommId ≠ 0#32 ∨ p.remoteCommId ≠ 0#32 → 68 ≤ p.udpLen)
  others : p.attrId = cmRejAttrId ∨ p.attrId = cmRtuAttrId ∨ p.attrId = cmDreqAttrId ∨ p.attrId = cmDrepAttrId →
    60 ≤ p.udpLen

end Mbuf

/-! ## Loads inside and outside the packet -/

section Loads

variable {p : RteMbuf} {size i : Nat}

theorem byte_bad (mapped : ∀ i, (p.buf i).isSome = true ↔ i < size) (beyond : size ≤ i) :
    p.byte i = .error (.badRead i) := by
  have none : p.buf i = none := by
    cases there : p.buf i with
    | none => rfl
    | some b => exact absurd ((mapped i).mp (by rw [there]; rfl)) (Nat.not_lt.mpr beyond)
  rw [RteMbuf.byte, none]

theorem be32_bad (mapped : ∀ i, (p.buf i).isSome = true ↔ i < size) (beyond : size < i + 4) :
    ∃ j, p.be32 i = .error (.badRead j) := by
  -- the first byte of the word outside the packet is the one that faults
  have inside : ∀ j, j < size → p.byte j = .ok (p.octet j) := fun j lt => RteMbuf.byte_eq ((mapped j).mpr lt)
  unfold RteMbuf.be32
  by_cases first : size ≤ i
  · exact ⟨i, bind_of_error (byte_bad mapped first)⟩
  rw [bind_of_ok (inside i (by omega))]
  by_cases second : size ≤ i + 1
  · exact ⟨i + 1, bind_of_error (byte_bad mapped second)⟩
  rw [bind_of_ok (inside (i + 1) (by omega))]
  by_cases third : size ≤ i + 2
  · exact ⟨i + 2, bind_of_error (byte_bad mapped third)⟩
  rw [bind_of_ok (inside (i + 2) (by omega))]
  exact ⟨i + 3, bind_of_error (byte_bad mapped (by omega))⟩

theorem be16_eq {v : BitVec 16} (read : p.be16 i = .ok v) : v = p.half i := by
  obtain ⟨b0, first, read⟩ := bind_ok read
  obtain ⟨b1, second, read⟩ := bind_ok read
  have octet : ∀ {j b}, p.byte j = .ok b → b = p.octet j := by
    intro j b there
    unfold RteMbuf.byte at there
    split at there
    · rename_i stored
      cases there
      rw [RteMbuf.octet, stored]
      rfl
    · cases there
  cases read
  rw [octet first, octet second]
  rfl

end Loads

/-- Fields of 32 bits are the word itself. -/
theorem fieldGet_word (v : BitVec 32) : (fieldGet 0xffffffff#64 (v.setWidth 64)).setWidth 32 = v := by
  have shift : bfShf 0xffffffff#64 = 0 := by decide +kernel
  rw [fieldGet, shift, BitVec.ushiftRight_zero, BitVec.setWidth_and, BitVec.setWidth_setWidth_of_le _ (by decide),
    BitVec.setWidth_eq]
  exact BitVec.and_allOnes

/-! ## Fields of an accepted packet -/

/-- An accepted packet is long enough for its length to say so. -/
theorem parsePacket_long {p p' : Mbuf} {mad : Nat} (parsed : parsePacket p = .ok (some mad, p')) :
    p.IsUdp ∧ 24 ≤ p.udpLen := by
  obtain ⟨udp, located, parsed⟩ := bind_ok parsed
  obtain ⟨_, checked, same⟩ := bind_ok located
  cases same
  obtain ⟨v, read, parsed⟩ := bind_ok parsed
  obtain ⟨⟨bth, len⟩, extracted, parsed⟩ := bind_ok parsed
  dsimp only at parsed
  obtain ⟨p₁, _, parsed⟩ := bind_ok parsed
  obtain ⟨p₂, _, parsed⟩ := bind_ok parsed
  have udp : p.IsUdp := by
    unfold check at checked
    split at checked
    · rename_i both
      exact ⟨both.1, both.2⟩
    · cases checked
  refine ⟨udp, ?_⟩
  cases bth with
  | none => cases parsed
  | some bth =>
    have length := be16_eq read
    unfold extractBth at extracted
    split at extracted
    · cases extracted
    · rename_i enough
      have least : 24 ≤ (v.setWidth 64).toNat := Nat.le_of_not_lt enough
      rw [toNat_len, length] at least
      exact least

namespace Mbuf.Framed

variable {p : Mbuf} (framed : p.Framed)
include framed

theorem holds {i n : Nat} (inside : i + n ≤ p.udp + p.udpLen) : p.Holds i n := by
  rw [framed.size] at inside
  exact ⟨inside, fun j within => (framed.mapped _).mpr (by omega)⟩

theorem inspectable (long : 24 ≤ p.udpLen) : p.Inspectable := by
  refine ⟨framed.holds ?_, fun _ => framed.holds ?_, fun mad => framed.holds ?_⟩
  · simp only [sizeofUdphdr]
    omega
  · simp only [sizeofRxeBth]
    omega
  · have room := mad.madLen
    omega

end Mbuf.Framed

/-- What the tracker is given: a packet that ends where its UDP length says, accepted and
annotated. -/
structure Delivered (p : Mbuf) : Prop extends p.Framed where
  accepted : p.Accepted
  mad : mbufMad p.annotate.toRteMbuf = .ok (some (p.udp + 28))

theorem Mbuf.Framed.delivered {p p' : Mbuf} {mad : Nat} (framed : p.Framed)
    (parsed : parsePacket p = .ok (some mad, p')) : Delivered p ∧ p' = p.annotate := by
  obtain ⟨udp, long⟩ := parsePacket_long parsed
  have ins := framed.inspectable long
  obtain ⟨accepted, _, annotated⟩ := (parsePacket_some udp ins).mp parsed
  have read := Mbuf.getMad_annotate ins
  rw [if_pos accepted] at read
  exact ⟨⟨framed, accepted, read⟩, annotated⟩

namespace Delivered

variable {p : Mbuf} (delivered : Delivered p)
include delivered

/-- A field inside the packet. -/
theorem field_ok {f : IbaField} (inside : 28 + f.offset + 4 ≤ p.udpLen) :
    getField f p.annotate.toRteMbuf =
      .ok ((fieldGet f.mask ((p.word (p.udp + 28 + f.offset)).setWidth 64)).setWidth 32) := by
  have holds : p.Holds (p.udp + 28 + f.offset) 4 := delivered.holds (by omega)
  have word : p.annotate.be32 (p.udp + 28 + f.offset) = .ok (p.word (p.udp + 28 + f.offset)) :=
    holds.mapped.be32 (j := 0) (by decide)
  rw [getField_of delivered.mad, ibaGet, bind_of_ok word]
  rfl

/-- A field that leaves the packet. -/
theorem field_bad {f : IbaField} (beyond : p.udpLen < 28 + f.offset + 4) :
    ∃ i, getField f p.annotate.toRteMbuf = .error (.badRead i) := by
  have size := delivered.size
  obtain ⟨i, bad⟩ := be32_bad (p := p.annotate.toRteMbuf) (i := p.udp + 28 + f.offset) delivered.mapped (by omega)
  refine ⟨i, ?_⟩
  rw [getField_of delivered.mad, ibaGet, bind_of_error bad]

theorem attrId : getAttrId p.annotate.toRteMbuf = .ok p.attrId := by
  have long := delivered.accepted.madLen
  have holds : p.Holds (p.udp + 44) 2 := delivered.holds (by omega)
  have half : p.annotate.be16 (p.udp + 28 + 16) = .ok p.attrId := holds.mapped.be16 (j := 0) (by decide)
  rw [getAttrId, bind_of_ok delivered.mad]
  exact half

theorem unknown : logUnknown p.annotate.toRteMbuf = .ok () := by
  have long := delivered.accepted.madLen
  have holds : p.Holds (p.udp + 28) 4 := delivered.holds (by omega)
  have byte : ∀ j, j < 4 → p.annotate.byte (p.udp + 28 + j) = .ok (p.octet (p.udp + 28 + j)) := fun j within =>
    holds.mapped.byte within
  rw [logUnknown, bind_of_ok delivered.mad]
  dsimp only
  rw [bind_of_ok (byte 0 (by decide)), bind_of_ok (byte 1 (by decide)), bind_of_ok (byte 2 (by decide)),
    bind_of_ok (byte 3 (by decide))]
  rfl

/-- The IPv4 addresses are in front of the UDP header. -/
theorem addresses : saddr p.annotate.toRteMbuf = .ok p.srcAddr ∧ daddr p.annotate.toRteMbuf = .ok p.dstAddr := by
  have long := delivered.accepted.madLen
  have holds : p.Holds p.l2Len.toNat 20 := delivered.holds (by unfold Mbuf.udp; omega)
  have ip : mbufIp p.annotate.toRteMbuf = .ok p.l2Len.toNat := mbufIp_of_ipv4 delivered.ipv4
  constructor
  · rw [saddr, bind_of_ok ip]
    exact holds.mapped.load32 (j := 12) (by decide)
  · rw [daddr, bind_of_ok ip]
    exact holds.mapped.load32 (j := 16) (by decide)

theorem process_eq_feed (t : Tracker) (dir : CtcmDirection) :
    ctcmProcessPacket t dir p.annotate.toRteMbuf = t.feed (p.annotate.toRteMbuf, dir) := by
  rw [ctcmProcessPacket, bind_of_ok delivered.mad]
  rfl

end Delivered

/-! ## What a handler reads -/

/-- The event of a packet with a handler. -/
theorem readEvent_of_op {p : RteMbuf} {op : CmOp} (attr : getAttrId p = .ok op.attrId) :
    readEvent p op.dir = op.read p >>= fun e => .ok (some e) := by
  have dispatch : CmOp.ofPacket op.dir op.attrId = some op := ofPacket_iff.mpr ⟨rfl, rfl⟩
  rw [readEvent, bind_of_ok attr, dispatch]
  rfl

namespace Delivered

variable {p : Mbuf} (delivered : Delivered p)
include delivered

/-- A handler whose id on our side is outside the packet faults in every state. -/
theorem local_bad (op : CmOp) {f : IbaField} (attr : p.attrId = op.attrId) (field : op.localField = some f)
    (beyond : p.udpLen < 28 + f.offset + 4) (t : Tracker) :
    ∃ i, t.feed (p.annotate.toRteMbuf, op.dir) = .error (.badRead i) := by
  obtain ⟨i, bad⟩ := delivered.field_bad beyond
  refine ⟨i, ?_⟩
  have id : op.readLocalId p.annotate.toRteMbuf (some (p.udp + 28)) = .error (.badRead i) := by
    rw [← bad, getField_of delivered.mad]
    simp only [CmOp.readLocalId, field]
  have read : op.read p.annotate.toRteMbuf = .error (.badRead i) := by
    rw [CmOp.read, bind_of_ok delivered.mad, bind_of_error id]
  have event : readEvent p.annotate.toRteMbuf op.dir = .error (.badRead i) := by
    rw [readEvent_of_op (attr ▸ delivered.attrId), bind_of_error read]
  rw [Tracker.feed, process_eq, bind_of_error event]

/-- With the communication ids inside the packet, the event is read. -/
theorem reads (op : CmOp) (attr : p.attrId = op.attrId)
    (inside : ∀ f, op.localField = some f ∨ op.remoteField = some f → 28 + f.offset + 4 ≤ p.udpLen) :
    ∃ e, e.op = op ∧ Reads (p.annotate.toRteMbuf, op.dir) e := by
  obtain ⟨saddr, daddr⟩ := delivered.addresses
  obtain ⟨l, id⟩ : ∃ l, op.readLocalId p.annotate.toRteMbuf (some (p.udp + 28)) = .ok l := by
    unfold CmOp.readLocalId
    split
    · rename_i f field
      exact ⟨_, (getField_of delivered.mad f).symm.trans (delivered.field_ok (inside f (Or.inl field)))⟩
    · exact ⟨_, rfl⟩
  obtain ⟨k, key⟩ : ∃ k, op.readRemoteId p.annotate.toRteMbuf (some (p.udp + 28)) = .ok k := by
    unfold CmOp.readRemoteId
    split
    · rename_i f field
      rw [bind_of_ok ((getField_of delivered.mad f).symm.trans (delivered.field_ok (inside f (Or.inr field))))]
      unfold CmOp.peerKey
      split
      · exact ⟨_, by rw [CmFlowKey.fromDest, bind_of_ok daddr]; rfl⟩
      · exact ⟨_, by rw [CmFlowKey.fromSrc, bind_of_ok saddr]; rfl⟩
    · exact ⟨_, rfl⟩
  refine ⟨⟨op, l, k, op.readQpn p.annotate.toRteMbuf (some (p.udp + 28))⟩, rfl, ?_⟩
  have read : op.read p.annotate.toRteMbuf =
      .ok ⟨op, l, k, op.readQpn p.annotate.toRteMbuf (some (p.udp + 28))⟩ := by
    rw [CmOp.read, bind_of_ok delivered.mad, bind_of_ok id, bind_of_ok key]
    rfl
  rw [Reads, readEvent_of_op (attr ▸ delivered.attrId), bind_of_ok read]

end Delivered

/-! ## When the QPN is read -/

/-- A step reads nothing but the QPN, and that only once it has something to look up. -/
theorem step_badRead {t : Tracker} {e : Event} {i : Nat} (idx : Indexed t) (bad : t.step e = .error (.badRead i)) :
    e.qpn = .error (.badRead i) ∧ (e.localId ≠ 0#32 ∨ e.lookupKey.IsSet) := by
  rcases getFlow_total idx e.localId e.lookupKey with ⟨s, u, found⟩ | ⟨_, failed⟩ | ⟨_, _, _, _, _, failed⟩
  · refine ⟨?_, found.ids⟩
    rw [Tracker.step, bind_of_ok found.getFlow] at bad
    rcases perform_total found (found.indexed idx) with ⟨t', effect⟩ | ⟨f, failure, failed⟩
    · cases (effect.perform found (found.indexed idx)).symm.trans bad
    · cases failed.symm.trans bad
      cases failure with
      | read qpn => exact qpn
  · rw [Tracker.step, bind_of_error failed] at bad
    cases bad
  · rw [Tracker.step, bind_of_error failed] at bad
    cases bad

/-- A REQ of the host and a REP of the network fail with the read of their QPN. -/
theorem Lookup.step_unread {t u : Tracker} {e : Event} {s : Ref} {f : Fault} (found : Lookup t e.localId e.lookupKey s u)
    (unread : e.qpn = .error f)
    (act : action e.op (u.flow s).state = .sendReq ∨ action e.op (u.flow s).state = .receiveRep) :
    t.step e = .error f := by
  rw [Tracker.step, bind_of_ok found.getFlow]
  dsimp only
  rcases act with act | act <;> rw [act, Tracker.perform, bind_of_error unread]

/-- A REP of the host reads its QPN once the flow is entered under the peer's key; with an unset key
there is nothing to enter. -/
theorem Lookup.step_unread_rep {t u : Tracker} {e : Event} {s : Ref} {f : Fault}
    (found : Lookup t e.localId e.lookupKey s u) (idx : Indexed t) (unread : e.qpn = .error f)
    (act : action e.op (u.flow s).state = .sendRep) (unset : ¬ e.remoteId.IsSet) : t.step e = .error f := by
  rw [Tracker.step, bind_of_ok found.getFlow]
  dsimp only
  rw [act, Tracker.perform, bind_of_ok (found.reply_stored (found.indexed idx) ⟨rfl, rfl⟩ fun set => absurd set unset)]
  exact bind_of_error unread

/-! ## Covered packets are read in bounds -/

theorem cmField32Loc_local : cmField32Loc 0 32 = ⟨24, 0xffffffff#64⟩ := by decide +kernel

theorem cmField32Loc_remote : cmField32Loc 4 32 = ⟨28, 0xffffffff#64⟩ := by decide +kernel

/-- The communication ids of a covered packet are inside. -/
theorem Mbuf.Covered.ids {p : Mbuf} (covered : p.Covered) {op : CmOp} (attr : p.attrId = op.attrId) (f : IbaField)
    (field : op.localField = some f ∨ op.remoteField = some f) : 28 + f.offset + 4 ≤ p.udpLen := by
  have near : ∀ {g : IbaField}, g.offset = 24 → 56 ≤ p.udpLen → 28 + g.offset + 4 ≤ p.udpLen := by
    intro g offset long
    omega
  have far : ∀ {g : IbaField}, g.offset = 24 ∨ g.offset = 28 → 60 ≤ p.udpLen → 28 + g.offset + 4 ≤ p.udpLen := by
    rintro g (offset | offset) long <;> omega
  have offsets : f.offset = 24 ∨ f.offset = 28 := by
    cases op <;> rcases field with field | field <;> cases field <;> decide
  cases op
  case reqSent => rcases field with field | field <;> cases field; exact near rfl (covered.req attr).1
  case reqReceived => rcases field with field | field <;> cases field; exact near rfl (covered.req attr).1
  case repSent => exact far offsets (covered.rep attr).1
  case repReceived => exact far offsets (covered.rep attr).1
  all_goals exact far offsets (covered.others (by simp only [attr]; decide))

namespace Delivered

variable {p : Mbuf} (delivered : Delivered p)
include delivered

theorem local_eq (long : 56 ≤ p.udpLen) :
    getField (cmField32Loc 0 32) p.annotate.toRteMbuf = .ok p.localCommId := by
  rw [cmField32Loc_local, delivered.field_ok (f := ⟨24, 0xffffffff#64⟩) long, fieldGet_word]
  rfl

theorem remote_eq (long : 60 ≤ p.udpLen) :
    getField (cmField32Loc 4 32) p.annotate.toRteMbuf = .ok p.remoteCommId := by
  rw [cmField32Loc_remote, delivered.field_ok (f := ⟨28, 0xffffffff#64⟩) long, fieldGet_word]
  rfl

/-- A QPN that cannot be read is outside the packet. -/
theorem qpn_short {f : IbaField} {e : Event} {g : Fault} (qpn : e.qpn = getField f p.annotate.toRteMbuf)
    (unread : e.qpn = .error g) : p.udpLen < 28 + f.offset + 4 := by
  by_contra inside
  rw [delivered.field_ok (Nat.le_of_not_lt inside)] at qpn
  cases unread.symm.trans qpn

theorem qpn_bad {f : IbaField} {e : Event} (qpn : e.qpn = getField f p.annotate.toRteMbuf)
    (beyond : p.udpLen < 28 + f.offset + 4) : ∃ i, e.qpn = .error (.badRead i) := by
  rw [qpn]
  exact delivered.field_bad beyond

/-- The QPN of a covered packet is only missing when its ids are null. -/
theorem null_ids (covered : p.Covered) {op : CmOp} (attr : p.attrId = op.attrId) {e : Event} (same : e.op = op)
    (read : Reads (p.annotate.toRteMbuf, op.dir) e) {g : Fault} (unread : e.qpn = .error g) :
    e.localId = 0#32 ∧ ¬ e.lookupKey.IsSet := by
  have fields := read.fields
  subst same
  have req : p.attrId = cmReqAttrId → e.op.qpnField = some cmReqLocalQpn → p.localCommId = 0#32 := by
    intro attr field
    have short := delivered.qpn_short (fields.qpn _ field) unread
    by_contra id
    exact absurd short (Nat.not_lt.mpr ((covered.req attr).2 id))
  have rep : p.attrId = cmRepAttrId → e.op.qpnField = some cmRepLocalQpn →
      p.localCommId = 0#32 ∧ p.remoteCommId = 0#32 := by
    intro attr field
    have short := delivered.qpn_short (fields.qpn _ field) unread
    by_contra id
    exact absurd short (Nat.not_lt.mpr ((covered.rep attr).2 (by tauto)))
  cases op : e.op <;> rw [op] at attr fields req rep
  case reqSent =>
    have own := fields.localId _ (by rw [op]; rfl)
    have id := Except.ok.inj (own.symm.trans (delivered.local_eq (covered.req attr).1))
    refine ⟨id.trans (req attr rfl), ?_⟩
    rw [Event.lookupKey, op]
    exact CmFlowKey.not_isSet_null
  case reqReceived =>
    have own := (fields.remoteId _ (by rw [op]; rfl)).1
    have peer := Except.ok.inj (own.symm.trans (delivered.local_eq (covered.req attr).1))
    refine ⟨fields.noLocalId (by rw [op]; rfl), ?_⟩
    rw [Event.lookupKey, op]
    exact fun set => set.2 (peer.trans (req attr rfl))
  case repSent =>
    have long := (covered.rep attr).1
    have own := fields.localId _ (by rw [op]; rfl)
    have id := Except.ok.inj (own.symm.trans (delivered.local_eq (by omega)))
    have other := (fields.remoteId _ (by rw [op]; rfl)).1
    have peer := Except.ok.inj (other.symm.trans (delivered.remote_eq long))
    refine ⟨id.trans (rep attr rfl).1, ?_⟩
    rw [Event.lookupKey, op]
    exact fun set => set.2 (peer.trans (rep attr rfl).2)
  case repReceived =>
    have own := fields.localId _ (by rw [op]; rfl)
    have id := Except.ok.inj (own.symm.trans (delivered.remote_eq (covered.rep attr).1))
    refine ⟨id.trans (rep attr rfl).2, ?_⟩
    rw [Event.lookupKey, op]
    exact CmFlowKey.not_isSet_null
  -- the other messages carry no QPN
  all_goals cases unread.symm.trans (fields.noQpn (by rw [op]; rfl))

theorem in_bounds (covered : p.Covered) {t : Tracker} (idx : Indexed t) (dir : CtcmDirection) (i : Nat) :
    t.feed (p.annotate.toRteMbuf, dir) ≠ .error (.badRead i) := by
  intro bad
  cases dispatch : CmOp.ofPacket dir p.attrId with
  | none =>
    have silent : readEvent p.annotate.toRteMbuf dir = .ok none := by
      rw [readEvent, bind_of_ok delivered.attrId, dispatch]
      dsimp only
      rw [bind_of_ok delivered.unknown]
      rfl
    cases (feed_of_none silent).symm.trans bad
  | some op =>
    obtain ⟨rfl, attr⟩ := ofPacket_iff.mp dispatch
    obtain ⟨e, same, read⟩ := delivered.reads op attr (covered.ids attr)
    rw [feed_of_event read] at bad
    obtain ⟨unread, ids⟩ := step_badRead idx bad
    obtain ⟨id, key⟩ := delivered.null_ids covered attr same read unread
    exact ids.elim (fun set => set id) key

end Delivered

/-! ## Packets that are not covered

Every bound of `Covered` is needed: some reachable state makes a handler read behind it. -/

section Reached

variable (attrId : BitVec 16) (src dst l r q : BitVec 32)

theorem cmMbuf_local : getField (cmField32Loc 0 32) (cmMbuf attrId src dst l r q) = .ok l := by
  have mad : mbufMad (cmMbuf attrId src dst l r q) = .ok (some 62) := rfl
  have stored : (cmMbuf attrId src dst l r q).be32 (62 + 24) = .ok
    ((l >>> 24).setWidth 8 ++ (l >>> 16).setWidth 8 ++ (l >>> 8).setWidth 8 ++ (l >>> 0).setWidth 8) := rfl
  rw [getField_of mad, cmField32Loc_local, ibaGet, bind_of_ok stored, be_bytes, fieldGet_word]
  rfl

theorem cmMbuf_remote : getField (cmField32Loc 4 32) (cmMbuf attrId src dst l r q) = .ok r := by
  have mad : mbufMad (cmMbuf attrId src dst l r q) = .ok (some 62) := rfl
  have stored : (cmMbuf attrId src dst l r q).be32 (62 + 28) = .ok
    ((r >>> 24).setWidth 8 ++ (r >>> 16).setWidth 8 ++ (r >>> 8).setWidth 8 ++ (r >>> 0).setWidth 8) := rfl
  rw [getField_of mad, cmField32Loc_remote, ibaGet, bind_of_ok stored, be_bytes, fieldGet_word]
  rfl

end Reached

/-- A REQ of the host under any local id. -/
theorem hostReq_fromHost (l : IdT) : ∃ q, HostReq l q (fromHost cmReqAttrId 0x0200000a#32 l 0#32 0#32) := by
  obtain ⟨q, qpn⟩ : ∃ q, getField cmReqLocalQpn (fromHost cmReqAttrId 0x0200000a#32 l 0#32 0#32).1 = .ok q := ⟨_, rfl⟩
  refine ⟨q, rfl, cmMbuf_attrId _ _ _ _ _ _, ?_⟩
  simpa using ⟨cmMbuf_local _ _ _ _ _ _, qpn⟩

/-- A REJ of the network with any id on our side. -/
theorem netRej_fromNet (l : IdT) : NetRej 0x0200000a#32 l 2#32 (fromNet cmRejAttrId 0x0200000a#32 l 2#32 0#32) := by
  refine ⟨⟨rfl, cmMbuf_attrId _ _ _ _ _ _, ?_⟩, (cmMbuf_addr _ _ _ _ _ _).1⟩
  simpa using ⟨cmMbuf_remote _ _ _ _ _ _, cmMbuf_local _ _ _ _ _ _⟩

/-- Every local id can stand for a REQ that was sent. -/
theorem tracked_reqSent {l : IdT} (id : l ≠ 0#32) :
    ∃ t s, Tracked t ∧ t.localMap.find l = some s ∧ (t.flow s).state = .REQ_SENT := by
  obtain ⟨q, req⟩ := hostReq_fromHost l
  have created : Lookup Tracker.init l .null Tracker.init.flows.next (Tracker.init.newFlow l .null) :=
    .created (Or.inl id) rfl rfl
  have act : action .reqSent ((Tracker.init.newFlow l .null).flow Tracker.init.flows.next).state = .sendReq := by
    rw [Tracker.flow_newFlow, if_pos rfl]
    rfl
  have stepped := (step_iff Indexed.init).mpr ⟨_, _, created, .sentReq (e := ⟨.reqSent, l, .null, .ok q⟩) act rfl⟩
  refine ⟨_, Tracker.init.flows.next, Tracked.init.step (hostReq_iff.mp req) stepped, ?_, ?_⟩
  · rw [Tracker.localMap_modify, Tracker.find_localMap_newFlow, if_pos ⟨rfl, id⟩]
  · rw [Tracker.flow_modify_self]
    rfl

/-- Every local id can stand for a REQ that was received: a REJ with the key of the REQ joins its
local id to the flow and leaves it as it is. -/
theorem tracked_reqRcvd {l : IdT} (id : l ≠ 0#32) :
    ∃ t s, Tracked t ∧ t.localMap.find l = some s ∧ (t.flow s).state = .REQ_RCVD := by
  let k : CmFlowKey := ⟨0x0200000a#32, 2#32⟩
  have req : NetReq k.addr k.id 0x22#32 (fromNet cmReqAttrId 0x0200000a#32 0#32 2#32 0x22#32) :=
    ⟨⟨rfl, by decide +kernel, by decide +kernel⟩, by decide +kernel⟩
  have created : Lookup Tracker.init 0#32 k Tracker.init.flows.next (Tracker.init.newFlow 0#32 k) :=
    .created (Or.inr (by decide)) rfl rfl
  have idle : ((Tracker.init.newFlow 0#32 k).flow Tracker.init.flows.next).state = .IDLE := by
    rw [Tracker.flow_newFlow, if_pos rfl]
  have received := (step_iff Indexed.init).mpr ⟨_, _, created, .receivedReq (e := ⟨.reqReceived, 0#32, k, .ok 0x22#32⟩)
    (by rw [idle]; rfl) rfl (fun repeated => by rw [idle] at repeated; cases repeated)⟩
  have tracked := Tracked.init.step (netReq_iff.mp req) received
  -- the flow of the REQ has no local id yet, so the REJ binds `l` to it
  have bound := Lookup.bound (t := (Tracker.init.newFlow 0#32 k).modify Tracker.init.flows.next fun f =>
      Action.receiveReq.update 0x22#32 f) (l := l) (k := k) (s := Tracker.init.flows.next) id
    (by rw [Tracker.localMap_modify, Tracker.find_localMap_newFlow, if_neg (fun both => both.2 rfl)]; rfl)
    (by rw [Tracker.remoteMap_modify, Tracker.find_remoteMap_newFlow, if_pos ⟨rfl, by decide⟩])
    (by rw [Tracker.flow_modify_self, update_localId, Tracker.flow_newFlow, if_pos rfl])
  have kept := (step_iff tracked.indexed).mpr ⟨_, _, bound, .kept (e := ⟨.rejReceived, l, k, .ok 0#32⟩)
    (Or.inl (by rw [Tracker.flow_bindLocal, if_pos rfl, Tracker.flow_modify_self]; rfl))⟩
  have rej : Reads (fromNet cmRejAttrId 0x0200000a#32 l 2#32 0#32) ⟨.rejReceived, l, k, .ok 0#32⟩ :=
    netRej_iff.mp (netRej_fromNet l)
  refine ⟨_, Tracker.init.flows.next, tracked.step rej kept, ?_, ?_⟩
  · rw [Tracker.localMap_bindLocal, Table.find_insert_self]
  · rw [Tracker.flow_bindLocal, if_pos rfl, Tracker.flow_modify_self]
    rfl

/-- The ids of a REP are inside. -/
theorem rep_ids {n : Nat} (long : 60 ≤ n) {op : CmOp} (rep : op = .repSent ∨ op = .repReceived) (f : IbaField)
    (field : op.localField = some f ∨ op.remoteField = some f) : 28 + f.offset + 4 ≤ n := by
  have offset : f.offset ≤ 28 := by
    rcases rep with rfl | rfl <;> rcases field with field | field <;> cases field <;> decide
  omega

namespace Delivered

variable {p : Mbuf} (delivered : Delivered p)
include delivered

/-- The QPN of a REQ is read for a flow that the REQ itself creates. -/
theorem short_req (attr : p.attrId = cmReqAttrId) (long : 56 ≤ p.udpLen) (short : p.udpLen < 88)
    (id : p.localCommId ≠ 0#32) :
    ∃ t dir i, Tracked t ∧ t.feed (p.annotate.toRteMbuf, dir) = .error (.badRead i) := by
  obtain ⟨e, op, read⟩ := delivered.reads .reqSent attr (by
    rintro f (field | field) <;> cases field
    exact long)
  have fields := read.fields
  obtain ⟨i, unread⟩ := delivered.qpn_bad (fields.qpn cmReqLocalQpn (by rw [op]; rfl)) short
  have own := fields.localId cmReqLocalCommId (by rw [op]; rfl)
  have same := Except.ok.inj (own.symm.trans (delivered.local_eq long))
  have found : Lookup Tracker.init e.localId e.lookupKey Tracker.init.flows.next
      (Tracker.init.newFlow e.localId e.lookupKey) := .created (Or.inl (same ▸ id)) rfl rfl
  have act : action e.op ((Tracker.init.newFlow e.localId e.lookupKey).flow Tracker.init.flows.next).state =
      .sendReq := by
    rw [Tracker.flow_newFlow, if_pos rfl, op]
    rfl
  exact ⟨_, _, i, Tracked.init, (feed_of_event read).trans (found.step_unread unread (Or.inl act))⟩

/-- The QPN of a REP of the host is read on a flow with the peer's REQ; without a remote id there is
no peer to enter first. -/
theorem short_repSent (attr : p.attrId = cmRepAttrId) (long : 60 ≤ p.udpLen) (short : p.udpLen < 68)
    (id : p.localCommId ≠ 0#32) (remote : p.remoteCommId = 0#32) :
    ∃ t dir i, Tracked t ∧ t.feed (p.annotate.toRteMbuf, dir) = .error (.badRead i) := by
  obtain ⟨e, op, read⟩ := delivered.reads .repSent attr (rep_ids long (Or.inl rfl))
  have fields := read.fields
  obtain ⟨i, unread⟩ := delivered.qpn_bad (fields.qpn cmRepLocalQpn (by rw [op]; rfl)) short
  have own := fields.localId cmRepLocalCommId (by rw [op]; rfl)
  have same := Except.ok.inj (own.symm.trans (delivered.local_eq (by omega)))
  have other := (fields.remoteId cmRepRemoteCommId (by rw [op]; rfl)).1
  have peer := Except.ok.inj (other.symm.trans (delivered.remote_eq long))
  obtain ⟨t, s, tracked, held, state⟩ := tracked_reqRcvd id
  rw [← same] at held id
  have found : Lookup t e.localId e.lookupKey s t := .byLocal id held
  have act : action e.op (t.flow s).state = .sendRep := by
    rw [op, state]
    rfl
  have unset : ¬ e.remoteId.IsSet := fun both => both.2 (peer.trans remote)
  exact ⟨t, _, i, tracked, (feed_of_event read).trans (found.step_unread_rep tracked.indexed unread act unset)⟩

/-- The QPN of a REP of the network is read on a flow with the host's REQ. -/
theorem short_repReceived (attr : p.attrId = cmRepAttrId) (long : 60 ≤ p.udpLen) (short : p.udpLen < 68)
    (id : p.remoteCommId ≠ 0#32) :
    ∃ t dir i, Tracked t ∧ t.feed (p.annotate.toRteMbuf, dir) = .error (.badRead i) := by
  obtain ⟨e, op, read⟩ := delivered.reads .repReceived attr (rep_ids long (Or.inr rfl))
  have fields := read.fields
  obtain ⟨i, unread⟩ := delivered.qpn_bad (fields.qpn cmRepLocalQpn (by rw [op]; rfl)) short
  have own := fields.localId cmRepRemoteCommId (by rw [op]; rfl)
  have same := Except.ok.inj (own.symm.trans (delivered.remote_eq long))
  obtain ⟨t, s, tracked, held, state⟩ := tracked_reqSent id
  rw [← same] at held id
  have found : Lookup t e.localId e.lookupKey s t := .byLocal id held
  have act : action e.op (t.flow s).state = .receiveRep := by
    rw [op, state]
    rfl
  exact ⟨t, _, i, tracked, (feed_of_event read).trans (found.step_unread unread (Or.inr act))⟩

/-- What a packet has to have when no state makes a handler read outside it. -/
theorem covered (bounded : ∀ t dir i, Tracked t → t.feed (p.annotate.toRteMbuf, dir) ≠ .error (.badRead i)) :
    p.Covered := by
  have ids : ∀ (op : CmOp) {f : IbaField} {n : Nat}, p.attrId = op.attrId → op.localField = some f →
      28 + f.offset + 4 = n → n ≤ p.udpLen := by
    intro op f n attr field size
    by_contra short
    obtain ⟨i, bad⟩ := delivered.local_bad op attr field (by omega) Tracker.init
    exact bounded _ _ i Tracked.init bad
  have faults : ¬ ∃ t dir i, Tracked t ∧ t.feed (p.annotate.toRteMbuf, dir) = .error (.badRead i) := by
    rintro ⟨t, dir, i, tracked, bad⟩
    exact bounded t dir i tracked bad
  refine ⟨?_, ?_, ?_⟩
  · intro attr
    have long : 56 ≤ p.udpLen := ids .reqSent attr rfl rfl
    refine ⟨long, fun id => ?_⟩
    by_contra short
    exact faults (delivered.short_req attr long (Nat.lt_of_not_le short) id)
  · intro attr
    have long : 60 ≤ p.udpLen := ids .repReceived attr rfl rfl
    refine ⟨long, fun id => ?_⟩
    by_contra short
    by_cases remote : p.remoteCommId = 0#32
    · have set : p.localCommId ≠ 0#32 := id.resolve_right (not_not_intro remote)
      exact faults (delivered.short_repSent attr long (Nat.lt_of_not_le short) set remote)
    · exact faults (delivered.short_repReceived attr long (Nat.lt_of_not_le short) remote)
  · rintro (attr | attr | attr | attr)
    · exact ids .rejReceived attr rfl rfl
    · exact ids .rtuReceived attr rfl rfl
    · exact ids .dreqReceived attr rfl rfl
    · exact ids .drepReceived attr rfl rfl

end Delivered

/-- **Accepted packets are read in bounds when they are covered.** For an IPv4 packet that ends
where its UDP length says and that the parser accepts: no read of `ctcm_process_packet` leaves the
packet, in any direction and any reachable state, exactly when the UDP length covers the fields of
its message. -/
theorem reads_in_bounds_iff {p p' : Mbuf} {mad : Nat} (framed : p.Framed)
    (parsed : parsePacket p = .ok (some mad, p')) :
    (∀ t dir i, Tracked t → ctcmProcessPacket t dir p'.toRteMbuf ≠ .error (.badRead i)) ↔ p.Covered := by
  obtain ⟨delivered, rfl⟩ := framed.delivered parsed
  simp only [delivered.process_eq_feed]
  constructor
  · exact delivered.covered
  · intro covered t dir i tracked
    exact delivered.in_bounds covered tracked.indexed dir i

theorem roceMbuf_end (udpLen : BitVec 16) {i : Nat} (beyond : 322 ≤ i) : (roceMbuf udpLen).buf i = none := by
  have far : ∀ base v, base + 4 ≤ 322 → beAt base v i = none := by
    intro base v before
    rw [beAt, if_neg]
    omega
  have last : ¬ i < 322 := by omega
  simp only [roceMbuf, far, cmMbuf, if_neg last, show 34 + 4 ≤ 322 by decide, show 38 + 4 ≤ 322 by decide,
    show 42 + 4 ≤ 322 by decide, show 46 + 4 ≤ 322 by decide, show 62 + 4 ≤ 322 by decide]
  rfl

/-- The datagram as long as its UDP length says. -/
theorem roceMbuf_framed : (roceMbuf 288).Framed := by
  refine ⟨by decide +kernel, by decide +kernel, fun i => ?_⟩
  constructor
  · intro there
    by_contra beyond
    rw [roceMbuf_end 288 (Nat.le_of_not_lt beyond)] at there
    cases there
  · intro inside
    have mapped := roceMbuf_mapped 288 (i := 0) (n := 322) (by decide) i inside
    rwa [Nat.zero_add] at mapped

/-- A whole REQ is read in bounds in every state. -/
theorem reads_in_bounds_req : (roceMbuf 288).Framed ∧ (roceMbuf 288).Covered ∧
    ∀ t dir i, Tracked t → ctcmProcessPacket t dir (roceMbuf 288).annotate.toRteMbuf ≠ .error (.badRead i) := by
  have accepted : (roceMbuf 288).Accepted := by decide +kernel
  have parsed := (parsePacket_some (roceMbuf_isUdp 288) (roceMbuf_inspectable 288)).mpr ⟨accepted, rfl, rfl⟩
  have attr : (roceMbuf 288).attrId = cmReqAttrId := by decide +kernel
  have length : (roceMbuf 288).udpLen = 288 := by decide +kernel
  have covered : (roceMbuf 288).Covered := by
    refine ⟨fun _ => ?_, ?_, ?_⟩
    · rw [length]
      decide
    · rw [attr]
      exact fun other => absurd other (by decide)
    · rw [attr, length]
      exact fun _ => by decide
  exact ⟨roceMbuf_framed, covered, (reads_in_bounds_iff roceMbuf_framed parsed).mpr covered⟩

/-- A REQ that is cut off after its first communication id, with the UDP length to match. -/
def shortReq : Mbuf :=
  { roceMbuf 56 with
    buf := fun i => if i < 90 then (roceMbuf 56).buf i else none
    pktLen := 90 }

/-- The tracker reads its QPN behind the end of the packet. -/
theorem reads_out_of_bounds :
    shortReq.Framed ∧ ∃ p', parsePacket shortReq = .ok (some 62, p') ∧
      ctcmProcessPacket Tracker.init .FROM_HOST p'.toRteMbuf = .error (.badRead 118) := by
  have framed : shortReq.Framed := by
    refine ⟨by decide +kernel, by decide +kernel, fun i => ?_⟩
    constructor
    · intro there
      by_contra beyond
      have far : ¬ i < 90 := beyond
      simp only [shortReq, if_neg far] at there
      cases there
    · intro inside
      have near : i < 90 := inside
      have mapped := roceMbuf_mapped 56 (i := 0) (n := 322) (by decide) i (by omega)
      rw [Nat.zero_add] at mapped
      simp only [shortReq, if_pos near]
      exact mapped
  obtain ⟨⟨mad, p'⟩, parsed, rfl⟩ := map_ok (show (parsePacket shortReq).map (fun r => r.1) = .ok (some 62) by
    decide +kernel)
  refine ⟨framed, p', parsed, map_error (f := fun _ => ()) ?_⟩
  have processed : (parsePacket shortReq >>= fun r => (ctcmProcessPacket Tracker.init .FROM_HOST r.2.toRteMbuf).map
      fun _ => ()) = .error (.badRead 118) := by decide +kernel
  rwa [bind_of_ok parsed] at processed

end ConntrackCm
