import ConntrackCm.Bounds
import ConntrackCm.Assertions

/-!
# From frames to messages

The library as a whole, from the bytes of the frames on: `ctcm_parse_packet` annotates a frame and
`ctcm_process_packet` hands it to the tracker, whose handlers follow the annotation back into the
bytes. `Mbuf.decode` says what a frame means without any of this, byte by byte. On frames that are
all there the two agree: whatever comes in, the library is the state machine over the decoded
messages, everything that is not a CM message drops out, and no byte outside a frame is read
(`frames_decoded`).
-/

namespace ConntrackCm

open Lib

/-! ## What a frame says -/

namespace Mbuf

/-- The QPN in a REQ, the upper three bytes of its word. -/
def reqQpn (p : Mbuf) : QpnT := p.word (p.udp + 84) >>> 8
def repQpn (p : Mbuf) : QpnT := p.word (p.udp + 64) >>> 8

/-- The id on our side: the sender's own on a message of the host, the other one on a message from
the network; a REQ of the peer has none. -/
def ownId (p : Mbuf) (op : CmOp) : IdT :=
  match op, op.dir with
  | .reqReceived, _ => 0#32
  | _, .FROM_HOST => p.localCommId
  | _, .FROM_NET => p.remoteCommId

/-- The peer by its address and its id, where the handler asks for it. -/
def peerKey (p : Mbuf) : CmOp → CmFlowKey
  | .rejSent | .repSent | .drepSent => ⟨p.dstAddr, p.remoteCommId⟩
  | .reqReceived | .rejReceived | .repReceived | .drepReceived => ⟨p.srcAddr, p.localCommId⟩
  | _ => .null

def qpn (p : Mbuf) : CmOp → QpnT
  | .reqSent | .reqReceived => p.reqQpn
  | .repSent | .repReceived => p.repQpn
  | _ => 0#32

/-- The message in a frame, none in one that is no CM message or has no handler. -/
def decode (p : Mbuf) (dir : CtcmDirection) : Option Event :=
  if p.Accepted then (CmOp.ofPacket dir p.attrId).map fun op => ⟨op, p.ownId op, p.peerKey op, .ok (p.qpn op)⟩
  else none

/-- An IPv4 datagram that is all there, and long enough for the fields of its message. -/
structure Intact (p : Mbuf) : Prop extends p.Framed, p.IsUdp where
  header : sizeofUdphdr ≤ p.udpLen
  fields : p.Accepted → ∀ op f, p.attrId = CmOp.attrId op →
    (op.localField = some f ∨ op.remoteField = some f ∨ op.qpnField = some f) → 28 + f.offset + 4 ≤ p.udpLen

theorem Intact.inspectable {p : Mbuf} (intact : p.Intact) : p.Inspectable := by
  have header := intact.header
  refine ⟨intact.holds ?_, fun bth => intact.holds ?_, fun mad => intact.holds ?_⟩
  · simp only [sizeofUdphdr] at header ⊢
    omega
  · have room := bth.len
    simp only [sizeofRxeBth]
    omega
  · have room := mad.madLen
    omega

theorem Intact.delivered {p : Mbuf} (intact : p.Intact) (accepted : p.Accepted) : Delivered p := by
  have mad := getMad_annotate intact.inspectable
  rw [if_pos accepted] at mad
  exact ⟨intact.toFramed, accepted, mad⟩

end Mbuf

/-! ## What the tracker reads -/

theorem cmField32Loc_reqQpn : cmField32Loc 32 24 = ⟨56, 0xffffff00#64⟩ := by decide +kernel

theorem cmField32Loc_repQpn : cmField32Loc 12 24 = ⟨36, 0xffffff00#64⟩ := by decide +kernel

/-- Fields of 24 bits are the upper part of the word. -/
theorem fieldGet_upper (v : BitVec 32) : (fieldGet 0xffffff00#64 (v.setWidth 64)).setWidth 32 = v >>> 8 := by
  have shift : bfShf 0xffffff00#64 = 8 := by decide +kernel
  rw [fieldGet, shift]
  apply BitVec.eq_of_getLsbD_eq
  intro i hi
  have mask : ∀ i < 32, (0xffffff00#64).getLsbD (8 + i) = decide (8 + i < 32) := by decide +kernel
  simp only [BitVec.getLsbD_setWidth, BitVec.getLsbD_ushiftRight, BitVec.getLsbD_and, mask i hi]
  by_cases high : 8 + i < 32
  · simp [high, hi, show 8 + i < 64 by omega]
  · simp [high, BitVec.getLsbD_of_ge v (8 + i) (by omega)]

namespace Mbuf.Intact

variable {p : Mbuf} (intact : p.Intact) (accepted : p.Accepted)
include intact accepted

/-- The handler reads the decoded message. -/
theorem reads_decoded {op : CmOp} (attr : p.attrId = op.attrId) :
    Reads (p.annotate.toRteMbuf, op.dir) ⟨op, p.ownId op, p.peerKey op, .ok (p.qpn op)⟩ := by
  have delivered := intact.delivered accepted
  have fields := intact.fields accepted op
  obtain ⟨src, dst⟩ := delivered.addresses
  have own : ∀ f, op.localField = some f → getField f p.annotate.toRteMbuf = .ok (p.ownId op) := by
    intro f field
    have room := fields f attr (Or.inl field)
    cases op <;> cases field <;> first | exact delivered.local_eq room | exact delivered.remote_eq room
  have qpn : ∀ f, op.qpnField = some f → getField f p.annotate.toRteMbuf = .ok (p.qpn op) := by
    intro f field
    have room := fields f attr (Or.inr (Or.inr field))
    have req : f = cmField32Loc 32 24 → getField f p.annotate.toRteMbuf = .ok p.reqQpn := by
      rintro rfl
      rw [cmField32Loc_reqQpn] at room ⊢
      rw [delivered.field_ok room, fieldGet_upper]
      rfl
    have rep : f = cmField32Loc 12 24 → getField f p.annotate.toRteMbuf = .ok p.repQpn := by
      rintro rfl
      rw [cmField32Loc_repQpn] at room ⊢
      rw [delivered.field_ok room, fieldGet_upper]
      rfl
    cases op <;> cases field <;> first | exact req rfl | exact rep rfl
  rw [reads_iff]
  refine ⟨rfl, ?_, own, ?_, ?_, ?_, fun f field => (qpn f field).symm, ?_⟩
  · rw [← attr]
    exact delivered.attrId
  · intro none
    cases op <;> first | rfl | cases none
  · intro f field
    have room := fields f attr (Or.inr (Or.inl field))
    cases op <;> cases field <;>
      first | exact ⟨delivered.local_eq room, src⟩ | exact ⟨delivered.remote_eq room, dst⟩
  · intro none
    cases op <;> first | rfl | cases none
  · intro none
    cases op <;> first | rfl | cases none

/-- The tracker reads from an accepted frame what it says. -/
theorem readEvent_eq (dir : CtcmDirection) : readEvent p.annotate.toRteMbuf dir = .ok (p.decode dir) := by
  have delivered := intact.delivered accepted
  rw [Mbuf.decode, if_pos accepted]
  cases dispatch : CmOp.ofPacket dir p.attrId with
  | none =>
    rw [readEvent, bind_of_ok delivered.attrId, dispatch]
    dsimp only
    rw [bind_of_ok delivered.unknown]
    rfl
  | some op =>
    obtain ⟨rfl, attr⟩ := ofPacket_iff.mp dispatch
    exact intact.reads_decoded accepted attr

end Mbuf.Intact

/-! ## The library -/

/-- A frame on its way through the library: parsed, and processed. -/
def Tracker.ingest (t : Tracker) (x : Mbuf × CtcmDirection) : Except Fault Tracker := do
  let p ← ctcmParsePacket x.1
  ctcmProcessPacket t x.2 p.toRteMbuf

/-- What the parser does not accept, the tracker does not see. -/
theorem ingest_skipped {p : Mbuf} (udp : p.IsUdp) (ins : p.Inspectable) (other : ¬ p.Accepted) (t : Tracker)
    (dir : CtcmDirection) : t.ingest (p, dir) = .ok t := by
  have mad := Mbuf.getMad_annotate ins
  rw [if_neg other] at mad
  rw [Tracker.ingest, bind_of_ok (ctcmParsePacket_eq udp ins), ctcmProcessPacket, bind_of_ok mad]
  rfl

theorem ingest_eq {p : Mbuf} (intact : p.Intact) (t : Tracker) (dir : CtcmDirection) :
    t.ingest (p, dir) = (p.decode dir).elim (.ok t) t.step := by
  have ins := intact.inspectable
  by_cases accepted : p.Accepted
  · rw [Tracker.ingest, bind_of_ok (ctcmParsePacket_eq intact.toIsUdp ins),
      (intact.delivered accepted).process_eq_feed, Tracker.feed, process_eq,
      bind_of_ok (intact.readEvent_eq accepted dir)]
    cases p.decode dir <;> rfl
  · rw [ingest_skipped intact.toIsUdp ins accepted, Mbuf.decode, if_neg accepted]
    rfl

/-- The messages in a sequence of frames. -/
def messages (xs : List (Mbuf × CtcmDirection)) : List Event := xs.filterMap fun x => x.1.decode x.2

/-- The tables have room for the message: it names a flow, and clashes with none. -/
def Event.Fits (t : Tracker) (e : Event) : Prop := (e.localId ≠ 0#32 ∨ e.lookupKey.IsSet) ∧ ¬ Clash t e

theorem decode_some {p : Mbuf} {dir : CtcmDirection} {e : Event} (decoded : p.decode dir = some e) :
    p.Accepted ∧ dir = e.op.dir ∧ p.attrId = e.op.attrId ∧ e = ⟨e.op, p.ownId e.op, p.peerKey e.op, .ok (p.qpn e.op)⟩ := by
  rw [Mbuf.decode] at decoded
  split at decoded
  · rename_i accepted
    obtain ⟨op, dispatch, rfl⟩ := Option.map_eq_some_iff.mp decoded
    obtain ⟨direction, attr⟩ := ofPacket_iff.mp dispatch
    exact ⟨accepted, direction, attr, rfl⟩
  · cases decoded

/-- **The library on whole frames.** Parsing and processing a sequence of frames, each of which ends
where its UDP length says and is long enough for the fields of its message, is running the state
machine over the messages in them. It reaches the end exactly when the tables have room for
each message, and else it stops at an assertion that depends on the ids and QPNs in the messages. -/
theorem frames_decoded {xs : List (Mbuf × CtcmDirection)} (intact : ∀ x ∈ xs, x.1.Intact) :
    run Tracker.ingest Tracker.init xs = run Tracker.step Tracker.init (messages xs) ∧
    ((∃ t, run Tracker.ingest Tracker.init xs = .ok t) ↔
      Along Tracker.step Event.Fits Tracker.init (messages xs)) ∧
    ∀ f, run Tracker.ingest Tracker.init xs = .error f → ∃ a, f = .assertion a ∧ ¬ a.Implied := by
  have decoded : run Tracker.ingest Tracker.init xs = run Tracker.step Tracker.init (messages xs) :=
    run_filterMap (fun x => x.1.decode x.2) (fun t x member => ingest_eq (intact x member) t x.2) Tracker.init
  have total : ∀ t, ∀ e ∈ messages xs, Indexed t →
      (∃ t', t.step e = .ok t' ∧ Indexed t' ∧ e.Fits t) ∨
        (∃ f, t.step e = .error f ∧ (∃ a, f = .assertion a ∧ ¬ a.Implied) ∧ ¬ e.Fits t) := by
    intro t e member idx
    obtain ⟨x, _, read⟩ := List.mem_filterMap.mp member
    obtain ⟨_, _, _, shape⟩ := decode_some read
    have noLocalId : e.op = .reqReceived → e.localId = 0#32 := by
      intro op
      rw [shape, op]
      rfl
    have qpn : e.qpn = .ok (x.1.qpn e.op) := by
      rw [shape]
    rcases step_total idx noLocalId qpn with ⟨t', stepped, ids, fits⟩ | ⟨a, failed, which, why⟩
    · exact Or.inl ⟨t', stepped, idx.step stepped, ids, fits⟩
    · refine Or.inr ⟨_, failed, ⟨a, rfl, which⟩, fun fits => ?_⟩
      exact why.elim (fun unset => unset fits.1) fits.2
  refine ⟨decoded, ?_⟩
  rw [decoded]
  rcases run_total total Indexed.init with ⟨t, ran, along⟩ | ⟨f, failed, bad, broken⟩
  · refine ⟨iff_of_true ⟨t, ran⟩ along, fun f failed => ?_⟩
    rw [ran] at failed
    cases failed
  · refine ⟨iff_of_false ?_ broken, fun f' failed' => ?_⟩
    · rintro ⟨t, ran⟩
      rw [failed] at ran
      cases ran
    · cases failed.symm.trans failed'
      exact bad

theorem roceMbuf_intact : (roceMbuf 288).Intact := by
  have fits : ∀ op : CmOp, ∀ f, op.localField = some f ∨ op.remoteField = some f ∨ op.qpnField = some f →
      f.offset ≤ 56 := by
    intro op f field
    cases op <;> rcases field with field | field | field <;> cases field <;> decide +kernel
  refine { roceMbuf_framed, roceMbuf_isUdp 288 with header := by decide +kernel, fields := ?_ }
  intro _ op f _ field
  have small := fits op f field
  have len : (roceMbuf 288).udpLen = 288 := by decide +kernel
  omega

/-- A frame with a REQ, once as it comes from the peer and once more as a frame of the host. -/
theorem frames_decoded_req :
    (roceMbuf 288).Intact ∧
    (run Tracker.ingest Tracker.init [(roceMbuf 288, .FROM_NET), (roceMbuf 288, .FROM_HOST)]).map
      (fun t => ((t.flow 0).remoteQpn, (t.flow 1).localQpn)) = .ok (0x22#32, 0x22#32) := by
  have intact : ∀ x ∈ [(roceMbuf 288, CtcmDirection.FROM_NET), (roceMbuf 288, .FROM_HOST)], x.1.Intact := by
    intro x member
    have same : x.1 = roceMbuf 288 := by
      rcases List.mem_pair.mp member with rfl | rfl <;> rfl
    rw [same]
    exact roceMbuf_intact
  refine ⟨roceMbuf_intact, ?_⟩
  rw [(frames_decoded intact).1]
  decide +kernel

end ConntrackCm
