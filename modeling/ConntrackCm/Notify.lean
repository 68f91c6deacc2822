import ConntrackCm.Ownership
import ConntrackCm.Pipeline
import ConntrackCm.Icrc

/-!
# Notifying a queue pair

What the library is for: a congested packet on its way to `(dest_ip, dqpn)` is answered with a CNP
to the queue pair that sent it, and `ctcm_query_ipv4` knows which one that is. The answer is 32
bits wide and the BTH has room for 24. Nothing is lost between the two: QPNs come from fields of
24 bits, and no handler widens them. A CNP is not a MAD either, so a tracker that sees the
notifications pass by takes no notice of them (`cnp_names_answer`).
-/

namespace ConntrackCm

open Lib

/-! ## QPNs have 24 bits -/

/-- The QPNs of a flow fit the fields they came in. -/
structure FlowState.Narrow (f : FlowState) : Prop where
  localQpn : f.localQpn.toNat < 0x1000000
  remoteQpn : f.remoteQpn.toNat < 0x1000000

theorem getField_qpn_lt {op : CmOp} {f : IbaField} {p : RteMbuf} {q : QpnT} (field : op.qpnField = some f)
    (read : getField f p = .ok q) : q.toNat < 0x1000000 := by
  have mask : f.mask = 0xffffff00#64 := by
    cases op <;> cases field <;> decide +kernel
  obtain ⟨msg, _, read⟩ := bind_ok read
  cases msg with
  | none => cases read
  | some base =>
    obtain ⟨reg, _, value⟩ := bind_ok read
    cases value
    rw [mask, fieldGet_upper, BitVec.toNat_ushiftRight, Nat.shiftRight_eq_div_pow]
    have wide := reg.isLt
    omega

theorem Reads.qpn_lt {x : Packet} {e : Event} {q : QpnT} (reads : Reads x e) (qpn : e.qpn = .ok q) :
    q.toNat < 0x1000000 := by
  have fields := reads.fields
  cases field : e.op.qpnField with
  | some f => exact getField_qpn_lt field ((fields.qpn f field).symm.trans qpn)
  | none =>
    rw [fields.noQpn field] at qpn
    cases qpn
    decide

theorem FlowState.Narrow.fresh {f : FlowState} (noLocal : f.localQpn = 0#32) (noRemote : f.remoteQpn = 0#32) : f.Narrow := by
  constructor
  · rw [noLocal]; decide
  · rw [noRemote]; decide

theorem FlowState.Narrow.update {f : FlowState} {q : QpnT} (narrow : f.Narrow) (fits : q.toNat < 0x1000000)
    (a : Action) : (a.update q f).Narrow := by
  cases a with
  | sendReq => exact ⟨fits, narrow.remoteQpn⟩
  | receiveReq => exact ⟨narrow.localQpn, fits⟩
  | sendRep => exact ⟨fits, narrow.remoteQpn⟩
  | receiveRep => exact ⟨narrow.localQpn, fits⟩
  | _ => exact ⟨narrow.localQpn, narrow.remoteQpn⟩

section Step

variable {t t' u : Tracker} {e : Event} {s : Ref}

theorem Lookup.narrow {l : IdT} {k : CmFlowKey} (found : Lookup t l k s u) (before : ∀ r, (t.flow r).Narrow) :
    (u.flow s).Narrow := by
  cases found with
  | byLocal => exact before s
  | byRemote => exact before s
  | created =>
    rw [Tracker.flow_newFlow, if_pos rfl]
    exact .fresh rfl rfl
  | bound =>
    rw [Tracker.flow_bindLocal, if_pos rfl]
    exact ⟨(before s).localQpn, (before s).remoteQpn⟩

theorem Effect.narrow (effect : Effect e s t t') (fits : ∀ q, e.qpn = .ok q → q.toNat < 0x1000000)
    (before : (t.flow s).Narrow) : (t'.flow s).Narrow := by
  have updated : ∀ (a : Action) (q : QpnT), q.toNat < 0x1000000 → ((t.modify s fun f => a.update q f).flow s).Narrow := by
    intro a q small
    rw [Tracker.flow_modify_self]
    exact before.update small a
  cases effect with
  | kept => exact before
  | sentReq _ qpn => exact updated _ _ (fits _ qpn)
  | receivedReq _ qpn => exact updated _ _ (fits _ qpn)
  | replied _ _ qpn => exact updated _ _ (fits _ qpn)
  | @repliedBound q a _ _ qpn =>
    have replied := updated a q (fits q qpn)
    rw [Tracker.flow_bindRemote, if_pos rfl]
    exact ⟨replied.localQpn, replied.remoteQpn⟩
  | established =>
    obtain ⟨flag, after⟩ := t.flow_establish s
    rw [after]
    exact ⟨before.localQpn, before.remoteQpn⟩
  | disconnected => exact updated _ _ (by decide)
  | erased =>
    obtain ⟨flag, after, _⟩ := t.flow_dropFlow_self s e.localId e.remoteId
    rw [after]
    exact ⟨before.localQpn, before.remoteQpn⟩

end Step

theorem Tracked.narrow {t : Tracker} (tracked : Tracked t) (s : Ref) : (t.flow s).Narrow := by
  have inv : Indexed t ∧ ∀ r, (t.flow r).Narrow := by
    refine Reachable.invariant (I := fun t => Indexed t ∧ ∀ r, (t.flow r).Narrow) ⟨Indexed.init, ?_⟩ ?_ tracked
    · exact fun r => .fresh rfl rfl
    · rintro m x m' ⟨idx, before⟩ now
      rcases feed_ok now with ⟨_, rfl⟩ | ⟨e, reads, stepped⟩
      · exact ⟨idx, before⟩
      · refine ⟨idx.step stepped, fun r => ?_⟩
        obtain ⟨s, u, found, effect⟩ := (step_iff idx).mp stepped
        by_cases here : r = s
        · subst here
          exact effect.narrow (fun q qpn => Reads.qpn_lt reads qpn) (found.narrow before)
        · rw [effect.flow_of_ne here, found.flow_of_ne here]
          exact before r
  exact inv.2 s

/-- Answers are the local QPNs of flows. -/
theorem Tracked.answer_lt {t : Tracker} (tracked : Tracked t) (key : FlowKey) :
    (t.getSourceQpn key).toNat < 0x1000000 := by
  by_cases none : t.getSourceQpn key = 0#32
  · rw [none]
    decide
  · have entry := (Tracker.getSourceQpn_iff none).mp rfl
    obtain ⟨s, owns⟩ := tracked.qpnOwned.owner entry
    rw [← owns.qpn]
    exact (tracked.narrow s).localQpn

/-! ## A CNP as its receiver sees it -/

/-- `__bth_becn`. The mask is swapped instead of the word. -/
def bthBecn (p : RteMbuf) (bth : Nat) : Except Fault Bool := do
  return decide (bthBecnMask &&& (← p.be32 (bth + RxeBth.qpn)) ≠ 0)

/-- The RoCE CNP opcode. -/
def cnpOpcode : BitVec 8 := 0x81

/-- A template on a packet that held `l2_len` bytes, with edits that leave the destination port, the
UDP length and the BTH as they are. -/
structure Addressed (append : Mbuf → Nat → Option (Nat × Mbuf)) (m e : Mbuf) : Prop extends Prepared append m e where
  holds : m.pktLen.toNat = m.l2Len.toNat
  kept : ∀ j, (22 ≤ j ∧ j < 26) ∨ (28 ≤ j ∧ j < 40) → e.octet (m.pktLen.toNat + j) = cnpTemplate.getD j 0

theorem becn_join (q : BitVec 32) :
    0x40#8 ++ q.extractLsb' 16 8 ++ q.extractLsb' 8 8 ++ q.extractLsb' 0 8 = 0x40#8 ++ q.setWidth 24 := by
  ext i hi
  simp only [BitVec.getElem_append, BitVec.getElem_extractLsb', BitVec.getElem_setWidth]
  split_ifs <;> first | omega | rfl | (congr 1; omega)

/-- The word of a BTH with BECN and a QPN of 24 bits. -/
theorem becn_word {q : BitVec 32} (small : q.toNat < 0x1000000) :
    bthQpnMask &&& (0x40#8 ++ q.extractLsb' 16 8 ++ q.extractLsb' 8 8 ++ q.extractLsb' 0 8) = q ∧
      bthBecnMask &&& (0x40#8 ++ q.extractLsb' 16 8 ++ q.extractLsb' 8 8 ++ q.extractLsb' 0 8) ≠ 0 := by
  rw [becn_join]
  constructor
  · have mask : bthQpnMask &&& (0x40#8 ++ q.setWidth 24) = (q.setWidth 24).setWidth 32 := by
      have low : ∀ i < 32, bthQpnMask.getLsbD i = decide (i < 24) := by decide
      ext i hi
      rw [BitVec.getElem_and, ← BitVec.getLsbD_eq_getElem (x := bthQpnMask), low i hi, BitVec.getElem_append,
        BitVec.getElem_setWidth]
      by_cases inside : i < 24
      · simp [inside]
      · simp [inside]
    rw [mask]
    apply BitVec.eq_of_toNat_eq
    rw [BitVec.toNat_setWidth, BitVec.toNat_setWidth]
    omega
  · intro clear
    have bit : (bthBecnMask &&& (0x40#8 ++ q.setWidth 24)).getLsbD 30 = false := by
      rw [clear]
      rfl
    rw [BitVec.getLsbD_and, BitVec.getLsbD_append, if_neg (by decide)] at bit
    exact absurd bit (by decide)

/-- The bytes of the QPN. -/
theorem Mbuf.cnpFor_qpn (crc : List (BitVec 8) → BitVec 32) (e : Mbuf) (q : BitVec 32) {j : Nat} (inside : j < 3) :
    (e.cnpFor crc q).octet (e.l2Len.toNat + 33 + j) = (bigEndian 3 q).getD j 0 := by
  have outer : (e.cnpFor crc q).octet (e.l2Len.toNat + 33 + j) = (e.setQpn q).octet (e.l2Len.toNat + 33 + j) :=
    Mbuf.octet_outside (Or.inl (show e.l2Len.toNat + 33 + j < e.l2Len.toNat + 56 by omega))
  rw [outer]
  exact Mbuf.octet_inside (by rw [length_bigEndian]; exact inside)

section Receive

variable {append : Mbuf → Nat → Option (Nat × Mbuf)} (appends : Appends append) (crc : List (BitVec 8) → BitVec 32)
  {m e : Mbuf} (addressed : Addressed append m e) (q : BitVec 32)

include appends addressed

theorem Addressed.l2Len : e.l2Len.toNat = m.pktLen.toNat := by
  rw [addressed.toPrepared.l2Len appends, addressed.holds]

theorem Addressed.octet {j : Nat} (inside : (22 ≤ j ∧ j < 26) ∨ (28 ≤ j ∧ j < 33) ∨ (36 ≤ j ∧ j < 40)) :
    (e.cnpFor crc q).octet (e.l2Len.toNat + j) = cnpTemplate.getD j 0 := by
  have same : (e.cnpFor crc q).buf (e.l2Len.toNat + j) = e.buf (e.l2Len.toNat + j) := by
    apply Mbuf.rewritten_cnpFor.bytes
    intro i written
    simp only [List.mem_cons, List.not_mem_nil, or_false] at written
    omega
  have kept := addressed.kept j (by omega)
  rw [← addressed.l2Len appends] at kept
  rw [← kept, RteMbuf.octet, RteMbuf.octet, same]

/-- The word that holds BECN and the QPN. -/
theorem Addressed.word : (e.cnpFor crc q).word (e.l2Len.toNat + 32) =
    0x40#8 ++ q.extractLsb' 16 8 ++ q.extractLsb' 8 8 ++ q.extractLsb' 0 8 := by
  have first : (e.cnpFor crc q).octet (e.l2Len.toNat + 32) = 0x40#8 := addressed.octet appends crc q (by omega)
  have qpn : ∀ j, j < 3 → (e.cnpFor crc q).octet (e.l2Len.toNat + 33 + j) = (bigEndian 3 q).getD j 0 :=
    fun j inside => Mbuf.cnpFor_qpn crc e q inside
  rw [RteMbuf.word, first]
  rw [show e.l2Len.toNat + 32 + 1 = e.l2Len.toNat + 33 + 0 by omega, show e.l2Len.toNat + 32 + 2 = e.l2Len.toNat + 33 + 1 by omega,
    show e.l2Len.toNat + 32 + 3 = e.l2Len.toNat + 33 + 2 by omega, qpn 0 (by decide), qpn 1 (by decide), qpn 2 (by decide)]
  rfl

theorem Addressed.udp : (e.cnpFor crc q).udp = e.l2Len.toNat + 20 := by
  have l3Len : (e.cnpFor crc q).l3Len = 20 := (addressed.toPrepared.isCnp appends).l3Len
  rw [Mbuf.udp, l3Len]
  rfl

theorem Addressed.isUdp : (e.cnpFor crc q).IsUdp := by
  have mbuf := (addressed.toPrepared.template appends).1.mbuf
  have packetType : e.packetType = rtePtypeL4Udp ||| rtePtypeL3Ipv4 := by
    rw [mbuf]
    rfl
  have l3Len : (e.cnpFor crc q).l3Len = 20 := (addressed.toPrepared.isCnp appends).l3Len
  constructor
  · rw [l3Len]
    decide
  · show e.packetType &&& rtePtypeL4Mask = rtePtypeL4Udp
    rw [packetType]
    decide

theorem Addressed.hasBth : (e.cnpFor crc q).HasBth := by
  have udp := addressed.udp appends crc q
  constructor
  · rw [Mbuf.udpLen, RteMbuf.half, udp, Nat.add_assoc, Nat.add_assoc, addressed.octet appends crc q (by omega),
      addressed.octet appends crc q (by omega)]
    decide
  · rw [Mbuf.udpDport, RteMbuf.half, udp, Nat.add_assoc, Nat.add_assoc, addressed.octet appends crc q (by omega),
      addressed.octet appends crc q (by omega)]
    decide

theorem Addressed.opcode : (e.cnpFor crc q).octet (e.l2Len.toNat + 28) = cnpOpcode :=
  addressed.octet appends crc q (by omega)

theorem Addressed.not_mad : ¬ (e.cnpFor crc q).HasMad := by
  intro mad
  have opcode := mad.opcode
  rw [Mbuf.opcode, addressed.udp appends, Nat.add_assoc, addressed.opcode appends] at opcode
  exact absurd opcode (by decide)

theorem Addressed.mapped : (e.cnpFor crc q).Mapped e.l2Len.toNat 60 := by
  have there := addressed.toPrepared.mapped appends
  rw [← addressed.l2Len appends] at there
  exact (Mbuf.mapped_cnpFor there).mpr there

theorem Addressed.inspectable : (e.cnpFor crc q).Inspectable := by
  have mbuf := (addressed.toPrepared.template appends).1.mbuf
  have pktLen : (e.cnpFor crc q).pktLen.toNat = e.l2Len.toNat + 60 := by
    have length : e.pktLen = m.pktLen + 60 := by
      rw [mbuf]
      rfl
    have small := e.l2Len.isLt
    have same := addressed.l2Len appends
    show e.pktLen.toNat = e.l2Len.toNat + 60
    have sixty : (60 : BitVec 32).toNat = 60 := rfl
    rw [length, same, BitVec.toNat_add, sixty]
    omega
  have there := addressed.mapped appends crc q
  have udp := addressed.udp appends crc q
  refine ⟨⟨?_, ?_⟩, fun _ => ⟨?_, ?_⟩, fun mad => absurd mad (addressed.not_mad appends crc q)⟩
  · rw [udp, pktLen, sizeofUdphdr]
    omega
  · rw [udp]
    exact there.part (j := 20) (by decide)
  · rw [udp, pktLen, sizeofRxeBth]
    omega
  · rw [udp]
    exact there.part (j := 28) (by decide)

end Receive

/-- **A notification reaches the sender.** In every state of the tracker and for every flow, the
CNP completed for the answer of the query, from a template on a packet that held `l2_len` bytes, is
parsed as a CNP with BECN whose destination is that very answer; and no tracker that it passes
changes. -/
theorem cnp_names_answer {append : Mbuf → Nat → Option (Nat × Mbuf)} (appends : Appends append)
    (crc : List (BitVec 8) → BitVec 32) {t : Tracker} (tracked : Tracked t) (destIp : InAddrT) (dqpn : QpnT)
    {m e : Mbuf} (addressed : Addressed append m e) :
    ∃ g r bth, ctcmGenerateCnp crc e (ctcmQueryIpv4 t destIp dqpn) = .ok g ∧
      ctcmParsePacket g = .ok r ∧ ctcmMbufGetBth r = .ok (some bth) ∧ bthOpcode r.toRteMbuf bth = .ok cnpOpcode ∧
      bthBecn r.toRteMbuf bth = .ok true ∧ bthQpn r.toRteMbuf bth = .ok (ctcmQueryIpv4 t destIp dqpn) ∧
      ∀ (u : Tracker) dir, u.ingest (g, dir) = .ok u := by
  have small : (ctcmQueryIpv4 t destIp dqpn).toNat < 0x1000000 := tracked.answer_lt (destIp, dqpn)
  generalize ctcmQueryIpv4 t destIp dqpn = q at small ⊢
  have made := addressed.toPrepared.generate appends crc addressed.holds q
  have ins := addressed.inspectable appends crc q
  have there := addressed.mapped appends crc q
  have parsed := ctcmParsePacket_eq (addressed.isUdp appends crc q) ins
  have bth := Mbuf.getBth_annotate ins
  rw [if_pos (addressed.hasBth appends crc q), addressed.udp appends] at bth
  have opcode : bthOpcode (e.cnpFor crc q).annotate.toRteMbuf (e.l2Len.toNat + 28) = .ok cnpOpcode := by
    rw [← addressed.opcode appends crc q]
    exact there.byte (j := 28) (by decide)
  have word : (e.cnpFor crc q).annotate.be32 (e.l2Len.toNat + 28 + 4) =
      .ok (0x40#8 ++ q.extractLsb' 16 8 ++ q.extractLsb' 8 8 ++ q.extractLsb' 0 8) := by
    rw [← addressed.word appends crc q]
    exact there.be32 (j := 32) (by decide)
  obtain ⟨qpn, becn⟩ := becn_word small
  refine ⟨_, _, _, made, parsed, bth, opcode, ?_, ?_, fun u dir => ?_⟩
  · rw [bthBecn, RxeBth.qpn, bind_of_ok word, decide_eq_true becn]
    rfl
  · rw [bthQpn, bind_of_ok word, qpn]
    rfl
  · exact ingest_skipped (addressed.isUdp appends crc q) ins
      (fun accepted => addressed.not_mad appends crc q accepted.toHasMad) u dir

/-- The CNP of the unit test, for a connection that the host opened. -/
theorem cnp_names_answer_open :
    Addressed appendTail cnpMbuf cnpEdited ∧
    ∃ t, Tracked t ∧ ctcmQueryIpv4 t 0x0200000a#32 0x22#32 = 0x11#32 ∧
      ∃ g r bth, ctcmGenerateCnp crc32Eth cnpEdited 0x11#32 = .ok g ∧ ctcmParsePacket g = .ok r ∧
        ctcmMbufGetBth r = .ok (some bth) ∧ bthQpn r.toRteMbuf bth = .ok 0x11#32 := by
  have kept : ∀ j < 40, (22 ≤ j ∧ j < 26) ∨ (28 ≤ j ∧ j < 40) → cnpEdited.octet (0 + j) = cnpTemplate.getD j 0 := by
    decide +kernel
  have addressed : Addressed appendTail cnpMbuf cnpEdited :=
    { cnpEdited_prepared with holds := rfl, kept := fun j inside => kept j (by omega) inside }
  obtain ⟨t, ran, answer⟩ := map_ok (show (run Tracker.feed Tracker.init
    (activeOpen 0x0200000a#32 1#32 2#32 0x11#32 0x22#32)).map (fun t => ctcmQueryIpv4 t 0x0200000a#32 0x22#32) =
      .ok 0x11#32 by decide +kernel)
  obtain ⟨g, r, bth, made, parsed, annotated, _, _, qpn, _⟩ :=
    cnp_names_answer appends_appendTail crc32Eth ⟨_, ran⟩ 0x0200000a#32 0x22#32 addressed
  rw [answer] at made qpn
  exact ⟨addressed, t, ⟨_, ran⟩, answer, g, r, bth, made, parsed, annotated, qpn⟩

end ConntrackCm
