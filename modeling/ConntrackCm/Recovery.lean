import Mathlib.Data.Finite.Prod
import ConntrackCm.Bounds
import ConntrackCm.Equivalence
import ConntrackCm.Ownership

/-!
# The way back

There are no timers: what a packet entered stays until a packet takes it out. Not every state can be
left by every message, and an erasure that names foreign ids can leave a flow in one index that no
message of its own connection reaches any more. Still nothing is stuck. A flow under a local id is
closed by one packet with its own ids, and an orphan under a remote key goes with the next flow that
is rejected in its name. So every reachable state can be drained, and a drained tracker is as good
as a new one (`tracker_drains`).
-/

namespace ConntrackCm

open Lib

/-! ## Packets with given ids -/

theorem hostRej_fromHost (l : IdT) (k : CmFlowKey) :
    Reads (fromHost cmRejAttrId k.addr l k.id 0#32) ⟨.rejSent, l, k, .ok 0#32⟩ := by
  refine hostRej_iff.mp ⟨⟨rfl, cmMbuf_attrId _ _ _ _ _ _, ?_⟩, (cmMbuf_addr _ _ _ _ _ _).2⟩
  simpa using ⟨cmMbuf_local _ _ _ _ _ _, cmMbuf_remote _ _ _ _ _ _⟩

theorem netRej_ids (l : IdT) (k : CmFlowKey) :
    Reads (fromNet cmRejAttrId k.addr l k.id 0#32) ⟨.rejReceived, l, k, .ok 0#32⟩ := by
  refine netRej_iff.mp ⟨⟨rfl, cmMbuf_attrId _ _ _ _ _ _, ?_⟩, (cmMbuf_addr _ _ _ _ _ _).1⟩
  simpa using ⟨cmMbuf_remote _ _ _ _ _ _, cmMbuf_local _ _ _ _ _ _⟩

theorem hostDrep_fromHost (l : IdT) (k : CmFlowKey) :
    Reads (fromHost cmDrepAttrId k.addr l k.id 0#32) ⟨.drepSent, l, k, .ok 0#32⟩ := by
  refine hostDrep_iff.mp ⟨⟨rfl, cmMbuf_attrId _ _ _ _ _ _, ?_⟩, (cmMbuf_addr _ _ _ _ _ _).2⟩
  simpa using ⟨cmMbuf_local _ _ _ _ _ _, cmMbuf_remote _ _ _ _ _ _⟩

/-! ## Closing one flow -/

/-- The handler that erases a flow in this state. -/
def FlowSt.closer : FlowSt → CmOp
  | .ESTABLISHED | .DREQ_SENT => .rejReceived
  | .DREQ_RCVD => .drepSent
  | _ => .rejSent

theorem action_closer {st : FlowSt} (entered : st.Entered) : action st.closer st = .erase := by
  cases st <;> first | rfl | cases entered

/-- A packet to it. -/
def FlowState.closer (f : FlowState) : Packet :=
  match f.state.closer with
  | .rejReceived => fromNet cmRejAttrId f.remoteId.addr f.localId f.remoteId.id 0#32
  | .drepSent => fromHost cmDrepAttrId f.remoteId.addr f.localId f.remoteId.id 0#32
  | _ => fromHost cmRejAttrId f.remoteId.addr f.localId f.remoteId.id 0#32

theorem FlowState.closer_reads (f : FlowState) :
    Reads f.closer ⟨f.state.closer, f.localId, f.remoteId, .ok 0#32⟩ := by
  have kinds : f.state.closer = .rejReceived ∨ f.state.closer = .drepSent ∨ f.state.closer = .rejSent := by
    cases f.state <;> simp [FlowSt.closer]
  unfold FlowState.closer
  rcases kinds with op | op | op <;> rw [op]
  · exact netRej_ids f.localId f.remoteId
  · exact hostDrep_fromHost f.localId f.remoteId
  · exact hostRej_fromHost f.localId f.remoteId

/-- Every flow under a local id is closed by one packet with its own ids. -/
theorem flow_closes {t : Tracker} (tracked : Tracked t) {l : IdT} {s : Ref} (held : t.localMap.find l = some s) :
    ∃ t', t.feed (t.flow s).closer = .ok t' ∧ t'.localMap = t.localMap.erase l ∧
      t'.remoteMap = t.remoteMap.erase (t.flow s).remoteId := by
  have own := tracked.indexed.local_own held
  have found : Lookup t (t.flow s).localId
      (Event.lookupKey ⟨(t.flow s).state.closer, (t.flow s).localId, (t.flow s).remoteId, .ok 0#32⟩) s t := by
    rw [own.2]
    exact .byLocal own.1 held
  have stepped := found.step_erase (e := ⟨(t.flow s).state.closer, (t.flow s).localId, (t.flow s).remoteId, .ok 0#32⟩)
    (action_closer (tracked.entered s))
  refine ⟨_, (feed_of_event (t.flow s).closer_reads).trans stepped, ?_, ?_⟩
  · rw [Tracker.localMap_dropFlow, own.2]
  · rw [Tracker.remoteMap_dropFlow]

/-! ## Closing all of them -/

section Drain

variable {t : Tracker}

/-- The local ids in the list are closed one after the other. -/
theorem drain_locals (ls : List IdT) : ∀ {t : Tracker}, Tracked t → (∀ l, t.localMap.find l ≠ none → l ∈ ls) →
    ∃ xs t', run Tracker.feed t xs = .ok t' ∧ ∀ l, t'.localMap.find l = none := by
  induction ls with
  | nil =>
    intro t _ listed
    refine ⟨[], t, rfl, fun l => ?_⟩
    by_contra held
    exact List.not_mem_nil (listed l held)
  | cons l ls ih =>
    intro t tracked listed
    cases held : t.localMap.find l with
    | none =>
      refine ih tracked fun l' held' => ?_
      refine (List.mem_cons.mp (listed l' held')).resolve_left ?_
      rintro rfl
      exact held' held
    | some s =>
      obtain ⟨m, closed, locals, _⟩ := flow_closes tracked held
      have rest : ∀ l', m.localMap.find l' ≠ none → l' ∈ ls := by
        intro l' held'
        rw [locals, Table.find_erase] at held'
        split_ifs at held' with same
        · exact absurd rfl held'
        · exact (List.mem_cons.mp (listed l' held')).resolve_left same
      obtain ⟨xs, t', ran, empty⟩ := ih (tracked.feed closed) rest
      exact ⟨(t.flow s).closer :: xs, t', by rw [run_cons, bind_of_ok closed, ran], empty⟩

/-- An orphan goes with a new flow that is rejected in its name. -/
theorem orphan_closes (tracked : Tracked t) (empty : ∀ l, t.localMap.find l = none) (k : CmFlowKey) :
    ∃ xs t', run Tracker.feed t xs = .ok t' ∧ (∀ l, t'.localMap.find l = none) ∧
      t'.remoteMap = t.remoteMap.erase k := by
  obtain ⟨q, req⟩ := hostReq_fromHost 1#32
  have idx := tracked.indexed
  have created : Lookup t 1#32 .null t.flows.next (t.newFlow 1#32 .null) :=
    .created (Or.inl (by decide)) (empty 1#32) (idx.no_unset CmFlowKey.not_isSet_null)
  have act : action .reqSent ((t.newFlow 1#32 .null).flow t.flows.next).state = .sendReq := by
    rw [Tracker.flow_newFlow, if_pos rfl]
    rfl
  have sent := (step_iff idx).mpr ⟨_, _, created, .sentReq (e := ⟨.reqSent, 1#32, .null, .ok q⟩) act rfl⟩
  generalize after : (t.newFlow 1#32 .null).modify t.flows.next (fun f => Action.sendReq.update q f) = m at sent
  have locals : ∀ l, m.localMap.find l = if l = 1#32 then some t.flows.next else none := by
    intro l
    rw [← after, Tracker.localMap_modify, Tracker.find_localMap_newFlow, empty l]
    simp
  have remotes : m.remoteMap = t.remoteMap := by
    rw [← after]
    rfl
  have state : (m.flow t.flows.next).state = .REQ_SENT := by
    rw [← after, Tracker.flow_modify_self]
    rfl
  have found : Lookup m 1#32 k t.flows.next m := .byLocal (by decide) (by rw [locals, if_pos rfl])
  have rejected := found.step_erase (e := ⟨.rejSent, 1#32, k, .ok 0#32⟩) (by rw [state]; rfl)
  refine ⟨[fromHost cmReqAttrId 0x0200000a#32 1#32 0#32 0#32, fromHost cmRejAttrId k.addr 1#32 k.id 0#32],
    m.dropFlow t.flows.next 1#32 k, ?_, fun l => ?_, ?_⟩
  · rw [run_cons, feed_of_event (hostReq_iff.mp req), bind_of_ok sent, run_cons,
      feed_of_event (hostRej_fromHost 1#32 k), bind_of_ok rejected]
    rfl
  · rw [Tracker.localMap_dropFlow, Table.find_erase, locals]
    split_ifs <;> rfl
  · rw [Tracker.remoteMap_dropFlow, remotes]

theorem drain_remotes (ks : List CmFlowKey) : ∀ {t : Tracker}, Tracked t → (∀ l, t.localMap.find l = none) →
    (∀ k, t.remoteMap.find k ≠ none → k ∈ ks) →
    ∃ xs t', run Tracker.feed t xs = .ok t' ∧ (∀ l, t'.localMap.find l = none) ∧ ∀ k, t'.remoteMap.find k = none := by
  induction ks with
  | nil =>
    intro t _ empty listed
    refine ⟨[], t, rfl, empty, fun k => ?_⟩
    by_contra held
    exact List.not_mem_nil (listed k held)
  | cons k ks ih =>
    intro t tracked empty listed
    obtain ⟨xs, m, closed, still, remotes⟩ := orphan_closes tracked empty k
    have rest : ∀ k', m.remoteMap.find k' ≠ none → k' ∈ ks := by
      intro k' held
      rw [remotes, Table.find_erase] at held
      split_ifs at held with same
      · exact absurd rfl held
      · exact (List.mem_cons.mp (listed k' held)).resolve_left same
    obtain ⟨ys, t', ran, both⟩ := ih (tracked.append closed) still rest
    exact ⟨xs ++ ys, t', by rw [run_append, bind_of_ok closed, ran], both⟩

end Drain

/-- Empty tables are those of a new tracker. -/
theorem SameTables.of_empty {t : Tracker} (own : QpnOwned t) (locals : ∀ l, t.localMap.find l = none)
    (remotes : ∀ k, t.remoteMap.find k = none) : SameTables Tracker.init t := by
  have roots : ∀ i, t.roots i = none := by
    intro i
    cases i with
    | inl l => exact locals l
    | inr k => exact remotes k
  constructor
  · constructor
    · intro i _
      rw [roots i]
      cases i <;> rfl
    · intro i j _ _
      rw [roots i, roots j]
      exact iff_of_true (by cases i <;> cases j <;> rfl) rfl
  · refine congrArg Table.mk (funext fun key => ?_)
    cases entry : t.qpnMap.find key with
    | none => rfl
    | some q =>
      obtain ⟨s, owns⟩ := own.owner entry
      have stored := owns.stored
      rw [locals] at stored
      cases stored

/-- **Nothing is stuck.** From every reachable state some packets, failing no assertion, empty all
three tables, and from then on every run goes as it would from a new tracker: it reaches its end on
one exactly when it does on the other, and every query has the same answer. -/
theorem tracker_drains {t : Tracker} (tracked : Tracked t) :
    ∃ xs d, run Tracker.feed t xs = .ok d ∧ SameTables Tracker.init d ∧
      ∀ ys, ((∃ u, run Tracker.feed Tracker.init ys = .ok u) ↔ ∃ v, run Tracker.feed d ys = .ok v) ∧
        ∀ u v, run Tracker.feed Tracker.init ys = .ok u → run Tracker.feed d ys = .ok v →
          ∀ key, v.getSourceQpn key = u.getSourceQpn key := by
  have words : Finite (BitVec 32) := Finite.of_injective BitVec.toFin fun _ _ => BitVec.eq_of_toFin_eq
  have keys : Finite CmFlowKey := by
    refine Finite.of_injective (fun k : CmFlowKey => (k.addr, k.id)) ?_
    rintro ⟨_, _⟩ ⟨_, _⟩ same
    cases same
    rfl
  obtain ⟨_⟩ := nonempty_fintype IdT
  obtain ⟨_⟩ := nonempty_fintype CmFlowKey
  obtain ⟨xs, m, first, locals⟩ := drain_locals Finset.univ.toList tracked fun l _ => by simp
  obtain ⟨ys, d, second, still, remotes⟩ :=
    drain_remotes Finset.univ.toList (tracked.append first) locals fun k _ => by simp
  have drained : Tracked d := (tracked.append first).append second
  have tables := SameTables.of_empty drained.qpnOwned still remotes
  refine ⟨xs ++ ys, d, by rw [run_append, bind_of_ok first, second], tables, fun zs => ?_⟩
  have agree := bisimulation.run zs ⟨Tracked.init, drained, tables⟩
  exact ⟨agree.ok_iff, fun u v left right => (agree.related left right).tables.answer⟩

/-- An orphan: the peer asked to disconnect, and the DREP of the host names another peer. -/
theorem tracker_drains_orphan : ∃ t, Tracked t ∧ t.localMap.find 1#32 = none ∧
    (∃ s, t.remoteMap.find ⟨0x0200000a#32, 2#32⟩ = some s ∧ (t.flow s).state = .DREQ_RCVD) ∧
    ∃ xs d, run Tracker.feed t xs = .ok d ∧ SameTables Tracker.init d := by
  obtain ⟨t, ran, seen⟩ := map_ok (show (run Tracker.feed Tracker.init
    (activeOpen 0x0200000a#32 1#32 2#32 0x11#32 0x22#32 ++
      [fromNet cmDreqAttrId 0x0200000a#32 1#32 2#32 0#32, fromHost cmDrepAttrId 0x0200000a#32 1#32 3#32 0#32])).map
    (fun t => (t.localMap.find 1#32, t.remoteMap.find ⟨0x0200000a#32, 2#32⟩, (t.flow 0).state)) =
      .ok (none, some 0, .DREQ_RCVD) by decide +kernel)
  have tracked : Tracked t := ⟨_, ran⟩
  obtain ⟨gone, orphan, state⟩ : t.localMap.find 1#32 = none ∧
      t.remoteMap.find ⟨0x0200000a#32, 2#32⟩ = some 0 ∧ (t.flow 0).state = .DREQ_RCVD := by
    simpa [Prod.ext_iff] using seen
  obtain ⟨xs, d, drained, tables, _⟩ := tracker_drains tracked
  exact ⟨t, tracked, gone, ⟨0, orphan, state⟩, xs, d, drained, tables⟩

end ConntrackCm
