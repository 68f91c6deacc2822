import ConntrackCm.Step

/-!
# Rejected connections

A REJ closes a connection that is not established yet. `rej_sent` and `rej_received` each have
their own list of states in which they erase the flow, and the lists differ in REQ_RCVD: the
peer that sent the REQ and gives up with a REJ leaves its flow behind.
-/

namespace ConntrackCm

open Lib

/-- The states of an opening handshake. -/
def FlowSt.HalfOpen (st : FlowSt) : Prop := st = .REQ_SENT ∨ st = .REQ_RCVD ∨ st = .REP_SENT ∨ st = .REP_RCVD

/-- The flow `s` has an id, and is stored under each id it has. -/
structure Held (t : Tracker) (s : Ref) : Prop where
  ids : (t.flow s).localId ≠ 0#32 ∨ (t.flow s).remoteId.IsSet
  locals : (t.flow s).localId ≠ 0#32 → t.localMap.find (t.flow s).localId = some s
  remotes : (t.flow s).remoteId.IsSet → t.remoteMap.find (t.flow s).remoteId = some s

/-- The flow `s` is in neither index. -/
def Gone (t : Tracker) (s : Ref) : Prop := (∀ l, t.localMap.find l ≠ some s) ∧ ∀ k, t.remoteMap.find k ≠ some s

/-- A lookup with the flow's own ids finds the flow. -/
theorem Held.lookup {t : Tracker} {s : Ref} {k : CmFlowKey} (held : Held t s)
    (peer : (t.flow s).remoteId.IsSet → k = (t.flow s).remoteId) : Lookup t (t.flow s).localId k s t := by
  by_cases zero : (t.flow s).localId = 0#32
  · have set := held.ids.resolve_left (not_not_intro zero)
    rw [peer set]
    exact .byRemote zero set (held.remotes set)
  · exact .byLocal zero (held.locals zero)

theorem Held.not_gone {t : Tracker} {s : Ref} (held : Held t s) : ¬ Gone t s := by
  intro gone
  rcases held.ids with id | set
  · exact gone.1 _ (held.locals id)
  · exact gone.2 _ (held.remotes set)

/-- Dropping a flow under its own ids takes it out of both indexes. -/
theorem Indexed.gone_dropFlow {t : Tracker} {s : Ref} {k : CmFlowKey} (idx : Indexed t)
    (peer : (t.flow s).remoteId.IsSet → k = (t.flow s).remoteId) : Gone (t.dropFlow s (t.flow s).localId k) s := by
  constructor
  · intro l stored
    rw [Tracker.localMap_dropFlow, Table.find_erase] at stored
    split_ifs at stored with own
    exact own (idx.local_own stored).2.symm
  · intro k' stored
    rw [Tracker.remoteMap_dropFlow, Table.find_erase] at stored
    split_ifs at stored with own
    obtain ⟨set, same⟩ := idx.remote_own stored
    rw [← same] at set own
    exact own (peer set).symm

/-! The two lists of states. -/

theorem action_rejSent {st : FlowSt} (halfOpen : st.HalfOpen) : action .rejSent st = .erase := by
  rcases halfOpen with rfl | rfl | rfl | rfl <;> rfl

theorem action_rejReceived {st : FlowSt} (halfOpen : st.HalfOpen) (other : st ≠ .REQ_RCVD) :
    action .rejReceived st = .erase := by
  rcases halfOpen with rfl | rfl | rfl | rfl
  · rfl
  · exact absurd rfl other
  · rfl
  · rfl

/-- A REJ whose handler erases closes the connection. -/
theorem Held.rejected {t : Tracker} {s : Ref} {e : Event} (held : Held t s) (idx : Indexed t)
    (id : e.localId = (t.flow s).localId) (looked : e.lookupKey = e.remoteId)
    (peer : (t.flow s).remoteId.IsSet → e.remoteId = (t.flow s).remoteId)
    (act : action e.op (t.flow s).state = .erase) : ∃ t', t.step e = .ok t' ∧ Gone t' s := by
  have found : Lookup t e.localId e.lookupKey s t := by
    rw [id, looked]
    exact held.lookup peer
  refine ⟨_, found.step_erase act, ?_⟩
  rw [id]
  exact idx.gone_dropFlow peer

/-- A REJ that the handler does not expect changes nothing. -/
theorem Held.ignored {t : Tracker} {s : Ref} {e : Event} (held : Held t s) (idx : Indexed t)
    (id : e.localId = (t.flow s).localId) (looked : e.lookupKey = e.remoteId)
    (peer : (t.flow s).remoteId.IsSet → e.remoteId = (t.flow s).remoteId)
    (act : action e.op (t.flow s).state = .unexpected) : t.step e = .ok t := by
  refine (step_iff idx).mpr ⟨s, t, ?_, .kept (Or.inl act)⟩
  rw [id, looked]
  exact held.lookup peer

/-- **Which half-open connections a REJ closes.** For every flow of a reachable state that is in
an opening handshake and stored under its ids, a REJ with these ids passes all assertions and
takes the flow out of both indexes, unless it comes from the network and the flow is in
REQ_RCVD. -/
theorem rejected_iff {t : Tracker} {s : Ref} {k : CmFlowKey} {x : Packet} (tracked : Tracked t) (held : Held t s)
    (halfOpen : (t.flow s).state.HalfOpen)
    (peer : (t.flow s).remoteId.IsSet → k = (t.flow s).remoteId)
    (rej : HostRej k.addr (t.flow s).localId k.id x ∨ NetRej k.addr (t.flow s).localId k.id x) :
    (∃ t', t.process x.1 x.2 = .ok t' ∧ Gone t' s) ↔ ¬ (x.2 = .FROM_NET ∧ (t.flow s).state = .REQ_RCVD) := by
  have idx := tracked.indexed
  rcases rej with host | net
  · have notNet : ¬ (x.2 = .FROM_NET ∧ (t.flow s).state = .REQ_RCVD) := by
      rw [host.1.dir]
      rintro ⟨side, _⟩
      cases side
    refine iff_of_true ?_ notNet
    obtain ⟨t', stepped, gone⟩ := held.rejected idx (e := ⟨.rejSent, (t.flow s).localId, k, .ok 0#32⟩) rfl rfl peer
      (action_rejSent halfOpen)
    exact ⟨t', (feed_of_event (hostRej_iff.mp host)).trans stepped, gone⟩
  · have processed : t.process x.1 x.2 = t.step ⟨.rejReceived, (t.flow s).localId, k, .ok 0#32⟩ :=
      feed_of_event (netRej_iff.mp net)
    by_cases requested : (t.flow s).state = .REQ_RCVD
    · refine iff_of_false ?_ (not_not_intro ⟨net.1.dir, requested⟩)
      rintro ⟨t', now, gone⟩
      have act : action .rejReceived (t.flow s).state = .unexpected := by rw [requested]; rfl
      rw [processed, held.ignored idx rfl rfl peer act] at now
      cases now
      exact held.not_gone gone
    · refine iff_of_true ?_ (fun both => requested both.2)
      obtain ⟨t', stepped, gone⟩ := held.rejected idx (e := ⟨.rejReceived, (t.flow s).localId, k, .ok 0#32⟩) rfl rfl
        peer (action_rejReceived halfOpen requested)
      exact ⟨t', processed.trans stepped, gone⟩

/-- The flow of a REQ from a peer, before the host has answered. -/
theorem Held.asked {t : Tracker} {s : Ref} {k : CmFlowKey} {q : QpnT} (flow : t.flow s = ⟨.REQ_RCVD, 0#32, k, 0#32, q, false⟩)
    (stored : t.remoteMap.find k = some s) (set : k.IsSet) : Held t s := by
  refine ⟨?_, ?_, ?_⟩ <;> rw [flow]
  · exact Or.inr set
  · exact fun id => absurd rfl id
  · exact fun _ => stored

/-- The host rejects a connection that a peer asked for. -/
theorem rejected_by_host :
    ∃ t t' : Tracker, Tracked t ∧ (t.flow 0).state = .REQ_RCVD ∧
      t.process (fromHost cmRejAttrId 0x0200000a#32 0#32 2#32 0#32).1 .FROM_HOST = .ok t' ∧ Gone t' 0 := by
  obtain ⟨t, ran, seen⟩ := map_ok (show (run Tracker.feed Tracker.init
    [fromNet cmReqAttrId 0x0200000a#32 0#32 2#32 0x22#32]).map
      (fun t => (t.flow 0, t.remoteMap.find ⟨0x0200000a#32, 2#32⟩)) =
      .ok (⟨.REQ_RCVD, 0#32, ⟨0x0200000a#32, 2#32⟩, 0#32, 0x22#32, false⟩, some 0) by decide +kernel)
  obtain ⟨flow, stored⟩ := Prod.mk.inj seen
  have held := Held.asked flow stored (by decide)
  have rej : HostRej 0x0200000a#32 (t.flow 0).localId 2#32 (fromHost cmRejAttrId 0x0200000a#32 0#32 2#32 0#32) := by
    rw [flow]
    exact ⟨⟨rfl, by decide +kernel, by decide +kernel⟩, by decide +kernel⟩
  obtain ⟨t', processed, gone⟩ := (rejected_iff (k := ⟨0x0200000a#32, 2#32⟩) ⟨_, ran⟩ held
    (by rw [flow]; exact Or.inr (Or.inl rfl)) (fun _ => by rw [flow]) (Or.inl rej)).mpr nofun
  exact ⟨t, t', ⟨_, ran⟩, by rw [flow], processed, gone⟩

/-- A peer that takes its own REQ back stays in the tables. -/
theorem rejected_by_peer_fails :
    ∃ t t' : Tracker, Tracked t ∧ Held t 0 ∧ (t.flow 0).state = .REQ_RCVD ∧
      NetRej (t.flow 0).remoteId.addr (t.flow 0).localId (t.flow 0).remoteId.id
        (fromNet cmRejAttrId 0x0200000a#32 0#32 2#32 0#32) ∧
      t.process (fromNet cmRejAttrId 0x0200000a#32 0#32 2#32 0#32).1 .FROM_NET = .ok t' ∧
      t'.remoteMap.find (t.flow 0).remoteId = some 0 ∧ ¬ Gone t' 0 := by
  obtain ⟨t, t', ran, seen, now, left⟩ := run_observe
    (show (run Tracker.feed Tracker.init [fromNet cmReqAttrId 0x0200000a#32 0#32 2#32 0x22#32]).map
      (fun t => (t.flow 0, t.remoteMap.find ⟨0x0200000a#32, 2#32⟩)) =
      .ok (⟨.REQ_RCVD, 0#32, ⟨0x0200000a#32, 2#32⟩, 0#32, 0x22#32, false⟩, some 0) by decide +kernel)
    (show (run Tracker.feed Tracker.init ([fromNet cmReqAttrId 0x0200000a#32 0#32 2#32 0x22#32] ++
      [fromNet cmRejAttrId 0x0200000a#32 0#32 2#32 0#32])).map (fun t => t.remoteMap.find ⟨0x0200000a#32, 2#32⟩) =
      .ok (some 0) by decide +kernel)
  obtain ⟨flow, stored⟩ := Prod.mk.inj seen
  have held := Held.asked flow stored (by decide)
  refine ⟨t, t', ⟨_, ran⟩, held, by rw [flow], ?_, now, by rw [flow]; exact left, fun gone => gone.2 _ left⟩
  rw [flow]
  exact ⟨⟨rfl, by decide +kernel, by decide +kernel⟩, by decide +kernel⟩

end ConntrackCm
