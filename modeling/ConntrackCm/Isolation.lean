import ConntrackCm.Ownership

/-!
# What one peer can do to the connections of another

Net handlers find the flow by the communication id on our side and do not compare the source
address with the flow's peer. So a packet from `a` reaches a connection with `b` exactly when
it carries that connection's local id, and then an RTU, a REJ or a DREP in the right state
changes its entry. Nothing else in a packet from `a` touches the entries of `b`.
-/

namespace ConntrackCm

open Lib

/-- What the packet does to the entry of the flow `s` found under its local id. -/
inductive Reaches (t : Tracker) (e : Event) (s : Ref) : Prop where
  | establishes (op : e.op = .rtuReceived) (state : (t.flow s).state = .REP_SENT) (lq : (t.flow s).localQpn ≠ 0#32)
      (rq : (t.flow s).remoteQpn ≠ 0#32) (vacant : t.qpnMap.find (t.flow s).getFlowKey = none)
  | rejects (op : e.op = .rejReceived) (state : (t.flow s).state = .ESTABLISHED ∨ (t.flow s).state = .DREQ_SENT)
      (flag : (t.flow s).inQpnMap = true)
  | disconnects (op : e.op = .drepReceived) (state : (t.flow s).state = .DREQ_SENT ∨ (t.flow s).state = .DREQ_RCVD)
      (flag : (t.flow s).inQpnMap = true)

section Net

variable {t t' : Tracker} {e : Event} {s : Ref}

/-- Of the net handlers only these tear a registered flow down. -/
theorem erase_late {op : CmOp} {st : FlowSt} (net : op.dir = .FROM_NET) (late : st.Late) (act : action op st = .erase) :
    (op = .rejReceived ∧ (st = .ESTABLISHED ∨ st = .DREQ_SENT)) ∨
      (op = .drepReceived ∧ (st = .DREQ_SENT ∨ st = .DREQ_RCVD)) := by
  rcases late with rfl | rfl | rfl <;> cases op <;> simp [action, CmOp.dir] at act net ⊢

/-- A net packet that changes an entry of another peer found the flow by its local id. -/
theorem reaches_of_change (reached : Tracked t) (net : e.op.dir = .FROM_NET) (stepped : t.step e = .ok t')
    {key : FlowKey} (peer : e.op.remoteField ≠ none → e.remoteId.addr ≠ key.1)
    (changed : t'.qpnMap.find key ≠ t.qpnMap.find key) :
    ∃ s, t.localMap.find e.localId = some s ∧ (t.flow s).getFlowKey = key ∧ Reaches t e s := by
  have idx := reached.indexed
  obtain ⟨s, u, found, effect⟩ := (step_iff idx).mp stepped
  have own := reached.qpnOwned.lookup idx found
  rcases effect.qpnMap_cases own with same | ⟨act, lq, rq, vacant, after⟩ | ⟨act, flag, after⟩
  · rw [same, found.qpnMap_eq] at changed
    exact absurd rfl changed
  · -- an RTU looks up by the local id, and a flow it creates is idle
    have lookup := found
    rw [establish_lookupKey act] at lookup
    obtain ⟨_, ⟨held, unchanged⟩ | ⟨_, rfl, rfl⟩⟩ := lookup.null_cases idx
    · subst u
      have same : key = (t.flow s).getFlowKey := by
        by_contra other
        rw [after, Table.find_insert, if_neg other] at changed
        exact changed rfl
      refine ⟨s, held, same.symm, ?_⟩
      have entered := reached.entered s
      rcases action_establish act with ⟨op, _⟩ | ⟨op, st | st⟩
      · rw [op] at net; cases net
      · exact .establishes op st lq rq vacant
      · rw [st] at entered; cases entered
    · rw [Tracker.flow_newFlow, if_pos rfl] at rq
      exact absurd rfl rq
  · have same : key = (u.flow s).getFlowKey := by
      by_contra other
      rw [after, Table.find_erase, if_neg other, found.qpnMap_eq] at changed
      exact changed rfl
    have reg := own.registered flag
    have stored_key := found.stored_key
    cases found with
    | byLocal _ held =>
      refine ⟨s, held, same.symm, ?_⟩
      rcases erase_late net reg.late act with ⟨op, st⟩ | ⟨op, st⟩
      · exact .rejects op st flag
      · exact .disconnects op st flag
    | byRemote zero =>
      -- found by its remote key, the flow is one of the sender
      have named : e.op.remoteField ≠ none := by
        rcases erase_late net reg.late act with ⟨op, _⟩ | ⟨op, _⟩ <;> rw [op] <;> nofun
      have addr : (t.flow s).remoteId = e.remoteId := (idx.remote_own (stored_key zero).2).2
      refine absurd ?_ (peer named)
      rw [same, ← addr]
      rfl
    | created =>
      rw [Tracker.flow_newFlow, if_pos rfl] at flag
      cases flag
    | bound id noLocal held unbound =>
      rw [Tracker.flow_bindLocal, if_pos rfl] at flag
      rw [reached.qpnOwned.not_flagged_unbound idx unbound] at flag
      cases flag

/-- Such a packet does change the answer. -/
theorem Reaches.changes (reaches : Reaches t e s) (reached : Tracked t) (held : t.localMap.find e.localId = some s)
    (stepped : t.step e = .ok t') :
    t'.getSourceQpn (t.flow s).getFlowKey ≠ t.getSourceQpn (t.flow s).getFlowKey := by
  have idx := reached.indexed
  have id := (idx.local_own held).1
  have found : Lookup t e.localId e.lookupKey s t := .byLocal id held
  have erased : action e.op (t.flow s).state = .erase → (t.flow s).inQpnMap = true →
      t'.getSourceQpn (t.flow s).getFlowKey ≠ t.getSourceQpn (t.flow s).getFlowKey := by
    intro act flag
    have reg := reached.qpnOwned.registered flag
    have after : t' = t.dropFlow s e.localId e.remoteId := Except.ok.inj (stepped.symm.trans (found.step_erase act))
    have gone : t'.qpnMap.find (t.flow s).getFlowKey = none := by
      rw [after, Tracker.dropFlow, if_pos flag, reg.onDisconnected]
      exact Table.find_erase_self _ _
    unfold Tracker.getSourceQpn
    rw [gone, reg.entry]
    exact reg.localQpn.symm
  cases reaches with
  | establishes op state lq rq vacant =>
    have act : action e.op (t.flow s).state = .establish := by rw [op, state]; rfl
    have effect := (step_iff idx).mpr ⟨s, t, found, .established act⟩
    have after := Except.ok.inj (stepped.symm.trans effect)
    have entry : t'.qpnMap.find (t.flow s).getFlowKey = some (t.flow s).localQpn := by
      rcases t.establish_cases s after with ⟨_, _, zero | zero | taken⟩ | ⟨_, table, _⟩
      · exact absurd zero lq
      · exact absurd zero rq
      · exact absurd vacant taken
      · rw [table, Table.find_insert_self]
    unfold Tracker.getSourceQpn
    rw [entry, vacant]
    exact lq
  | rejects op state flag => exact erased (by rw [op]; rcases state with st | st <;> rw [st] <;> rfl) flag
  | disconnects op state flag => exact erased (by rw [op]; rcases state with st | st <;> rw [st] <;> rfl) flag

end Net

/-- **What a peer can change of another.** A packet from `a` changes the answer for a QPN of
`b` exactly when it carries the local id of a flow with this key and establishes the flow, or
tears the registered flow down. -/
theorem peer_isolation {t t' : Tracker} {x : Packet} {a b : InAddrT} {q : QpnT} (reached : Tracked t)
    (net : x.2 = .FROM_NET) (src : saddr x.1 = .ok a) (now : t.feed x = .ok t') (other : b ≠ a) :
    t'.getSourceQpn (b, q) ≠ t.getSourceQpn (b, q) ↔
      ∃ e s, Reads x e ∧ t.localMap.find e.localId = some s ∧ (t.flow s).getFlowKey = (b, q) ∧ Reaches t e s := by
  rcases feed_ok now with ⟨silent, rfl⟩ | ⟨e, read, stepped⟩
  · refine iff_of_false (not_not_intro rfl) ?_
    rintro ⟨e, s, read, _⟩
    rw [Reads, silent] at read
    cases read
  · have fields := Reads.fields read
    have dir : e.op.dir = .FROM_NET := fields.dir.symm.trans net
    constructor
    · intro changed
      have peer : e.op.remoteField ≠ none → e.remoteId.addr ≠ b := by
        intro used same
        obtain ⟨f, field⟩ := Option.ne_none_iff_exists'.mp used
        have sender := (fields.remoteId f field).2
        rw [dir] at sender
        have own : a = e.remoteId.addr := Except.ok.inj (src.symm.trans sender)
        exact other (same.symm.trans own.symm)
      have differs : t'.qpnMap.find (b, q) ≠ t.qpnMap.find (b, q) := by
        intro same
        unfold Tracker.getSourceQpn at changed
        rw [same] at changed
        exact changed rfl
      obtain ⟨s, held, key, reaches⟩ := reaches_of_change reached dir stepped peer differs
      exact ⟨e, s, read, held, key, reaches⟩
    · rintro ⟨e', s, read', held, key, reaches⟩
      cases Except.ok.inj (read.symm.trans read')
      rw [← key]
      exact reaches.changes reached held stepped

/-- A REJ of `10.0.0.3` with the local id of a connection with `10.0.0.2`. -/
def strayRej : Packet := fromNet cmRejAttrId 0x0300000a#32 1#32 7#32 0#32

/-- It takes out the mapping of a connection the tracker has recorded. -/
theorem strayRej_run : ∃ t t', Tracked t ∧ t.feed strayRej = .ok t' ∧
    t.getSourceQpn (0x0200000a#32, 0x22#32) = 0x11#32 ∧ t'.getSourceQpn (0x0200000a#32, 0x22#32) = 0#32 := by
  have before : (run Tracker.feed Tracker.init (passiveOpen 0x0200000a#32 1#32 2#32 0x11#32 0x22#32)).map
      (·.getSourceQpn (0x0200000a#32, 0x22#32)) = .ok 0x11#32 := by decide +kernel
  have after : (run Tracker.feed Tracker.init (passiveOpen 0x0200000a#32 1#32 2#32 0x11#32 0x22#32 ++ [strayRej])).map
      (·.getSourceQpn (0x0200000a#32, 0x22#32)) = .ok 0#32 := by decide +kernel
  obtain ⟨t, t', ran, known, now, gone⟩ := run_observe before after
  exact ⟨t, t', ⟨_, ran⟩, now, known, gone⟩

theorem peer_isolation_rej : ∃ t t', Tracked t ∧ t.feed strayRej = .ok t' ∧
    ∃ e s, Reads strayRej e ∧ t.localMap.find e.localId = some s ∧
      (t.flow s).getFlowKey = (0x0200000a#32, 0x22#32) ∧ Reaches t e s := by
  obtain ⟨t, t', tracked, now, known, gone⟩ := strayRej_run
  have changed : t'.getSourceQpn (0x0200000a#32, 0x22#32) ≠ t.getSourceQpn (0x0200000a#32, 0x22#32) := by
    rw [known, gone]
    decide
  have from_peer : saddr strayRej.1 = .ok 0x0300000a#32 := by decide +kernel
  exact ⟨t, t', tracked, now, (peer_isolation tracked rfl from_peer now (by decide)).mp changed⟩

/-- The REJ of one host changes the answer for another. -/
theorem peer_isolation_fails : ∃ t t', Tracked t ∧ strayRej.2 = .FROM_NET ∧ saddr strayRej.1 = .ok 0x0300000a#32 ∧
    t.feed strayRej = .ok t' ∧ t.getSourceQpn (0x0200000a#32, 0x22#32) = 0x11#32 ∧
    t'.getSourceQpn (0x0200000a#32, 0x22#32) = 0#32 := by
  obtain ⟨t, t', tracked, now, known, gone⟩ := strayRej_run
  exact ⟨t, t', tracked, rfl, by decide +kernel, now, known, gone⟩

end ConntrackCm
