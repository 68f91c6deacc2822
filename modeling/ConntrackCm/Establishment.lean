import ConntrackCm.Ownership

/-!
# Answers for established connections

`on_established` leaves a key that is taken to the flow that has it, and nothing registers the
other flow later. So what an established flow answers was decided by the table its RTU met:
`Establishes` is that moment of the run, and the flow is registered from then on exactly when
its key was free. A null local id could unregister a flow without erasing it, so the packets
have non-null ids.
-/

namespace ConntrackCm

open Lib

/-- The RTU `x`, arriving after `pre` in the state `m`, established the flow that is now `f`. -/
structure Establishes (pre : List Packet) (x : Packet) (m : Tracker) (s : Ref) (f : FlowState) : Prop where
  ran : run Tracker.feed Tracker.init pre = .ok m
  held : m.localMap.find f.localId = some s
  rtu : (HostRtu f.localId x ∧ (m.flow s).state = .REP_RCVD) ∨ (NetRtu f.localId x ∧ (m.flow s).state = .REP_SENT)
  same : f = { m.flow s with state := .ESTABLISHED, inQpnMap := f.inQpnMap }

/-- Every established flow has its RTU, and is registered if its key was free at that time. -/
def Established (xs : List Packet) (t : Tracker) : Prop :=
  ∀ s, (t.flow s).state = .ESTABLISHED → ∃ pre x post m, xs = pre ++ x :: post ∧ Establishes pre x m s (t.flow s) ∧
    (t.localMap.find (t.flow s).localId = some s → (t.flow s).localQpn ≠ 0#32 → (t.flow s).remoteQpn ≠ 0#32 →
      ((t.flow s).inQpnMap = true ↔ m.qpnMap.find (t.flow s).getFlowKey = none))

section Step

variable {xs : List Packet} {x : Packet} {t u t' : Tracker} {e : Event} {s : Ref}

theorem Established.init : Established [] Tracker.init := nofun

theorem Establishes.localId {pre : List Packet} {m : Tracker} {f : FlowState} (h : Establishes pre x m s f) :
    f.localId ≠ 0#32 :=
  ((Tracked.indexed ⟨pre, h.ran⟩).local_own h.held).1

/-- A flow that was established before. -/
theorem Established.extend (old : Established xs t) (x : Packet) {f : FlowState} {flag : Bool}
    (same : f = { t.flow s with inQpnMap := flag }) (state : f.state = .ESTABLISHED)
    (kept : t'.localMap.find f.localId = some s → t.localMap.find f.localId = some s ∧ flag = (t.flow s).inQpnMap) :
    ∃ pre y post m, xs ++ [x] = pre ++ y :: post ∧ Establishes pre y m s f ∧
      (t'.localMap.find f.localId = some s → f.localQpn ≠ 0#32 → f.remoteQpn ≠ 0#32 →
        (f.inQpnMap = true ↔ m.qpnMap.find f.getFlowKey = none)) := by
  subst same
  obtain ⟨pre, y, post, m, split, by_rtu, registered⟩ := old s state
  refine ⟨pre, y, post ++ [x], m, by rw [split]; simp, ⟨by_rtu.ran, by_rtu.held, by_rtu.rtu, ?_⟩, ?_⟩
  · rw [by_rtu.same]
  · intro held lq rq
    obtain ⟨held, flagged⟩ := kept held
    rw [flagged]
    exact registered held lq rq

theorem Established.lookup (old : Established xs t) {l : IdT} {k : CmFlowKey} (found : Lookup t l k s u)
    (state : (u.flow s).state = .ESTABLISHED) : u.flow s = t.flow s ∧ u.localMap = t.localMap := by
  cases found with
  | byLocal => exact ⟨rfl, rfl⟩
  | byRemote => exact ⟨rfl, rfl⟩
  | created => rw [Tracker.flow_newFlow, if_pos rfl] at state; cases state
  | bound _ _ _ unbound =>
    -- an established flow was found by its local id
    rw [Tracker.flow_bindLocal, if_pos rfl] at state
    obtain ⟨_, _, _, _, _, by_rtu, _⟩ := old s state
    exact absurd unbound by_rtu.localId

/-- The RTU that establishes the flow. -/
theorem Established.now (ran : run Tracker.feed Tracker.init xs = .ok t) (read : Reads x e)
    (held : t.localMap.find e.localId = some s) (act : action e.op (t.flow s).state = .establish)
    (after : t' = (t.modify s fun f => Action.establish.update 0#32 f).onEstablished s) :
    Establishes xs x t s (t'.flow s) ∧
      ((t'.flow s).localQpn ≠ 0#32 → (t'.flow s).remoteQpn ≠ 0#32 →
        ((t'.flow s).inQpnMap = true ↔ t.qpnMap.find (t'.flow s).getFlowKey = none)) := by
  have tracked : Tracked t := ⟨xs, ran⟩
  have own := (tracked.indexed.local_own held).2
  have free : (t.flow s).inQpnMap = false := by
    apply tracked.qpnOwned.not_flagged
    rcases action_establish act with ⟨_, st | st⟩ | ⟨_, st | st⟩ <;> rw [st] <;> simp [FlowSt.Late]
  have rtu : (HostRtu (t.flow s).localId x ∧ (t.flow s).state = .REP_RCVD) ∨
      (NetRtu (t.flow s).localId x ∧ (t.flow s).state = .REP_SENT) := by
    have fields := read.fields
    have entered := tracked.entered s
    obtain ⟨op, l, k, q⟩ := e
    rw [own]
    rcases action_establish act with ⟨rfl, st | st⟩ | ⟨rfl, st | st⟩ <;> rw [st] at entered
    · cases fields.noRemoteId rfl
      cases fields.noQpn rfl
      exact Or.inl ⟨hostRtu_iff.mpr read, st⟩
    · cases entered
    · cases fields.noRemoteId rfl
      cases fields.noQpn rfl
      exact Or.inr ⟨netRtu_iff.mpr read, st⟩
    · cases entered
  have here : t.localMap.find (t.flow s).localId = some s := own ▸ held
  rcases t.establish_cases s after with ⟨flow_s, _, why⟩ | ⟨flow_s, _, _, _, vacant⟩
  · rw [flow_s]
    refine ⟨⟨ran, here, rtu, rfl⟩, fun lq rq => iff_of_false (by simp [free]) ?_⟩
    rcases why with zero | zero | taken
    · exact absurd zero lq
    · exact absurd zero rq
    · exact taken
  · rw [flow_s]
    exact ⟨⟨ran, here, rtu, rfl⟩, fun _ _ => iff_of_true rfl vacant⟩

theorem Established.step (old : Established xs t) (ran : run Tracker.feed Tracker.init xs = .ok t) (nz : NonZero x)
    (read : Reads x e) (found : Lookup t e.localId e.lookupKey s u) (effect : Effect e s u t') :
    Established (xs ++ [x]) t' := by
  have tracked : Tracked t := ⟨xs, ran⟩
  have idx := tracked.indexed
  intro r state
  by_cases here : r = s
  swap
  · have same : t'.flow r = t.flow r := (effect.flow_of_ne here).trans (found.flow_of_ne here)
    rw [same] at state ⊢
    exact old.extend x rfl state fun held => ⟨found.held_before here (effect.held_before held), rfl⟩
  subst here
  cases effect with
  | kept =>
    obtain ⟨same, locals⟩ := old.lookup found state
    rw [same] at state ⊢
    exact old.extend x rfl state fun held => ⟨locals ▸ held, rfl⟩
  | established act =>
    have lookup := found
    rw [establish_lookupKey act] at lookup
    obtain ⟨_, ⟨held, unchanged⟩ | ⟨_, rfl, rfl⟩⟩ := lookup.null_cases idx
    · subst u
      obtain ⟨by_rtu, registered⟩ := Established.now ran read held act rfl
      exact ⟨xs, x, [], t, rfl, by_rtu, fun _ => registered⟩
    · rw [Tracker.flow_newFlow, if_pos rfl] at act
      rcases action_establish act with ⟨_, st | st⟩ | ⟨_, st | st⟩ <;> cases st
  | erased act =>
    obtain ⟨flag, same, _⟩ := u.flow_dropFlow_self r e.localId e.remoteId
    rw [same] at state ⊢
    obtain ⟨flow, locals⟩ := old.lookup found state
    rw [flow] at state ⊢
    refine old.extend x rfl state fun held => ?_
    -- the flow has left `local_map`, since the local id is not null
    have op : e.op ≠ .reqReceived := by
      intro op
      rw [op] at act
      cases st : (u.flow r).state <;> rw [st] at act <;> cases act
    have own := found.localId_eq (found.indexed idx) (nz.localId read op)
    rw [flow] at own
    rw [Tracker.localMap_dropFlow, Table.find_erase, if_pos own] at held
    cases held
  | sentReq => rw [Tracker.flow_modify_self] at state; cases state
  | receivedReq => rw [Tracker.flow_modify_self] at state; cases state
  | replied _ rep => rw [Tracker.flow_modify_self] at state; rcases rep with rfl | rfl <;> cases state
  | repliedBound _ rep =>
    rw [Tracker.flow_bindRemote, if_pos rfl, Tracker.flow_modify_self] at state
    rcases rep with rfl | rfl <;> cases state
  | disconnected act =>
    rw [Tracker.flow_modify_self] at state
    rcases action_disconnect act with ⟨_, rfl⟩ | ⟨_, rfl⟩ <;> cases state

end Step

theorem Tracked.established {xs : List Packet} {t : Tracker} (nz : ∀ x ∈ xs, NonZero x)
    (ran : run Tracker.feed Tracker.init xs = .ok t) : Established xs t := by
  refine run_invariant (I := fun pre m => (∀ x ∈ pre, NonZero x) → Established pre m) (fun _ => Established.init) ?_
    ran nz
  intro pre m x m' before inv now nz
  have old := inv fun y member => nz y (List.mem_append_left _ member)
  rcases feed_ok now with ⟨_, rfl⟩ | ⟨e, read, stepped⟩
  · intro s state
    exact old.extend x rfl state fun held => ⟨held, rfl⟩
  · obtain ⟨s, u, found, effect⟩ := (step_iff (Tracked.indexed ⟨pre, before⟩)).mp stepped
    exact old.step before (nz x (by simp)) read found effect

/-- **What an established connection answers.** For an established flow with known QPNs the run
has the RTU that established it. If no entry had its key then, the query for the key answers
with the QPN of the flow ever since; otherwise the flow is not registered, and an answer is
that of another flow. -/
theorem established_query {xs : List Packet} {t : Tracker} (nz : ∀ x ∈ xs, NonZero x)
    (ran : run Tracker.feed Tracker.init xs = .ok t) {l : IdT} {s : Ref} (held : t.localMap.find l = some s)
    (state : (t.flow s).state = .ESTABLISHED) (lq : (t.flow s).localQpn ≠ 0#32) (rq : (t.flow s).remoteQpn ≠ 0#32) :
    ∃ pre x post m, xs = pre ++ x :: post ∧ run Tracker.feed Tracker.init pre = .ok m ∧
      m.localMap.find l = some s ∧
      ((HostRtu l x ∧ (m.flow s).state = .REP_RCVD) ∨ (NetRtu l x ∧ (m.flow s).state = .REP_SENT)) ∧
      (m.flow s).getFlowKey = (t.flow s).getFlowKey ∧ (m.flow s).localQpn = (t.flow s).localQpn ∧
      (m.qpnMap.find (t.flow s).getFlowKey = none →
        ctcmQueryIpv4 t (t.flow s).remoteId.addr (t.flow s).remoteQpn = (t.flow s).localQpn) ∧
      (m.qpnMap.find (t.flow s).getFlowKey ≠ none → (t.flow s).inQpnMap = false ∧
        ∀ q, t.qpnMap.find (t.flow s).getFlowKey = some q → ∃ r, r ≠ s ∧ Owns t r (t.flow s).getFlowKey q) := by
  have tracked : Tracked t := ⟨xs, ran⟩
  have own := (tracked.indexed.local_own held).2
  obtain ⟨pre, x, post, m, split, by_rtu, registered⟩ := Tracked.established nz ran s state
  have flag := registered (own.symm ▸ held) lq rq
  have rtu := by_rtu.rtu
  have there := by_rtu.held
  rw [own] at rtu there
  refine ⟨pre, x, post, m, split, by_rtu.ran, there, rtu, by rw [by_rtu.same]; rfl, by rw [by_rtu.same], ?_, ?_⟩
  · intro vacant
    have entry := (tracked.qpnOwned.registered (flag.mpr vacant)).entry
    unfold FlowState.getFlowKey at entry
    unfold ctcmQueryIpv4 Tracker.getSourceQpn
    rw [entry]
  · intro taken
    have unregistered : (t.flow s).inQpnMap = false := by
      cases raised : (t.flow s).inQpnMap with
      | false => rfl
      | true => exact absurd (flag.mp raised) taken
    refine ⟨unregistered, fun q entry => ?_⟩
    obtain ⟨r, owns⟩ := tracked.qpnOwned.owner entry
    refine ⟨r, ?_, owns⟩
    rintro rfl
    exact absurd owns.flag (by simp [unregistered])

/-- The RTU of an active open, and the answer since. -/
theorem established_query_open : ∃ t s pre x post m,
    run Tracker.feed Tracker.init (activeOpen 0x0200000a#32 1#32 2#32 0x11#32 0x22#32) = .ok t ∧
    activeOpen 0x0200000a#32 1#32 2#32 0x11#32 0x22#32 = pre ++ x :: post ∧
    run Tracker.feed Tracker.init pre = .ok m ∧
    (m.qpnMap.find (t.flow s).getFlowKey = none → ctcmQueryIpv4 t 0x0200000a#32 0x22#32 = 0x11#32) := by
  obtain ⟨t, ran, after⟩ := map_ok (show (run Tracker.feed Tracker.init
      (activeOpen 0x0200000a#32 1#32 2#32 0x11#32 0x22#32)).map (fun t => (t.localMap.find 1#32, t.flow 0)) =
    .ok (some 0, ⟨.ESTABLISHED, 1#32, ⟨0x0200000a#32, 2#32⟩, 0x11#32, 0x22#32, true⟩) by decide +kernel)
  obtain ⟨held, flow⟩ := Prod.mk.inj after
  obtain ⟨pre, x, post, m, split, before, _, _, _, _, answer, _⟩ :=
    established_query (by decide +kernel) ran held (by rw [flow]) (by rw [flow]; decide) (by rw [flow]; decide)
  refine ⟨t, 0, pre, x, post, m, ran, split, before, fun vacant => ?_⟩
  have answered := answer vacant
  rwa [flow] at answered

/-- Two connections with one peer QPN: the second one is established and gets the answer of the first. -/
theorem established_query_shared : ∃ t s,
    (∀ x ∈ activeOpen 0x0200000a#32 1#32 2#32 0x11#32 0x22#32 ++ activeOpen 0x0200000a#32 3#32 4#32 0x33#32 0x22#32,
      NonZero x) ∧
    run Tracker.feed Tracker.init
      (activeOpen 0x0200000a#32 1#32 2#32 0x11#32 0x22#32 ++ activeOpen 0x0200000a#32 3#32 4#32 0x33#32 0x22#32) = .ok t ∧
    t.localMap.find 3#32 = some s ∧ (t.flow s).state = .ESTABLISHED ∧ (t.flow s).localQpn ≠ 0#32 ∧
    (t.flow s).remoteQpn ≠ 0#32 ∧
    ctcmQueryIpv4 t (t.flow s).remoteId.addr (t.flow s).remoteQpn ≠ (t.flow s).localQpn := by
  obtain ⟨t, ran, after⟩ := map_ok (show (run Tracker.feed Tracker.init
      (activeOpen 0x0200000a#32 1#32 2#32 0x11#32 0x22#32 ++ activeOpen 0x0200000a#32 3#32 4#32 0x33#32 0x22#32)).map
      (fun t => (t.localMap.find 3#32, t.flow 1, ctcmQueryIpv4 t 0x0200000a#32 0x22#32)) =
    .ok (some 1, ⟨.ESTABLISHED, 3#32, ⟨0x0200000a#32, 4#32⟩, 0x33#32, 0x22#32, false⟩, 0x11#32) by decide +kernel)
  simp only [Prod.mk.injEq] at after
  obtain ⟨held, flow, answer⟩ := after
  refine ⟨t, 1, by decide +kernel, ran, held, ?_⟩
  rw [flow]
  refine ⟨rfl, by decide, by decide, ?_⟩
  rw [answer]
  decide

end ConntrackCm
