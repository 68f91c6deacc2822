import ConntrackCm.Step

/-!
# A flow only moves forward

Handlers rewrite the state of a flow, bind its ids and set its QPNs, also on flows that one of
the indexes no longer holds. `Advances` compares one flow object at two points of a run: the
state does not fall back, ids once assigned stay, the QPNs stay from the REP on, and the side
that opened the connection stays that side. Every lookup and every effect advances the flow it
touches (`Lookup.advances`, `Effect.advances`), and runs follow since `Advances` is transitive.
-/

namespace ConntrackCm

open Lib

/-- How far a connection got. The states that are never entered have no place here. -/
def FlowSt.rank : FlowSt → Nat
  | .REQ_SENT | .REQ_RCVD => 1
  | .REP_SENT | .REP_RCVD => 2
  | .ESTABLISHED => 3
  | .DREQ_SENT | .DREQ_RCVD => 4
  | _ => 0

/-- The states of an opening handshake on the side that sent the REQ. -/
def FlowSt.Active (st : FlowSt) : Prop := st = .REQ_SENT ∨ st = .REP_RCVD

/-- The states of an opening handshake on the side that received it. -/
def FlowSt.Passive (st : FlowSt) : Prop := st = .REQ_RCVD ∨ st = .REP_SENT

/-- What the fields of a flow at one time say about them at any later time. -/
structure Advances (f f' : FlowState) : Prop where
  rank : f.state.rank ≤ f'.state.rank
  localId : f.localId ≠ 0#32 → f'.localId = f.localId
  remoteId : f.remoteId.IsSet → f'.remoteId = f.remoteId
  localQpn : 2 ≤ f.state.rank → f'.localQpn = f.localQpn
  remoteQpn : 2 ≤ f.state.rank → f'.remoteQpn = f.remoteQpn
  active : f.state.Active → ¬ f'.state.Passive
  passive : f.state.Passive → ¬ f'.state.Active

/-- Past the handshake the sides do not matter any more. -/
theorem FlowSt.sides_of_rank {st : FlowSt} (established : 3 ≤ st.rank) : ¬ st.Active ∧ ¬ st.Passive := by
  constructor
  · rintro (rfl | rfl) <;> exact absurd established (by decide)
  · rintro (rfl | rfl) <;> exact absurd established (by decide)

theorem FlowSt.side_cases {st : FlowSt} (opened : 1 ≤ st.rank) : st.Active ∨ st.Passive ∨ 3 ≤ st.rank := by
  cases st <;> simp [FlowSt.rank, FlowSt.Active, FlowSt.Passive] at opened ⊢

theorem FlowSt.Active.opened {st : FlowSt} (h : st.Active) : 1 ≤ st.rank := by
  rcases h with rfl | rfl <;> decide

theorem FlowSt.Passive.opened {st : FlowSt} (h : st.Passive) : 1 ≤ st.rank := by
  rcases h with rfl | rfl <;> decide

theorem FlowSt.Active.not_passive {st : FlowSt} (h : st.Active) : ¬ st.Passive := by
  rcases h with rfl | rfl <;> rintro (other | other) <;> cases other

theorem Advances.refl (f : FlowState) : Advances f f :=
  ⟨Nat.le_refl _, fun _ => rfl, fun _ => rfl, fun _ => rfl, fun _ => rfl, FlowSt.Active.not_passive,
    fun passive active => active.not_passive passive⟩

theorem Advances.trans {f g h : FlowState} (first : Advances f g) (second : Advances g h) : Advances f h := by
  refine ⟨Nat.le_trans first.rank second.rank, ?_, ?_, ?_, ?_, ?_, ?_⟩
  · intro set
    have kept := first.localId set
    exact (second.localId (kept ▸ set)).trans kept
  · intro set
    have kept := first.remoteId set
    exact (second.remoteId (kept ▸ set)).trans kept
  · intro replied
    exact (second.localQpn (Nat.le_trans replied first.rank)).trans (first.localQpn replied)
  · intro replied
    exact (second.remoteQpn (Nat.le_trans replied first.rank)).trans (first.remoteQpn replied)
  · intro active
    -- in between, the flow is still on its side or past the handshake
    rcases FlowSt.side_cases (Nat.le_trans active.opened first.rank) with still | other | past
    · exact second.active still
    · exact absurd other (first.active active)
    · exact (FlowSt.sides_of_rank (Nat.le_trans past second.rank)).2
  · intro passive
    rcases FlowSt.side_cases (Nat.le_trans passive.opened first.rank) with other | still | past
    · exact absurd other (first.passive passive)
    · exact second.passive still
    · exact (FlowSt.sides_of_rank (Nat.le_trans past second.rank)).1

/-! ## One step -/

/-- Setting the state and the QPNs advances the flow when the table has the state move
forward on its side. -/
theorem Advances.of_state {f f' : FlowState} (ids : f'.localId = f.localId ∧ f'.remoteId = f.remoteId)
    (rank : f.state.rank ≤ f'.state.rank)
    (qpns : 2 ≤ f.state.rank → f'.localQpn = f.localQpn ∧ f'.remoteQpn = f.remoteQpn)
    (active : f.state.Active → ¬ f'.state.Passive) (passive : f.state.Passive → ¬ f'.state.Active) : Advances f f' :=
  ⟨rank, fun _ => ids.1, fun _ => ids.2, fun replied => (qpns replied).1, fun replied => (qpns replied).2, active,
    passive⟩

/-- Past the handshake only the state moves. -/
theorem Advances.of_established {f f' : FlowState} (ids : f'.localId = f.localId ∧ f'.remoteId = f.remoteId)
    (rank : f.state.rank ≤ f'.state.rank) (past : 3 ≤ f'.state.rank)
    (qpns : f'.localQpn = f.localQpn ∧ f'.remoteQpn = f.remoteQpn) : Advances f f' :=
  .of_state ids rank (fun _ => qpns) (fun _ => (FlowSt.sides_of_rank past).2) fun _ => (FlowSt.sides_of_rank past).1

theorem Advances.bindRemote {f : FlowState} {k : CmFlowKey} (unbound : ¬ f.remoteId.IsSet) :
    Advances f { f with remoteId := k } :=
  { Advances.refl f with remoteId := fun set => absurd set unbound }

theorem Advances.setFlag {f : FlowState} {flag : Bool} : Advances f { f with inQpnMap := flag } :=
  { Advances.refl f with }

theorem Lookup.advances {t u : Tracker} {l : IdT} {k : CmFlowKey} {s : Ref} (found : Lookup t l k s u) {r : Ref}
    (alive : r < t.flows.next) : Advances (t.flow r) (u.flow r) := by
  cases found with
  | byLocal => exact .refl _
  | byRemote => exact .refl _
  | created =>
    rw [Tracker.flow_newFlow, if_neg (Nat.ne_of_lt alive)]
    exact .refl _
  | bound _ _ _ unbound =>
    rw [Tracker.flow_bindLocal]
    split_ifs with here
    · rw [here]
      exact { Advances.refl (t.flow _) with localId := fun set => absurd unbound set }
    · exact .refl _

/-- The REP of either side moves the flow on from its REQ. -/
theorem Advances.reply {f : FlowState} {op : CmOp} {a : Action} {q : QpnT} (act : action op f.state = a)
    (rep : a = .sendRep ∨ a = .receiveRep) (entered : f.state.Entered) : Advances f (a.update q f) := by
  rcases rep with rfl | rfl
  · rcases (action_sendRep act).2 with st | st
    · refine .of_state ⟨rfl, rfl⟩ ?_ ?_ ?_ ?_ <;> rw [st]
      · exact (by decide : 1 ≤ 2)
      · exact fun replied => absurd replied (by decide)
      · exact fun active => absurd (Or.inl rfl) active.not_passive
      · rintro - (other | other) <;> cases other
    · rw [st] at entered
      exact entered.elim
  · rcases (action_receiveRep act).2 with st | st
    · refine .of_state ⟨rfl, rfl⟩ ?_ ?_ ?_ ?_ <;> rw [st]
      · exact (by decide : 1 ≤ 2)
      · exact fun replied => absurd replied (by decide)
      · rintro - (other | other) <;> cases other
      · exact fun passive => absurd passive (FlowSt.Active.not_passive (Or.inl rfl))
    · rw [st] at entered
      exact entered.elim

theorem Advances.sendReq {f : FlowState} {op : CmOp} {q : QpnT} (act : action op f.state = .sendReq) :
    Advances f (Action.sendReq.update q f) := by
  refine .of_state ⟨rfl, rfl⟩ ?_ ?_ ?_ ?_
  · rcases (action_sendReq act).2 with st | st <;> rw [st] <;> simp [Action.update, FlowSt.rank]
  · rcases (action_sendReq act).2 with st | st <;> rw [st] <;> exact fun replied => absurd replied (by decide)
  · rintro - (other | other) <;> cases other
  · rcases (action_sendReq act).2 with st | st <;> rw [st] <;> rintro (other | other) <;> cases other

theorem Advances.receiveReq {f : FlowState} {op : CmOp} {q : QpnT} (act : action op f.state = .receiveReq) :
    Advances f (Action.receiveReq.update q f) := by
  refine .of_state ⟨rfl, rfl⟩ ?_ ?_ ?_ ?_
  · rcases (action_receiveReq act).2 with st | st <;> rw [st] <;> simp [Action.update, FlowSt.rank]
  · rcases (action_receiveReq act).2 with st | st <;> rw [st] <;> exact fun replied => absurd replied (by decide)
  · rcases (action_receiveReq act).2 with st | st <;> rw [st] <;> rintro (other | other) <;> cases other
  · rintro - (other | other) <;> cases other

theorem action_disconnect_rank {op : CmOp} {st next : FlowSt} (act : action op st = .disconnect next) :
    st.rank ≤ 4 ∧ next.rank = 4 := by
  constructor
  · cases st <;> decide
  · rcases action_disconnect act with ⟨_, rfl⟩ | ⟨_, rfl⟩ <;> rfl

theorem action_establish_rank {op : CmOp} {st : FlowSt} (act : action op st = .establish) : st.rank ≤ 3 := by
  rcases action_establish act with ⟨_, rfl | rfl⟩ | ⟨_, rfl | rfl⟩ <;> decide

theorem Effect.advances {e : Event} {s : Ref} {t t' : Tracker} (effect : Effect e s t t')
    (entered : (t.flow s).state.Entered) : Advances (t.flow s) (t'.flow s) := by
  cases effect with
  | kept => exact .refl _
  | sentReq act => rw [Tracker.flow_modify_self]; exact .sendReq act
  | receivedReq act => rw [Tracker.flow_modify_self]; exact .receiveReq act
  | replied act rep => rw [Tracker.flow_modify_self]; exact .reply act rep entered
  | @repliedBound q a act rep qpn key noRemote unbound =>
    rw [Tracker.flow_bindRemote, if_pos rfl, Tracker.flow_modify_self]
    refine (Advances.reply (q := q) act rep entered).trans (.bindRemote ?_)
    rw [update_remoteId]
    exact unbound
  | established act =>
    obtain ⟨flag, after⟩ := t.flow_establish s
    rw [after]
    exact .of_established ⟨rfl, rfl⟩ (action_establish_rank act) (Nat.le_refl 3) ⟨rfl, rfl⟩
  | @disconnected next act =>
    obtain ⟨before, after⟩ := action_disconnect_rank act
    rw [Tracker.flow_modify_self]
    refine .of_established ⟨rfl, rfl⟩ ?_ ?_ ⟨rfl, rfl⟩
    · exact Nat.le_trans before (Nat.le_of_eq after.symm)
    · exact Nat.le_trans (by decide : 3 ≤ 4) (Nat.le_of_eq after.symm)
  | erased =>
    obtain ⟨flag, after, _⟩ := t.flow_dropFlow_self s e.localId e.remoteId
    rw [after]
    exact .setFlag

/-- A packet advances every flow there is, in the indexes or not. -/
theorem Tracked.advances {t t' : Tracker} {x : Packet} (tracked : Tracked t) (now : t.feed x = .ok t') :
    t.flows.next ≤ t'.flows.next ∧ ∀ r, r < t.flows.next → Advances (t.flow r) (t'.flow r) := by
  rcases feed_ok now with ⟨_, rfl⟩ | ⟨e, _, stepped⟩
  · exact ⟨Nat.le_refl _, fun r _ => .refl _⟩
  · obtain ⟨s, u, found, effect⟩ := (step_iff tracked.indexed).mp stepped
    refine ⟨Nat.le_trans found.next_le (Nat.le_of_eq effect.next_eq.symm), fun r alive => (found.advances alive).trans ?_⟩
    by_cases here : r = s
    · rw [here]
      exact effect.advances (found.entered tracked.entered)
    · rw [effect.flow_of_ne here]
      exact .refl _

/-! ## Runs -/

/-- **A flow only moves forward, and its identity freezes.** From any reachable state and over
any packets that fail no assertion, every flow object advances; and no flow is ever in one of
the states that only the MRA messages and the time wait would lead to. -/
theorem flows_advance {t t' : Tracker} {xs : List Packet} (tracked : Tracked t)
    (ran : run Tracker.feed t xs = .ok t') :
    (∀ r, r < t.flows.next → r < t'.flows.next ∧ Advances (t.flow r) (t'.flow r)) ∧
    ∀ r, (t'.flow r).state.Entered := by
  refine ⟨?_, (tracked.append ran).entered⟩
  refine run_invariant (I := fun _ m => ∀ r, r < t.flows.next → r < m.flows.next ∧ Advances (t.flow r) (m.flow r))
    ?_ ?_ ran
  · intro r alive
    exact ⟨alive, .refl _⟩
  · intro pre m x m' before sofar now r alive
    obtain ⟨more, advances⟩ := (tracked.append before).advances now
    obtain ⟨still, first⟩ := sofar r alive
    exact ⟨Nat.lt_of_lt_of_le still more, first.trans (advances r still)⟩

/-- The flow of a REQ, followed through the rest of its active open. -/
theorem flows_advance_open :
    ∃ t t' : Tracker, Tracked t ∧ (t.flow 0).state = .REQ_SENT ∧ (t'.flow 0).state = .ESTABLISHED ∧
      Advances (t.flow 0) (t'.flow 0) := by
  obtain ⟨t, opened, sent⟩ := map_ok (show (run Tracker.feed Tracker.init
    [fromHost cmReqAttrId 0x0200000a#32 1#32 0#32 0x11#32]).map (fun t => ((t.flow 0).state, t.flows.next)) =
      .ok (.REQ_SENT, 1) by decide +kernel)
  obtain ⟨t', whole, established⟩ := map_ok (show (run Tracker.feed Tracker.init
    ([fromHost cmReqAttrId 0x0200000a#32 1#32 0#32 0x11#32] ++
      [fromNet cmRepAttrId 0x0200000a#32 1#32 2#32 0x22#32, fromHost cmRtuAttrId 0x0200000a#32 1#32 2#32 0#32])).map
      (fun t => (t.flow 0).state) = .ok .ESTABLISHED by decide +kernel)
  rw [run_append, bind_of_ok opened] at whole
  obtain ⟨state, next⟩ := Prod.mk.inj sent
  have alive : 0 < t.flows.next := by rw [next]; decide
  exact ⟨t, t', ⟨_, opened⟩, state, established, ((flows_advance ⟨_, opened⟩ whole).1 0 alive).2⟩

end ConntrackCm
