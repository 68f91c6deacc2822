import ConntrackCm.Ownership

/-!
# Where an answer comes from

Every mapping the tracker answers with was negotiated by three packets of the run, and by
three packets of one connection. The invariant is per flow object and per state: `History`
lists the packets that must have been seen for the flow to be in its state with its present
ids and QPNs. Ids may be bound before the message that should carry them arrives (a stray
REP or REJ creates a flow), so the states that follow a REQ also fix which ids are set.
-/

namespace ConntrackCm

open Lib

/-- The packets behind the state and fields of a flow. MRA and TIMEWAIT states do not occur. -/
def History (xs : List Packet) (f : FlowState) : Prop :=
  match f.state with
  | .IDLE | .ESTABLISHED | .DREQ_SENT | .DREQ_RCVD => True
  | .REQ_SENT => f.localId ≠ 0#32 ∧ Occurs [HostReq f.localId f.localQpn] xs
  | .REP_RCVD => f.localId ≠ 0#32 ∧
    Occurs [HostReq f.localId f.localQpn, NetRep f.remoteId.addr f.localId f.remoteId.id f.remoteQpn] xs
  | .REQ_RCVD => f.remoteId.IsSet ∧ Occurs [NetReq f.remoteId.addr f.remoteId.id f.remoteQpn] xs
  | .REP_SENT => f.localId ≠ 0#32 ∧ f.remoteId.IsSet ∧
    Occurs [NetReq f.remoteId.addr f.remoteId.id f.remoteQpn,
      HostRep f.remoteId.addr f.localId f.remoteId.id f.localQpn] xs
  | .MRA_REQ_RCVD | .MRA_REQ_SENT | .MRA_REP_SENT | .MRA_REP_RCVD | .TIMEWAIT => False

/-- A handshake that negotiated `(ip, rq) → lq` under the ids `l` and `r`, by either side. -/
def Negotiated (xs : List Packet) (ip : InAddrT) (l r : IdT) (lq rq : QpnT) : Prop :=
  Occurs [HostReq l lq, NetRep ip l r rq, HostRtu l] xs ∨ Occurs [NetReq ip r rq, HostRep ip l r lq, NetRtu l] xs

theorem Negotiated.mono {xs : List Packet} {ip : InAddrT} {l r : IdT} {lq rq : QpnT} (h : Negotiated xs ip l r lq rq)
    (x : Packet) : Negotiated (xs ++ [x]) ip l r lq rq :=
  h.imp (fun o => o.mono x) (fun o => o.mono x)

theorem History.mono {xs : List Packet} {f : FlowState} (h : History xs f) (x : Packet) : History (xs ++ [x]) f := by
  obtain ⟨st, l, k, lq, rq, flag⟩ := f
  cases st
  case REQ_SENT => exact ⟨h.1, h.2.mono x⟩
  case REP_RCVD => exact ⟨h.1, h.2.mono x⟩
  case REQ_RCVD => exact ⟨h.1, h.2.mono x⟩
  case REP_SENT => exact ⟨h.1, h.2.1, h.2.2.mono x⟩
  all_goals exact h

/-- The history of every flow object, and the handshake behind every registered one. -/
structure Historic (xs : List Packet) (t : Tracker) : Prop where
  flow : ∀ s, History xs (t.flow s)
  registered : ∀ s, (t.flow s).inQpnMap = true →
    Negotiated xs (t.flow s).remoteId.addr (t.flow s).localId (t.flow s).remoteId.id (t.flow s).localQpn
      (t.flow s).remoteQpn

theorem Historic.init : Historic [] Tracker.init := ⟨fun _ => trivial, nofun⟩

theorem Historic.mono {xs : List Packet} {t : Tracker} (h : Historic xs t) (x : Packet) : Historic (xs ++ [x]) t :=
  ⟨fun s => (h.flow s).mono x, fun s flag => (h.registered s flag).mono x⟩

/-- A change of the one flow `s`. -/
theorem Historic.update {xs : List Packet} {t t' : Tracker} (h : Historic xs t) (s : Ref)
    (others : ∀ r, r ≠ s → t'.flow r = t.flow r) (own : History xs (t'.flow s))
    (flagged : (t'.flow s).inQpnMap = true → Negotiated xs (t'.flow s).remoteId.addr (t'.flow s).localId
      (t'.flow s).remoteId.id (t'.flow s).localQpn (t'.flow s).remoteQpn) : Historic xs t' := by
  constructor
  · intro r
    by_cases same : r = s
    · rw [same]; exact own
    · rw [others r same]; exact h.flow r
  · intro r flag
    by_cases same : r = s
    · subst same; exact flagged flag
    · rw [others r same] at flag ⊢
      exact h.registered r flag

/-- A change that leaves the one flow `s` unregistered. -/
theorem Historic.update_early {xs : List Packet} {t t' : Tracker} (h : Historic xs t) (s : Ref)
    (others : ∀ r, r ≠ s → t'.flow r = t.flow r) (own : History xs (t'.flow s))
    (flag : (t'.flow s).inQpnMap = false) : Historic xs t' := by
  refine h.update s others own ?_
  intro raised
  rw [flag] at raised
  cases raised

/-- Lookups create idle flows and enter a local id for flows that only saw a REQ. -/
theorem Historic.lookup {xs : List Packet} {t u : Tracker} {l : IdT} {k : CmFlowKey} {s : Ref} (h : Historic xs t)
    (own : QpnOwned t) (idx : Indexed t) (found : Lookup t l k s u) : Historic xs u := by
  have others : ∀ r, r ≠ s → u.flow r = t.flow r := fun r other => found.flow_of_ne other
  cases found with
  | byLocal => exact h
  | byRemote => exact h
  | created =>
    refine h.update t.flows.next others ?_ ?_
    · rw [Tracker.flow_newFlow, if_pos rfl]
      trivial
    · rw [Tracker.flow_newFlow, if_pos rfl]
      nofun
  | bound id noLocal there unbound =>
    refine h.update s others ?_ ?_
    · rw [Tracker.flow_bindLocal, if_pos rfl]
      have before := h.flow s
      -- the states whose history names the local id have one already
      unfold History at before ⊢
      dsimp only
      split at before <;> simp_all
    · rw [Tracker.flow_bindLocal, if_pos rfl]
      intro flag
      rw [own.not_flagged_unbound idx unbound] at flag
      cases flag

/-- The history of a flow an RTU can establish. -/
theorem Historic.negotiated {xs : List Packet} {t u : Tracker} {x : Packet} {e : Event} {s : Ref} (h : Historic xs u)
    (idx : Indexed u) (read : Reads x e) (found : Lookup t e.localId e.lookupKey s u)
    (act : action e.op (u.flow s).state = .establish) :
    Negotiated (xs ++ [x]) (u.flow s).remoteId.addr (u.flow s).localId (u.flow s).remoteId.id (u.flow s).localQpn
      (u.flow s).remoteQpn := by
  have before := h.flow s
  have fields := read.fields
  have own : e.localId ≠ 0#32 → (u.flow s).localId = e.localId := found.localId_eq idx
  obtain ⟨op, l, k, q⟩ := e
  rcases action_establish act with ⟨rfl, st | st⟩ | ⟨rfl, st | st⟩ <;> simp only [History, st] at before
  · cases fields.noRemoteId rfl
    cases fields.noQpn rfl
    have id : l ≠ 0#32 := found.ids.resolve_right CmFlowKey.not_isSet_null
    exact Or.inl (before.2.snoc (p := HostRtu (u.flow s).localId) (by rw [own id]; exact hostRtu_iff.mpr read))
  · cases fields.noRemoteId rfl
    cases fields.noQpn rfl
    have id : l ≠ 0#32 := found.ids.resolve_right CmFlowKey.not_isSet_null
    exact Or.inr (before.2.2.snoc (p := NetRtu (u.flow s).localId) (by rw [own id]; exact netRtu_iff.mpr read))

section Reply

variable {e : Event} {st : FlowSt} {a : Action}

theorem reply_op (act : action e.op st = a) (rep : a = .sendRep ∨ a = .receiveRep) : e.op ≠ .reqReceived := by
  rcases rep with rfl | rfl
  · rw [(action_sendRep act).1]; simp
  · rw [(action_receiveRep act).1]; simp

theorem reply_remoteField (act : action e.op st = a) (rep : a = .sendRep ∨ a = .receiveRep) :
    e.op.remoteField ≠ none := by
  rcases rep with rfl | rfl
  · rw [(action_sendRep act).1]; nofun
  · rw [(action_receiveRep act).1]; nofun

theorem reply_early (act : action e.op st = a) (rep : a = .sendRep ∨ a = .receiveRep) : ¬ st.Late := by
  rcases rep with rfl | rfl
  · obtain ⟨_, rfl | rfl⟩ := action_sendRep act <;> simp [FlowSt.Late]
  · obtain ⟨_, rfl | rfl⟩ := action_receiveRep act <;> simp [FlowSt.Late]

end Reply

/-- A REP moves a flow that saw its REQ on, under the key the REP names. -/
theorem History.reply {xs : List Packet} {x : Packet} {e : Event} {f : FlowState} {a : Action} {q : QpnT}
    (before : History xs f) (read : Reads x e) (act : action e.op f.state = a) (rep : a = .sendRep ∨ a = .receiveRep)
    (qpn : e.qpn = .ok q) (id : e.localId ≠ 0#32) (localId : f.localId = e.localId)
    (remoteId : a = .sendRep → f.remoteId = e.remoteId) :
    History (xs ++ [x]) (a.update q { f with remoteId := e.remoteId }) := by
  obtain ⟨op, l, k, q'⟩ := e
  cases qpn
  rcases rep with rfl | rfl
  · obtain ⟨rfl, st | st⟩ := action_sendRep act <;> simp only [History, st] at before
    have peer := remoteId rfl
    refine ⟨fun zero => id (localId.symm.trans zero), peer ▸ before.1, (peer ▸ before.2).snoc ?_⟩
    exact hostRep_iff.mpr (localId.symm ▸ read)
  · obtain ⟨rfl, st | st⟩ := action_receiveRep act <;> simp only [History, st] at before
    refine ⟨before.1, before.2.snoc ?_⟩
    exact netRep_iff.mpr (localId.symm ▸ read)

/-- Erasing only lowers a flag. -/
theorem Historic.dropFlow {xs : List Packet} {t : Tracker} (h : Historic xs t) (s : Ref) (l : IdT) (k : CmFlowKey) :
    Historic xs (t.dropFlow s l k) := by
  obtain ⟨flag, after, lowered⟩ := t.flow_dropFlow_self s l k
  refine h.update s (fun r other => Tracker.flow_dropFlow_of_ne other) ?_ ?_ <;> rw [after]
  · exact h.flow s
  · exact fun raised => h.registered s (lowered raised)

/-- The packet that causes an effect is the one the new state asks for. -/
theorem Historic.effect {xs : List Packet} {t u t' : Tracker} {x : Packet} {e : Event} {s : Ref} (h : Historic xs u)
    (idx : Indexed u) (own : QpnOwned u) (nz : NonZero x) (read : Reads x e)
    (found : Lookup t e.localId e.lookupKey s u) (effect : Effect e s u t') : Historic (xs ++ [x]) t' := by
  have before := h.flow s
  have fields := read.fields
  have later := h.mono x
  have others : ∀ r, r ≠ s → t'.flow r = u.flow r := fun r other => effect.flow_of_ne other
  have localId : e.localId ≠ 0#32 → (u.flow s).localId = e.localId := found.localId_eq idx
  -- the flow acted on is not registered, unless it is being torn down
  have free : ¬ (u.flow s).state.Late → (u.flow s).inQpnMap = false := own.not_flagged
  cases effect with
  | kept => exact later
  | @sentReq q act qpn =>
    obtain ⟨op, l, k, q'⟩ := e
    obtain ⟨rfl, st⟩ := action_sendReq act
    cases qpn
    cases fields.noRemoteId rfl
    have id := nz.localId read (by simp)
    have flag := free (by rcases st with st | st <;> rw [st] <;> simp [FlowSt.Late])
    refine later.update_early s others ?_ ?_ <;> rw [Tracker.flow_modify_self]
    · refine ⟨fun zero => id ((localId id).symm.trans zero), (Occurs.nil xs).snoc ?_⟩
      exact hostReq_iff.mpr ((localId id).symm ▸ read)
    · exact flag
  | @receivedReq q act qpn same =>
    obtain ⟨op, l, k, q'⟩ := e
    obtain ⟨rfl, st⟩ := action_receiveReq act
    cases qpn
    cases fields.noLocalId rfl
    obtain ⟨key, there⟩ := found.stored_remote rfl
    have remoteId : (u.flow s).remoteId = k := (idx.remote_own there).2
    have flag := free (by rcases st with st | st <;> rw [st] <;> simp [FlowSt.Late])
    refine later.update_early s others ?_ ?_ <;> rw [Tracker.flow_modify_self]
    · refine ⟨remoteId.symm ▸ key, (Occurs.nil xs).snoc ?_⟩
      exact netReq_iff.mpr (remoteId.symm ▸ read)
    · exact flag
  | @replied q a act rep qpn stored =>
    have key := nz.remoteId read (reply_remoteField act rep)
    have id := nz.localId read (reply_op act rep)
    have remoteId : (u.flow s).remoteId = e.remoteId := (idx.remote_own (stored key)).2
    have flag := free (reply_early act rep)
    refine later.update_early s others ?_ ?_ <;> rw [Tracker.flow_modify_self]
    · have after := before.reply read act rep qpn id (localId id) (fun _ => remoteId)
      rwa [← remoteId] at after
    · rw [update_inQpnMap, flag]
  | @repliedBound q a act rep qpn key noRemote unbound =>
    have id := nz.localId read (reply_op act rep)
    have flag := free (reply_early act rep)
    -- a flow that received a REQ has its peer, so only a received REP binds one
    have active : a = .sendRep → (u.flow s).remoteId = e.remoteId := by
      rintro rfl
      obtain ⟨_, st | st⟩ := action_sendRep act <;> simp only [History, st] at before
      exact absurd before.1 unbound
    have flow_s : (((u.modify s fun f => a.update q f).bindRemote s e.remoteId).flow s) =
        a.update q { u.flow s with remoteId := e.remoteId } := by
      rw [Tracker.flow_bindRemote, if_pos rfl, Tracker.flow_modify_self]
      exact (update_bound _ _ _ _).symm
    refine later.update_early s others ?_ ?_
    · rw [flow_s]
      exact before.reply read act rep qpn id (localId id) active
    · rw [flow_s, update_inQpnMap]
      exact flag
  | established act =>
    obtain ⟨flag, after⟩ := u.flow_establish s
    refine later.update s others ?_ ?_ <;> rw [after]
    · trivial
    · exact fun _ => h.negotiated idx read found act
  | disconnected act =>
    refine later.update s others ?_ ?_ <;> rw [Tracker.flow_modify_self]
    · rcases action_disconnect act with ⟨_, rfl⟩ | ⟨_, rfl⟩ <;> trivial
    · exact later.registered s
  | erased => exact later.dropFlow s _ _

theorem Tracked.historic {xs : List Packet} {t : Tracker} (nz : ∀ x ∈ xs, NonZero x)
    (ran : run Tracker.feed Tracker.init xs = .ok t) : Historic xs t := by
  -- the invariant is carried along prefixes of `xs`, whose packets are non-zero as well
  refine run_invariant (I := fun pre m => (∀ x ∈ pre, NonZero x) → Historic pre m) (fun _ => Historic.init) ?_ ran nz
  intro pre m x m' before inv now nz
  have tracked : Tracked m := ⟨pre, before⟩
  have old := inv fun y member => nz y (List.mem_append_left _ member)
  rcases feed_ok now with ⟨_, rfl⟩ | ⟨e, read, stepped⟩
  · exact old.mono x
  · obtain ⟨s, u, found, effect⟩ := (step_iff tracked.indexed).mp stepped
    exact (old.lookup tracked.qpnOwned tracked.indexed found).effect (found.indexed tracked.indexed)
      (tracked.qpnOwned.lookup tracked.indexed found) (nz x (by simp)) read found effect

/-- **Answers are negotiated.** When the tracker answers a query with a QPN, the run contains
the handshake of one connection, active or passive, that negotiated exactly this answer. -/
theorem query_sound {xs : List Packet} {t : Tracker} (nz : ∀ x ∈ xs, NonZero x)
    (ran : run Tracker.feed Tracker.init xs = .ok t) {ip : InAddrT} {rq lq : QpnT}
    (answer : t.getSourceQpn (ip, rq) = lq) (known : lq ≠ 0#32) :
    ∃ l r, Occurs [HostReq l lq, NetRep ip l r rq, HostRtu l] xs ∨
      Occurs [NetReq ip r rq, HostRep ip l r lq, NetRtu l] xs := by
  have own := Tracked.qpnOwned ⟨xs, ran⟩
  have entry : t.qpnMap.find (ip, rq) = some lq := by
    unfold Tracker.getSourceQpn at answer
    cases found : t.qpnMap.find (ip, rq) with
    | none => rw [found] at answer; exact absurd answer.symm known
    | some q => rw [found] at answer; rw [← answer]
  obtain ⟨s, owns⟩ := own.owner entry
  have handshake := (Tracked.historic nz ran).registered s owns.flag
  obtain ⟨addr, remoteQpn⟩ := Prod.mk.inj owns.key
  rw [addr, remoteQpn, owns.qpn] at handshake
  exact ⟨_, _, handshake⟩

/-- The handshake behind the answer for an active open to `10.0.0.2`. -/
theorem query_sound_open : ∃ t l r,
    run Tracker.feed Tracker.init (activeOpen 0x0200000a#32 1#32 2#32 0x11#32 0x22#32) = .ok t ∧
    t.getSourceQpn (0x0200000a#32, 0x22#32) = 0x11#32 ∧
    (Occurs [HostReq l 0x11#32, NetRep 0x0200000a#32 l r 0x22#32, HostRtu l]
        (activeOpen 0x0200000a#32 1#32 2#32 0x11#32 0x22#32) ∨
      Occurs [NetReq 0x0200000a#32 r 0x22#32, HostRep 0x0200000a#32 l r 0x11#32, NetRtu l]
        (activeOpen 0x0200000a#32 1#32 2#32 0x11#32 0x22#32)) := by
  obtain ⟨t, ran, answer⟩ := map_ok (show (run Tracker.feed Tracker.init
      (activeOpen 0x0200000a#32 1#32 2#32 0x11#32 0x22#32)).map (·.getSourceQpn (0x0200000a#32, 0x22#32)) =
    .ok 0x11#32 by decide +kernel)
  obtain ⟨l, r, handshake⟩ := query_sound (by decide +kernel) ran answer (by decide)
  exact ⟨t, l, r, ran, answer, handshake⟩

end ConntrackCm
