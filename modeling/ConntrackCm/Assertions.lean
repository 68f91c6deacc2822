import ConntrackCm.Step

/-!
# When an assertion fails

`add_new_flow` and `req_received` assert that the ids and the QPN of a message fit what the
tables know. They come from packets, and nothing makes them fit: `Clash` lists the three ways
in which they do not. These are the only assertions that whole packets with non-null ids can
fail, and each clash does fail one.
-/

namespace ConntrackCm

open Lib

/-- A packet that meets tables it does not fit. -/
inductive Clash (t : Tracker) (e : Event) : Prop where
  /-- A new local id for a peer known under another one: a local id is bound once. -/
  | localId {s : Ref} (id : e.localId ≠ 0#32) (noLocal : t.localMap.find e.localId = none)
      (there : t.remoteMap.find e.lookupKey = some s) (taken : (t.flow s).localId ≠ 0#32)
  /-- A REP that moves a flow on, from a peer of another flow or from another peer. -/
  | peer {s : Ref} (here : t.localMap.find e.localId = some s)
      (act : action e.op (t.flow s).state = .sendRep ∨ action e.op (t.flow s).state = .receiveRep)
      (clash : ReplyClash t s e.remoteId)
  /-- A repeated REQ with another QPN. -/
  | qpn {s : Ref} {q : QpnT} (op : e.op = .reqReceived) (there : t.remoteMap.find e.remoteId = some s)
      (repeated : (t.flow s).state = .REQ_RCVD) (qpn : e.qpn = .ok q) (other : (t.flow s).remoteQpn ≠ q)

/-- The packet holds every field its handler reads. -/
structure Whole (x : Packet) : Prop where
  read : ∃ o, readEvent x.1 x.2 = .ok o
  qpn : ∀ e, Reads x e → ∃ q, e.qpn = .ok q

/-- `Whole` as a test. -/
def whole (x : Packet) : Bool :=
  match readEvent x.1 x.2 with
  | .error _ => false
  | .ok none => true
  | .ok (some e) => e.qpn.isOk

theorem whole_iff {x : Packet} : whole x = true ↔ Whole x := by
  unfold whole
  constructor
  · intro passed
    refine ⟨?_, fun e read => ?_⟩
    · cases read : readEvent x.1 x.2 with
      | error f => rw [read] at passed; cases passed
      | ok o => exact ⟨o, rfl⟩
    · rw [Reads] at read
      rw [read] at passed
      dsimp only at passed
      cases qpn : e.qpn with
      | error f => rw [qpn] at passed; cases passed
      | ok q => exact ⟨q, rfl⟩
  · intro h
    obtain ⟨o, read⟩ := h.read
    rw [read]
    cases o with
    | none => rfl
    | some e =>
      obtain ⟨q, qpn⟩ := h.qpn e read
      dsimp only
      rw [qpn]
      rfl

instance (x : Packet) : Decidable (Whole x) := decidable_of_iff _ whole_iff

/-- The assertions that ask for what the tables always keep: ids that `get_flow` has tested, a
flow stored under its own ids, a flow that was picked. -/
def Assertion.Implied : Assertion → Prop
  | .eraseFlowIds | .addNewFlowOwnIds | .addNewFlowIds | .addNewFlowState => True
  | _ => False

section Step

variable {t t' u : Tracker} {e : Event} {s : Ref}

/-- A REQ is only taken with the QPN known from its first copy. -/
theorem Effect.sameQpn (effect : Effect e s t t') (act : action e.op (t.flow s).state = .receiveReq) :
    ∃ q, e.qpn = .ok q ∧ ((t.flow s).state = .REQ_RCVD → (t.flow s).remoteQpn = q) := by
  cases effect with
  | receivedReq _ qpn same => exact ⟨_, qpn, same⟩
  | kept keep => rcases keep with keep | keep <;> rw [keep] at act <;> cases act
  | replied other rep => rw [other] at act; rcases rep with rfl | rfl <;> cases act
  | repliedBound other rep => rw [other] at act; rcases rep with rfl | rfl <;> cases act
  | sentReq other => rw [other] at act; cases act
  | established other => rw [other] at act; cases act
  | disconnected other => rw [other] at act; cases act
  | erased other => rw [other] at act; cases act

/-- A REP is only taken from the peer of the flow, or from a new one. -/
theorem Effect.samePeer (effect : Effect e s t t')
    (act : action e.op (t.flow s).state = .sendRep ∨ action e.op (t.flow s).state = .receiveRep) :
    ¬ ReplyClash t s e.remoteId := by
  rintro ⟨key, clash⟩
  cases effect with
  | replied _ _ _ stored =>
    rcases clash with ⟨r, other, held⟩ | ⟨absent, _⟩
    · exact other (Option.some.inj (held.symm.trans (stored key)))
    · rw [stored key] at absent; cases absent
  | repliedBound _ _ _ _ noRemote unbound =>
    rcases clash with ⟨r, _, held⟩ | ⟨_, taken⟩
    · rw [noRemote] at held; cases held
    · exact unbound taken
  | kept keep => rcases keep with keep | keep <;> rw [keep] at act <;> simp at act
  | sentReq other => rw [other] at act; simp at act
  | receivedReq other => rw [other] at act; simp at act
  | established other => rw [other] at act; simp at act
  | disconnected other => rw [other] at act; simp at act
  | erased other => rw [other] at act; simp at act

/-- No step gets past a clash. -/
theorem Clash.fails (clash : Clash t e) (idx : Indexed t) (noLocalId : e.op = .reqReceived → e.localId = 0#32) :
    t.step e ≠ .ok t' := by
  intro stepped
  obtain ⟨s, u, found, effect⟩ := (step_iff idx).mp stepped
  cases clash with
  | @localId r id noLocal there taken =>
    cases found with
    | byLocal _ held => rw [noLocal] at held; cases held
    | byRemote zero => exact id zero
    | created _ _ noRemote => rw [noRemote] at there; cases there
    | bound _ _ held unbound =>
      cases held.symm.trans there
      exact taken unbound
  | @peer r here act clash =>
    have held := Lookup.byLocal (k := e.lookupKey) (idx.local_own here).1 here
    cases found.getFlow.symm.trans held.getFlow
    exact effect.samePeer act clash
  | @qpn r q op there repeated qpn other =>
    have held := Lookup.byRemote (noLocalId op) (idx.remote_own there).1 there
    have key : e.lookupKey = e.remoteId := by rw [Event.lookupKey, op]
    rw [← key] at held
    cases found.getFlow.symm.trans held.getFlow
    obtain ⟨q', qpn', same⟩ := effect.sameQpn (by rw [op, repeated]; rfl)
    cases qpn.symm.trans qpn'
    exact other (same repeated)

/-- An action fails an assertion only in a clash. -/
theorem Failure.clashes {f : Fault} (failure : Failure e s u f) (found : Lookup t e.localId e.lookupKey s u)
    (idx : Indexed t) (noLocalId : e.op = .reqReceived → e.localId = 0#32) {q : QpnT} (read : e.qpn = .ok q) :
    Clash t e ∧ ∃ a, f = .assertion a ∧ ¬ a.Implied := by
  cases failure with
  | read failed => rw [read] at failed; cases failed
  | @qpn q' act repeated qpn other =>
    have op := (action_receiveReq act).1
    have key : e.lookupKey = e.remoteId := by rw [Event.lookupKey, op]
    refine ⟨?_, _, rfl, not_false⟩
    cases found with
    | byLocal id => exact absurd (noLocalId op) id
    | byRemote _ _ held => exact .qpn op (key ▸ held) repeated qpn other
    | created =>
      rw [Tracker.flow_newFlow, if_pos rfl] at repeated
      cases repeated
    | bound id => exact absurd (noLocalId op) id
  | @clash a act clash which =>
    refine ⟨?_, _, rfl, by rcases which with rfl | rfl <;> exact not_false⟩
    -- a flow found under the very key of the REP does not clash with it
    have stored : u.remoteMap.find e.remoteId ≠ some s := by
      intro held
      rcases clash with ⟨_, ⟨r, other, held'⟩ | ⟨absent, _⟩⟩
      · exact other (Option.some.inj (held'.symm.trans held))
      · rw [held] at absent
        cases absent
    cases found with
    | byLocal _ held => exact .peer held act clash
    | byRemote zero key held => exact absurd (Lookup.byRemote zero key held).stored_key (fun own => stored (own zero).2)
    | created =>
      -- a flow just created is idle, and takes no REP
      rw [Tracker.flow_newFlow, if_pos rfl] at act
      rcases act with act | act
      · rcases (action_sendRep act).2 with st | st <;> cases st
      · rcases (action_receiveRep act).2 with st | st <;> cases st
    | bound _ _ held =>
      rcases e.lookupKey_eq with own | null
      · exact absurd (own ▸ held) stored
      · rw [null] at held
        exact absurd (idx.remote_own held).1 CmFlowKey.not_isSet_null

/-- A step succeeds, or fails an assertion for want of an id or in a clash. -/
theorem step_total (idx : Indexed t) (noLocalId : e.op = .reqReceived → e.localId = 0#32)
    {q : QpnT} (read : e.qpn = .ok q) :
    (∃ t', t.step e = .ok t' ∧ (e.localId ≠ 0#32 ∨ e.lookupKey.IsSet) ∧ ¬ Clash t e) ∨
      (∃ a, t.step e = .error (.assertion a) ∧ ¬ a.Implied ∧
        (¬ (e.localId ≠ 0#32 ∨ e.lookupKey.IsSet) ∨ Clash t e)) := by
  rcases getFlow_total idx e.localId e.lookupKey with
    ⟨s, u, found⟩ | ⟨unset, failed⟩ | ⟨s, id', noLocal, there, taken, failed⟩
  · rcases perform_total found (found.indexed idx) with ⟨t', effect⟩ | ⟨f, failure, failed⟩
    · have stepped := (step_iff idx).mpr ⟨s, u, found, effect⟩
      exact Or.inl ⟨t', stepped, found.ids, fun clash => clash.fails idx noLocalId stepped⟩
    · obtain ⟨clash, a, rfl, which⟩ := failure.clashes found idx noLocalId read
      refine Or.inr ⟨a, ?_, which, Or.inr clash⟩
      rw [Tracker.step, bind_of_ok found.getFlow]
      exact failed
  · refine Or.inr ⟨.getFlowIds, ?_, not_false, Or.inl unset⟩
    rw [Tracker.step, bind_of_error failed]
  · refine Or.inr ⟨.addNewFlowLocalId, ?_, not_false, Or.inr (.localId id' noLocal there taken)⟩
    rw [Tracker.step, bind_of_error failed]

end Step

/-! ## Runs -/

/-- The packet does not fit the tables. -/
def Clashes (t : Tracker) (x : Packet) : Prop := ∃ e, Reads x e ∧ Clash t e

theorem feed_total {t : Tracker} {x : Packet} (idx : Indexed t) (whole : Whole x) (nz : NonZero x) :
    (∃ t', t.feed x = .ok t' ∧ Indexed t' ∧ ¬ Clashes t x) ∨
      (∃ f, t.feed x = .error f ∧ (∃ a, f = .assertion a) ∧ ¬ ¬ Clashes t x) := by
  obtain ⟨o, read⟩ := whole.read
  cases o with
  | none =>
    refine Or.inl ⟨t, feed_of_none read, idx, ?_⟩
    rintro ⟨e, reads, _⟩
    rw [Reads, read] at reads
    cases reads
  | some e =>
    have unique : Clashes t x → Clash t e := by
      rintro ⟨e', reads, clash⟩
      cases Except.ok.inj (read.symm.trans reads)
      exact clash
    obtain ⟨q, qpn⟩ := whole.qpn e read
    have id : e.op ≠ .reqReceived → e.localId ≠ 0#32 := nz.localId read
    have noLocalId : e.op = .reqReceived → e.localId = 0#32 := by
      intro op
      exact (Reads.fields read).noLocalId (by rw [op]; rfl)
    have ids : e.localId ≠ 0#32 ∨ e.lookupKey.IsSet := by
      by_cases op : e.op = .reqReceived
      · refine Or.inr ?_
        rw [Event.lookupKey, op]
        exact nz.remoteId read (by rw [op]; exact Option.some_ne_none _)
      · exact Or.inl (id op)
    rw [feed_of_event read]
    rcases step_total idx noLocalId qpn with ⟨t', stepped, _, fits⟩ | ⟨a, failed, _, why⟩
    · exact Or.inl ⟨t', stepped, idx.step stepped, fun clashes => fits (unique clashes)⟩
    · have clash : Clash t e := why.resolve_left (not_not_intro ids)
      exact Or.inr ⟨_, failed, ⟨a, rfl⟩, not_not_intro ⟨e, read, clash⟩⟩

/-- **Which runs fail an assertion.** A run of whole packets with non-null addresses and ids
fails no assertion, and then reaches its end, exactly when no packet of it clashes with the
tables it meets. -/
theorem assertions_hold_iff {xs : List Packet} (whole : ∀ x ∈ xs, Whole x) (nz : ∀ x ∈ xs, NonZero x) :
    ((∀ a, run Tracker.feed Tracker.init xs ≠ .error (.assertion a)) ↔
      Along Tracker.feed (fun m x => ¬ Clashes m x) Tracker.init xs) ∧
    ((∃ t, run Tracker.feed Tracker.init xs = .ok t) ↔
      Along Tracker.feed (fun m x => ¬ Clashes m x) Tracker.init xs) := by
  have step : ∀ m, ∀ x ∈ xs, Indexed m →
      (∃ m', m.feed x = .ok m' ∧ Indexed m' ∧ ¬ Clashes m x) ∨
        (∃ f, m.feed x = .error f ∧ (∃ a, f = Fault.assertion a) ∧ ¬ ¬ Clashes m x) :=
    fun m x member idx => feed_total idx (whole x member) (nz x member)
  rcases run_total step Indexed.init with ⟨t, ran, along⟩ | ⟨f, failed, ⟨a, rfl⟩, broken⟩
  · refine ⟨iff_of_true (fun a failed => ?_) along, iff_of_true ⟨t, ran⟩ along⟩
    rw [ran] at failed
    cases failed
  · refine ⟨iff_of_false (fun holds => holds a failed) broken, iff_of_false ?_ broken⟩
    rintro ⟨t, ran⟩
    rw [failed] at ran
    cases ran

/-- An active open meets no clash. -/
theorem assertions_hold_open :
    Along Tracker.feed (fun m x => ¬ Clashes m x) Tracker.init
      (activeOpen 0x0200000a#32 1#32 2#32 0x11#32 0x22#32) := by
  obtain ⟨t, ran, _⟩ := map_ok (show (run Tracker.feed Tracker.init
    (activeOpen 0x0200000a#32 1#32 2#32 0x11#32 0x22#32)).map (fun _ => ()) = .ok () by decide +kernel)
  exact (assertions_hold_iff (by decide +kernel) (by decide +kernel)).2.mp ⟨t, ran⟩

/-- A peer that repeats its REQ with another QPN stops the tracker. -/
theorem repeated_req_fails :
    (∀ x ∈ [fromNet cmReqAttrId 0x0200000a#32 0#32 2#32 0x22#32, fromNet cmReqAttrId 0x0200000a#32 0#32 2#32 0x23#32],
      Whole x ∧ NonZero x) ∧
    run Tracker.feed Tracker.init
      [fromNet cmReqAttrId 0x0200000a#32 0#32 2#32 0x22#32, fromNet cmReqAttrId 0x0200000a#32 0#32 2#32 0x23#32] =
      .error (.assertion .reqReceivedQpn) := by
  refine ⟨by decide +kernel, map_error (f := fun _ => ()) ?_⟩
  decide +kernel

/-! ## Packets with null ids

With null ids there is one more way to fail, and the tables of a reachable state rule out what
`Clash` leaves open: no flow waits for an MRA. -/

/-- Why the tracker stops at the event `e`. -/
inductive Aborts (t : Tracker) (e : Event) : Prop where
  /-- Nothing to look up: no local id, and no key or one with a part missing. -/
  | noId (id : e.localId = 0#32) (key : ¬ e.lookupKey.IsSet)
  /-- A new local id for a flow that already has one, in the handlers that look up with both ids. -/
  | localId {s : Ref} (op : e.op = .rejSent ∨ e.op = .rejReceived ∨ e.op = .repSent) (id : e.localId ≠ 0#32)
      (noLocal : t.localMap.find e.localId = none) (there : t.remoteMap.find e.remoteId = some s)
      (taken : (t.flow s).localId ≠ 0#32)
  /-- The first REP of a flow, with the key of another flow or from another peer. -/
  | peer {s : Ref} (here : t.localMap.find e.localId = some s)
      (first : (e.op = .repSent ∧ (t.flow s).state = .REQ_RCVD) ∨ (e.op = .repReceived ∧ (t.flow s).state = .REQ_SENT))
      (key : e.remoteId.IsSet)
      (clash : (∃ r, r ≠ s ∧ t.remoteMap.find e.remoteId = some r) ∨
        (t.remoteMap.find e.remoteId = none ∧ (t.flow s).remoteId.IsSet))
  /-- A repeated REQ with another QPN. -/
  | qpn {s : Ref} {q : QpnT} (op : e.op = .reqReceived) (there : t.remoteMap.find e.remoteId = some s)
      (repeated : (t.flow s).state = .REQ_RCVD) (qpn : e.qpn = .ok q) (other : (t.flow s).remoteQpn ≠ q)

theorem Clash.aborts {t : Tracker} {e : Event} (clash : Clash t e) (tracked : Tracked t)
    (noLocalId : e.op = .reqReceived → e.localId = 0#32) : Aborts t e := by
  cases clash with
  | localId id noLocal there taken =>
    obtain ⟨own, op⟩ := e.lookupKey_op (tracked.indexed.remote_own there).1
    refine .localId (op.resolve_left fun req => id (noLocalId req)) id noLocal (own ▸ there) taken
  | @peer s here act clash =>
    have entered := tracked.entered s
    refine .peer here ?_ clash.1 clash.2
    rcases act with act | act
    · obtain ⟨op, st | st⟩ := action_sendRep act
      · exact Or.inl ⟨op, st⟩
      · rw [st] at entered; exact entered.elim
    · obtain ⟨op, st | st⟩ := action_receiveRep act
      · exact Or.inr ⟨op, st⟩
      · rw [st] at entered; exact entered.elim
  | qpn op there repeated qpn other => exact .qpn op there repeated qpn other

theorem Aborts.why {t : Tracker} {e : Event} (aborts : Aborts t e) :
    ¬ (e.localId ≠ 0#32 ∨ e.lookupKey.IsSet) ∨ Clash t e := by
  cases aborts with
  | noId id key =>
    refine Or.inl ?_
    rintro (set | set)
    · exact set id
    · exact key set
  | localId op id noLocal there taken =>
    have own : e.lookupKey = e.remoteId := by
      rcases op with op | op | op <;> rw [Event.lookupKey, op]
    exact Or.inr (.localId id noLocal (own ▸ there) taken)
  | peer here first key clash =>
    refine Or.inr (.peer here ?_ ⟨key, clash⟩)
    rcases first with ⟨op, st⟩ | ⟨op, st⟩
    · exact Or.inl (by rw [op, st]; rfl)
    · exact Or.inr (by rw [op, st]; rfl)
  | qpn op there repeated qpn other => exact Or.inr (.qpn op there repeated qpn other)

/-- **When a packet stops the tracker.** In a reachable state, a packet that holds the fields its
handler reads fails an assertion exactly when it has nothing to look up or does not fit the
tables; the assertions about the tables themselves never fail. -/
theorem abort_iff {t : Tracker} {x : Packet} {e : Event} (tracked : Tracked t) (whole : Whole x) (reads : Reads x e) :
    ((∃ a, t.process x.1 x.2 = .error (.assertion a)) ↔ Aborts t e) ∧
    ∀ a, t.process x.1 x.2 = .error (.assertion a) →
      a ≠ .eraseFlowIds ∧ a ≠ .addNewFlowOwnIds ∧ a ≠ .addNewFlowIds ∧ a ≠ .addNewFlowState := by
  have processed : t.process x.1 x.2 = t.step e := feed_of_event reads
  have noLocalId : e.op = .reqReceived → e.localId = 0#32 := by
    intro op
    exact reads.fields.noLocalId (by rw [op]; rfl)
  obtain ⟨q, qpn⟩ := whole.qpn e reads
  rw [processed]
  rcases step_total tracked.indexed noLocalId qpn with ⟨t', stepped, ids, fits⟩ | ⟨a, failed, which, why⟩
  · refine ⟨iff_of_false ?_ ?_, ?_⟩
    · rintro ⟨a, failed⟩
      rw [stepped] at failed
      cases failed
    · intro aborts
      exact aborts.why.elim (fun unset => unset ids) fits
    · intro a failed
      rw [stepped] at failed
      cases failed
  · refine ⟨iff_of_true ⟨a, failed⟩ ?_, ?_⟩
    · rcases why with unset | clash
      · obtain ⟨id, key⟩ := not_or.mp unset
        exact .noId (not_not.mp id) key
      · exact clash.aborts tracked noLocalId
    · intro a' failed'
      cases failed.symm.trans failed'
      refine ⟨?_, ?_, ?_, ?_⟩ <;> rintro rfl <;> exact which trivial

/-- A repeated REQ with another QPN is such a packet. -/
theorem abort_repeated_req :
    ∃ t e, Tracked t ∧ Reads (fromNet cmReqAttrId 0x0200000a#32 0#32 2#32 0x23#32) e ∧ Aborts t e := by
  have whole : Whole (fromNet cmReqAttrId 0x0200000a#32 0#32 2#32 0x23#32) := by decide +kernel
  obtain ⟨t, ran, _⟩ := map_ok (show (run Tracker.feed Tracker.init
    [fromNet cmReqAttrId 0x0200000a#32 0#32 2#32 0x22#32]).map (fun _ => ()) = .ok () by decide +kernel)
  have failed : run Tracker.feed Tracker.init ([fromNet cmReqAttrId 0x0200000a#32 0#32 2#32 0x22#32] ++
      [fromNet cmReqAttrId 0x0200000a#32 0#32 2#32 0x23#32]) = .error (.assertion .reqReceivedQpn) :=
    map_error (f := fun _ => ()) (by decide +kernel)
  obtain ⟨o, read, some⟩ := map_ok (show (readEvent (fromNet cmReqAttrId 0x0200000a#32 0#32 2#32 0x23#32).1
    .FROM_NET).map Option.isSome = .ok true by decide +kernel)
  obtain ⟨e, rfl⟩ := Option.isSome_iff_exists.mp some
  exact ⟨t, e, ⟨_, ran⟩, read, (abort_iff ⟨_, ran⟩ whole read).1.mp ⟨_, run_snoc_error ran failed⟩⟩

end ConntrackCm
