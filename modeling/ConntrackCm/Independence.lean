import ConntrackCm.View

/-!
# Connections do not interfere

Connections with different ids share the tables, the flow objects are found by ids that
messages bind late, and any message may meet any state. Still the tracker is a product: a flow
object only ever carries ids and QPNs of one connection (`Partitioned`), so a packet acts on
the part of its own connection, and on that part it acts as it would with nothing else around.
-/

namespace ConntrackCm

open Lib

/-- Connections with distinct ids, none of them null. -/
structure Family (ι : Type) where
  localId : ι → IdT
  remoteId : ι → CmFlowKey
  localId_ne : ∀ c, localId c ≠ 0#32
  remoteId_set : ∀ c, (remoteId c).IsSet
  localId_inj : Function.Injective localId
  remoteId_inj : Function.Injective remoteId

variable {ι : Type}

/-- What a handler read is of the connection `c`: each id is that of `c` or missing, and a REP
names its peer. -/
structure Family.Belongs (fam : Family ι) (c : ι) (e : Event) : Prop where
  localId : e.localId = 0#32 ∨ e.localId = fam.localId c
  remoteId : e.remoteId = fam.remoteId c ∨ (¬ e.remoteId.IsSet ∧ e.op ≠ .repSent ∧ e.op ≠ .repReceived)

instance (fam : Family ι) (c : ι) (e : Event) : Decidable (fam.Belongs c e) :=
  decidable_of_iff (_ ∧ _) ⟨fun h => ⟨h.1, h.2⟩, fun h => ⟨h.localId, h.remoteId⟩⟩

/-- The packet is one of the connection `c`. -/
def Family.PacketOf (fam : Family ι) (c : ι) (x : Packet) : Prop := ∀ e, Reads x e → fam.Belongs c e

instance (fam : Family ι) (c : ι) (x : Packet) : Decidable (fam.PacketOf c x) :=
  decidable_of_iff (allOk (fun o => o.all fun e => decide (fam.Belongs c e)) (readEvent x.1 x.2) = true) (by
    rw [allOk_iff]
    constructor
    · intro all e read
      simpa using all _ read
    · rintro all (_ | e) read
      · rfl
      · simpa using all e read)

/-- The connection `c` carries `q` as a QPN of its peer, in a received REQ or REP. -/
def Carried (xs : List (ι × Packet)) (c : ι) (q : QpnT) : Prop :=
  ∃ x e, (c, x) ∈ xs ∧ Reads x e ∧ (e.op = .reqReceived ∨ e.op = .repReceived) ∧ e.qpn = .ok q

/-- An event of the connection `c`, QPNs of the peer being among the `carried` ones. -/
structure Family.EventOf (fam : Family ι) (carried : ι → QpnT → Prop) (c : ι) (e : Event) : Prop extends
    fam.Belongs c e where
  qpn : ∀ q, (e.op = .reqReceived ∨ e.op = .repReceived) → e.qpn = .ok q → carried c q

/-- States in which a flow knows its peer. -/
def FlowSt.Answered (st : FlowSt) : Prop :=
  st = .REP_SENT ∨ st = .REP_RCVD ∨ st = .MRA_REP_SENT ∨ st = .MRA_REP_RCVD

theorem establish_answered {op : CmOp} {st : FlowSt} (act : action op st = .establish) : st.Answered := by
  rcases action_establish act with ⟨_, rfl | rfl⟩ | ⟨_, rfl | rfl⟩ <;> simp [FlowSt.Answered]

/-- The flow is one of the connection `c`. -/
structure Family.Mine (fam : Family ι) (carried : ι → QpnT → Prop) (c : ι) (f : FlowState) : Prop where
  localId : f.localId = 0#32 ∨ f.localId = fam.localId c
  remoteId : f.remoteId = .null ∨ f.remoteId = fam.remoteId c
  qpn : f.remoteQpn = 0#32 ∨ carried c f.remoteQpn
  peer : f.state.Answered ∨ f.inQpnMap = true → f.remoteId = fam.remoteId c

/-- A flow with an id of a connection is a flow of this connection. -/
def Family.Partitioned (fam : Family ι) (carried : ι → QpnT → Prop) (t : Tracker) : Prop :=
  ∀ s c, ((t.flow s).localId = fam.localId c ∨ (t.flow s).remoteId = fam.remoteId c) → fam.Mine carried c (t.flow s)

section Owners

variable {fam : Family ι} {carried : ι → QpnT → Prop} {c d : ι} {e : Event} {t u t' : Tracker} {s : Ref}

theorem Family.remoteId_ne (fam : Family ι) (c : ι) : fam.remoteId c ≠ .null := by
  intro null
  exact CmFlowKey.not_isSet_null (null ▸ fam.remoteId_set c)

theorem Family.Partitioned.init : fam.Partitioned carried Tracker.init := by
  rintro s c (id | key)
  · exact absurd id.symm (fam.localId_ne c)
  · exact absurd key.symm (fam.remoteId_ne c)

/-- A flow has one owner. -/
theorem Family.Mine.owner {f : FlowState} (mine : fam.Mine carried c f)
    (ids : f.localId = fam.localId d ∨ f.remoteId = fam.remoteId d) : c = d := by
  rcases ids with id | key
  · rcases mine.localId with zero | own
    · exact absurd (id.symm.trans zero) (fam.localId_ne d)
    · exact fam.localId_inj (own.symm.trans id)
  · rcases mine.remoteId with null | own
    · exact absurd (key.symm.trans null) (fam.remoteId_ne d)
    · exact fam.remoteId_inj (own.symm.trans key)

theorem Family.Partitioned.update (part : fam.Partitioned carried t) (others : ∀ r, r ≠ s → t'.flow r = t.flow r)
    (mine : fam.Mine carried c (t'.flow s)) : fam.Partitioned carried t' := by
  intro r d ids
  by_cases here : r = s
  · subst here
    exact mine.owner ids ▸ mine
  · rw [others r here] at ids ⊢
    exact part r d ids

/-- The key a connection looks its flow up with is its own or unset. -/
theorem Family.EventOf.lookupKey (of : fam.EventOf carried c e) :
    e.lookupKey = fam.remoteId c ∨ ¬ e.lookupKey.IsSet := by
  rcases e.lookupKey_eq with same | null
  · rw [same]
    exact of.remoteId.imp id And.left
  · rw [null]
    exact Or.inr CmFlowKey.not_isSet_null

theorem Family.EventOf.replied (of : fam.EventOf carried c e) {st : FlowSt} {a : Action} (act : action e.op st = a)
    (rep : a = .sendRep ∨ a = .receiveRep) : e.remoteId = fam.remoteId c := by
  refine of.remoteId.resolve_right fun other => ?_
  rcases rep with rfl | rfl
  · exact other.2.1 (action_sendRep act).1
  · exact other.2.2 (action_receiveRep act).1

/-- A lookup returns a flow of the connection that asks. -/
theorem Family.Partitioned.lookup (part : fam.Partitioned carried t) (idx : Indexed t) (of : fam.EventOf carried c e)
    (found : Lookup t e.localId e.lookupKey s u) : fam.Mine carried c (u.flow s) := by
  cases found with
  | byLocal id held => exact part s c (Or.inl ((idx.local_own held).2.trans (of.localId.resolve_left id)))
  | byRemote zero key held =>
    exact part s c (Or.inr ((idx.remote_own held).2.trans (of.lookupKey.resolve_right (not_not_intro key))))
  | created =>
    rw [Tracker.flow_newFlow, if_pos rfl]
    refine ⟨of.localId, ?_, Or.inl rfl, ?_⟩
    · dsimp only
      split_ifs with key
      · exact Or.inr (of.lookupKey.resolve_right (not_not_intro key))
      · exact Or.inl rfl
    · rintro (answered | flag)
      · simp [FlowSt.Answered] at answered
      · cases flag
  | bound id _ held =>
    have stored := idx.remote_own held
    have old := part s c (Or.inr (stored.2.trans (of.lookupKey.resolve_right (not_not_intro stored.1))))
    rw [Tracker.flow_bindLocal, if_pos rfl]
    exact ⟨of.localId, old.remoteId, old.qpn, old.peer⟩

/-- A REP leaves a flow of the connection one, under the connection's key. -/
theorem Family.Mine.reply {f : FlowState} (mine : fam.Mine carried c f) (of : fam.EventOf carried c e) {a : Action}
    {q : QpnT} (act : action e.op f.state = a) (rep : a = .sendRep ∨ a = .receiveRep) (qpn : e.qpn = .ok q) :
    fam.Mine carried c (a.update q { f with remoteId := fam.remoteId c }) := by
  constructor
  · rw [update_localId]
    exact mine.localId
  · rw [update_remoteId]
    exact Or.inr rfl
  · rcases rep with rfl | rfl
    · exact mine.qpn
    · exact Or.inr (of.qpn q (Or.inr (action_receiveRep act).1) qpn)
  · rw [update_remoteId]
    exact fun _ => rfl

/-- What a packet does to a flow of its connection leaves it one. -/
theorem Family.Mine.effect (mine : fam.Mine carried c (t.flow s)) (idx : Indexed t) (of : fam.EventOf carried c e)
    (effect : Effect e s t t') : fam.Mine carried c (t'.flow s) := by
  cases effect with
  | kept => exact mine
  | sentReq act =>
    rw [Tracker.flow_modify_self]
    refine ⟨mine.localId, mine.remoteId, mine.qpn, ?_⟩
    rintro (early | flag)
    · simp [Action.update, FlowSt.Answered] at early
    · exact mine.peer (Or.inr flag)
  | @receivedReq q act qpn =>
    rw [Tracker.flow_modify_self]
    refine ⟨mine.localId, mine.remoteId, Or.inr (of.qpn q (Or.inl (action_receiveReq act).1) qpn), ?_⟩
    rintro (early | flag)
    · simp [Action.update, FlowSt.Answered] at early
    · exact mine.peer (Or.inr flag)
  | replied act rep qpn stored =>
    rw [Tracker.flow_modify_self]
    have own := of.replied act rep
    have key : e.remoteId.IsSet := own ▸ fam.remoteId_set c
    have peer : (t.flow s).remoteId = fam.remoteId c := (idx.remote_own (stored key)).2.trans own
    have after := mine.reply of act rep qpn
    rwa [← peer] at after
  | repliedBound act rep qpn =>
    rw [Tracker.flow_bindRemote, if_pos rfl, Tracker.flow_modify_self, ← update_bound, of.replied act rep]
    exact mine.reply of act rep qpn
  | established act =>
    have peer := mine.peer (Or.inl (establish_answered act))
    obtain ⟨flag, after⟩ := t.flow_establish s
    rw [after]
    exact ⟨mine.localId, mine.remoteId, mine.qpn, fun _ => peer⟩
  | disconnected act =>
    rw [Tracker.flow_modify_self]
    refine ⟨mine.localId, mine.remoteId, mine.qpn, ?_⟩
    rintro (late | flag)
    · rcases action_disconnect act with ⟨_, rfl⟩ | ⟨_, rfl⟩ <;> simp [Action.update, FlowSt.Answered] at late
    · exact mine.peer (Or.inr flag)
  | erased =>
    obtain ⟨flag, after, lowered⟩ := t.flow_dropFlow_self s e.localId e.remoteId
    rw [after]
    exact ⟨mine.localId, mine.remoteId, mine.qpn, fun known => mine.peer (known.imp id lowered)⟩

theorem Family.Partitioned.step (part : fam.Partitioned carried t) (idx : Indexed t) (of : fam.EventOf carried c e)
    (found : Lookup t e.localId e.lookupKey s u) (effect : Effect e s u t') : fam.Partitioned carried t' := by
  have mine := part.lookup idx of found
  have looked := part.update (fun r other => found.flow_of_ne other) mine
  exact looked.update (fun r other => effect.flow_of_ne other) (mine.effect (found.indexed idx) of effect)

end Owners

/-! ## The part of one connection -/

/-- The index entries of one connection. -/
def Family.Slots (fam : Family ι) (c : ι) (i : IdT ⊕ CmFlowKey) : Prop :=
  i = .inl (fam.localId c) ∨ i = .inr (fam.remoteId c)

/-- The keys of its entries in the query table. -/
def Family.Shown (fam : Family ι) (carried : ι → QpnT → Prop) (c : ι) (key : FlowKey) : Prop :=
  key.1 = (fam.remoteId c).addr ∧ carried c key.2

theorem Family.slots_local (fam : Family ι) (c : ι) : fam.Slots c (.inl (fam.localId c)) := Or.inl rfl

theorem Family.slots_remote (fam : Family ι) (c : ι) : fam.Slots c (.inr (fam.remoteId c)) := Or.inr rfl

/-! ## Own and foreign packets -/

section Packets

variable {fam : Family ι} {carried : ι → QpnT → Prop} {c d : ι} {e : Event} {t t' u u' : Tracker} {s r : Ref}

theorem Family.Mine.visible {f : FlowState} (mine : fam.Mine carried c f) (peer : f.remoteId = fam.remoteId c) :
    Visible (fam.Shown carried c) f := by
  intro nonzero
  refine ⟨?_, mine.qpn.resolve_left nonzero⟩
  rw [FlowState.getFlowKey, peer]

/-- A lookup for a packet of the connection. -/
theorem Family.EventOf.lookup (of : fam.EventOf carried c e) (view : SameView (fam.Slots c) (fam.Shown carried c) t u)
    (idx : Indexed t) (idx' : Indexed u) {t₁ : Tracker} (found : Lookup t e.localId e.lookupKey s t₁) :
    ∃ r u₁, Lookup u e.localId e.lookupKey r u₁ ∧ SameView (fam.Slots c) (fam.Shown carried c) t₁ u₁ ∧
      Paired (fam.Slots c) t₁.roots u₁.roots s r ∧ t₁.flow s = u₁.flow r := by
  refine view.lookup idx idx' ?_ ?_ found
  · rcases of.localId with zero | own
    · exact Or.inl zero
    · exact Or.inr (own ▸ fam.slots_local c)
  · rcases of.lookupKey with own | unset
    · exact Or.inr (own ▸ fam.slots_remote c)
    · exact Or.inl unset

/-- An action on a flow of the connection has the same effect in both trackers. -/
theorem Family.EventOf.effect (of : fam.EventOf carried c e) (view : SameView (fam.Slots c) (fam.Shown carried c) t u)
    (mine : fam.Mine carried c (t.flow s)) (paired : Paired (fam.Slots c) t.roots u.roots s r) (same : t.flow s = u.flow r)
    (effect : Effect e s t t') : ∃ u', Effect e r u u' ∧ SameView (fam.Slots c) (fam.Shown carried c) t' u' := by
  refine view.effect paired same (fun act rep => ?_) (fun known => mine.visible (mine.peer ?_)) effect
  · rw [of.replied act rep]
    exact fam.slots_remote c
  · exact known.imp establish_answered id

/-- A packet of another connection leaves the view alone. -/
theorem SameView.foreign (view : SameView (fam.Slots c) (fam.Shown carried c) t u) (idx : Indexed t)
    (part : fam.Partitioned carried t) (other : d ≠ c) (of : fam.EventOf carried d e)
    (disjoint : ∀ q, (fam.remoteId d).addr = (fam.remoteId c).addr → carried d q → ¬ carried c q)
    {t₁ : Tracker} (found : Lookup t e.localId e.lookupKey s t₁) (effect : Effect e s t₁ t') :
    SameView (fam.Slots c) (fam.Shown carried c) t' u := by
  have mine := part.lookup idx of found
  have localId : fam.localId c ≠ e.localId := by
    intro same
    rcases of.localId with zero | own
    · exact fam.localId_ne c (same.trans zero)
    · exact other (fam.localId_inj (own.symm.trans same.symm))
  have remoteId : fam.remoteId c ≠ e.remoteId := by
    intro same
    rcases of.remoteId with own | ⟨unset, _⟩
    · exact other (fam.remoteId_inj (own.symm.trans same.symm))
    · exact unset (same ▸ fam.remoteId_set c)
  have lookupKey : fam.remoteId c ≠ e.lookupKey := by
    intro same
    rcases of.lookupKey with own | unset
    · exact other (fam.remoteId_inj (own.symm.trans same.symm))
    · exact unset (same ▸ fam.remoteId_set c)
  constructor
  · refine view.flows.frame ?_ ?_
    · rintro i (rfl | rfl)
      · exact (effect.localMap_of_ne localId).trans (found.localMap_of_ne localId)
      · exact (effect.remoteMap_of_ne remoteId).trans (found.remoteMap_of_ne lookupKey)
    · -- the flows of `c` are not the one the packet found
      intro i o slot held
      have ids : (t₁.flow o).localId = fam.localId c ∨ (t₁.flow o).remoteId = fam.remoteId c := by
        rcases slot with rfl | rfl
        · exact Or.inl ((found.indexed idx).local_own (found.keeps_local held)).2
        · exact Or.inr ((found.indexed idx).remote_own (found.keeps_remote held)).2
      have elsewhere : o ≠ s := by
        rintro rfl
        exact other (mine.owner ids)
      exact (effect.flow_of_ne elsewhere).trans (found.flow_of_ne elsewhere)
  · rintro ⟨ip, q⟩ ⟨rfl, shown⟩
    rw [effect.qpnMap_of_ne, found.qpnMap_eq, view.qpns _ ⟨rfl, shown⟩]
    intro nonzero key
    obtain ⟨addr, qpn⟩ := Prod.mk.inj key
    rcases mine.remoteId with null | own
    · rw [null] at addr
      exact (fam.remoteId_set c).1 addr
    · rw [own] at addr
      exact disjoint _ addr.symm (mine.qpn.resolve_left nonzero) (qpn ▸ shown)

end Packets

/-! ## Runs -/

/-- The tracker of an interleaved run and that of one connection's packets. -/
structure Projects (fam : Family ι) (carried : ι → QpnT → Prop) (c : ι) (t u : Tracker) : Prop where
  indexed : Indexed t
  indexed' : Indexed u
  partitioned : fam.Partitioned carried t
  view : SameView (fam.Slots c) (fam.Shown carried c) t u

section Run

variable {fam : Family ι} {carried : ι → QpnT → Prop} {c d : ι} {t t' u : Tracker} {x : Packet}

theorem Projects.own (related : Projects fam carried c t u) (of : ∀ e, Reads x e → fam.EventOf carried c e)
    (now : t.feed x = .ok t') : ∃ u', u.feed x = .ok u' ∧ Projects fam carried c t' u' := by
  rcases feed_ok now with ⟨silent, rfl⟩ | ⟨e, read, stepped⟩
  · exact ⟨u, feed_of_none silent, related⟩
  · obtain ⟨s, t₁, found, effect⟩ := (step_iff related.indexed).mp stepped
    have mine := related.partitioned.lookup related.indexed (of e read) found
    obtain ⟨r, u₁, found', view, paired, same⟩ :=
      (of e read).lookup related.view related.indexed related.indexed' found
    obtain ⟨u', effect', view'⟩ := (of e read).effect view mine paired same effect
    have stepped' : u.step e = .ok u' := (step_iff related.indexed').mpr ⟨r, u₁, found', effect'⟩
    exact ⟨u', (feed_of_event read).trans stepped', related.indexed.step stepped, related.indexed'.step stepped',
      related.partitioned.step related.indexed (of e read) found effect, view'⟩

theorem Projects.foreign (related : Projects fam carried c t u) (of : ∀ e, Reads x e → fam.EventOf carried d e)
    (other : d ≠ c) (disjoint : ∀ q, (fam.remoteId d).addr = (fam.remoteId c).addr → carried d q → ¬ carried c q)
    (now : t.feed x = .ok t') : Projects fam carried c t' u := by
  rcases feed_ok now with ⟨_, rfl⟩ | ⟨e, read, stepped⟩
  · exact related
  · obtain ⟨s, t₁, found, effect⟩ := (step_iff related.indexed).mp stepped
    exact ⟨related.indexed.step stepped, related.indexed',
      related.partitioned.step related.indexed (of e read) found effect,
      related.view.foreign related.indexed related.partitioned other (of e read) disjoint found effect⟩

end Run

/-- **Independent connections do not interfere.** In every interleaved run of packets of a
family of connections that shows no QPN of a peer in two connections, each connection ends as
if its packets had been processed alone: with the same flows under its ids, shared in the same
way, and with the same answers for its QPNs. -/
theorem connections_independent [DecidableEq ι] (fam : Family ι) {xs : List (ι × Packet)} {t : Tracker}
    (belongs : ∀ y ∈ xs, fam.PacketOf y.1 y.2)
    (disjoint : ∀ c d q, c ≠ d → (fam.remoteId c).addr = (fam.remoteId d).addr → Carried xs c q → ¬ Carried xs d q)
    (ran : run Tracker.feed Tracker.init (xs.map Prod.snd) = .ok t) (c : ι) :
    ∃ u, run Tracker.feed Tracker.init ((xs.filter fun y => y.1 = c).map Prod.snd) = .ok u ∧
      (t.localMap.find (fam.localId c)).map t.flow = (u.localMap.find (fam.localId c)).map u.flow ∧
      (t.remoteMap.find (fam.remoteId c)).map t.flow = (u.remoteMap.find (fam.remoteId c)).map u.flow ∧
      (t.localMap.find (fam.localId c) = t.remoteMap.find (fam.remoteId c) ↔
        u.localMap.find (fam.localId c) = u.remoteMap.find (fam.remoteId c)) ∧
      ∀ q, Carried xs c q →
        t.getSourceQpn ((fam.remoteId c).addr, q) = u.getSourceQpn ((fam.remoteId c).addr, q) := by
  have of : ∀ y ∈ xs, ∀ e, Reads y.2 e → fam.EventOf (Carried xs) y.1 e := by
    intro y member e read
    exact ⟨belongs y member e read, fun q op qpn => ⟨y.2, e, member, read, op, qpn⟩⟩
  have start : Projects fam (Carried xs) c Tracker.init Tracker.init :=
    ⟨Indexed.init, Indexed.init, Family.Partitioned.init, .refl _⟩
  have own : ∀ t u y t', y ∈ xs → decide (y.1 = c) = true → Projects fam (Carried xs) c t u → t.feed y.2 = .ok t' →
      ∃ u', u.feed y.2 = .ok u' ∧ Projects fam (Carried xs) c t' u' := by
    intro t u y t' member selected related now
    exact related.own (fun e read => of_decide_eq_true selected ▸ of y member e read) now
  have foreign : ∀ t u y t', y ∈ xs → decide (y.1 = c) = false → Projects fam (Carried xs) c t u → t.feed y.2 = .ok t' →
      Projects fam (Carried xs) c t' u := by
    intro t u y t' member selected related now
    have other := of_decide_eq_false selected
    exact related.foreign (of y member) other (fun q addr => disjoint _ _ q other addr) now
  rw [run_map] at ran
  obtain ⟨u, ranAlone, related⟩ := run_filter (Projects fam (Carried xs) c) (fun y => y.1 = c) own foreign
    Tracker.init t Tracker.init start ran
  refine ⟨u, by rw [run_map]; exact ranAlone, related.view.flows.same _ (fam.slots_local c),
    related.view.flows.same _ (fam.slots_remote c),
    related.view.flows.shared _ _ (fam.slots_local c) (fam.slots_remote c), ?_⟩
  intro q carried
  unfold Tracker.getSourceQpn
  rw [related.view.qpns _ ⟨rfl, carried⟩]

/-- Two connections of the host, to `10.0.0.2` and to `10.0.0.3`. -/
def twoPeers : Family Bool where
  localId := fun c => if c then 3#32 else 1#32
  remoteId := fun c => if c then ⟨0x0300000a#32, 4#32⟩ else ⟨0x0200000a#32, 2#32⟩
  localId_ne := by decide
  remoteId_set := by decide
  localId_inj := by unfold Function.Injective; decide
  remoteId_inj := by unfold Function.Injective; decide

/-- Their handshakes interleaved; both peers use the QPN `0x22`. -/
def twoPeersOpen : List (Bool × Packet) :=
  [(false, fromHost cmReqAttrId 0x0200000a#32 1#32 0#32 0x11#32),
    (true, fromHost cmReqAttrId 0x0300000a#32 3#32 0#32 0x33#32),
    (true, fromNet cmRepAttrId 0x0300000a#32 3#32 4#32 0x22#32),
    (false, fromNet cmRepAttrId 0x0200000a#32 1#32 2#32 0x22#32),
    (false, fromHost cmRtuAttrId 0x0200000a#32 1#32 2#32 0#32),
    (true, fromHost cmRtuAttrId 0x0300000a#32 3#32 4#32 0#32)]

theorem connections_independent_peers : ∃ t u,
    run Tracker.feed Tracker.init (twoPeersOpen.map Prod.snd) = .ok t ∧
    run Tracker.feed Tracker.init ((twoPeersOpen.filter fun y => y.1 = true).map Prod.snd) = .ok u ∧
    (t.localMap.find 3#32).map t.flow = (u.localMap.find 3#32).map u.flow := by
  obtain ⟨t, ran, _⟩ := map_ok (show (run Tracker.feed Tracker.init (twoPeersOpen.map Prod.snd)).map
    (·.getSourceQpn (0x0300000a#32, 0x22#32)) = .ok 0x33#32 by decide +kernel)
  have distinct : ∀ c d : Bool, (twoPeers.remoteId c).addr = (twoPeers.remoteId d).addr → c = d := by decide
  obtain ⟨u, alone, flows, _⟩ := connections_independent twoPeers (by decide +kernel)
    (fun c d _ other addr => absurd (distinct c d addr) other) ran true
  exact ⟨t, u, ran, alone, flows⟩

end ConntrackCm
