import ConntrackCm.Step

/-!
# Unexpected messages

A handler looks its flow up before it looks at the state, so the lookup has happened also when
the switch ends in its default branch. That leaves at most a fresh idle flow, or, in the
handlers that look up with both ids, a local id joined to a flow known by its key only. No
other flow notices the message.
-/

namespace ConntrackCm

open Lib

/-- The handler of `e` finds its flow and ends in its default branch. -/
def EndsUnexpected (t : Tracker) (e : Event) : Prop :=
  ∃ s u, t.getFlow e.localId e.lookupKey = .ok (s, u) ∧ action e.op (u.flow s).state = .unexpected

/-- The flow `r` has the same fields and is stored under the same ids. -/
structure Undisturbed (t t' : Tracker) (r : Ref) : Prop where
  flow : t'.flow r = t.flow r
  locals : ∀ l, t'.localMap.find l = some r ↔ t.localMap.find l = some r
  remotes : ∀ k, t'.remoteMap.find k = some r ↔ t.remoteMap.find k = some r

/-- `get_flow` joins the local id of `e` to the flow `r`: the id is new, and `r` is known by the
key alone. -/
structure Joins (t : Tracker) (e : Event) (r : Ref) : Prop where
  op : e.op = .rejSent ∨ e.op = .rejReceived ∨ e.op = .repSent
  id : e.localId ≠ 0#32
  noLocal : t.localMap.find e.localId = none
  found : t.remoteMap.find e.remoteId = some r
  unbound : (t.flow r).localId = 0#32

/-- The flow `r` of `t'` is new: idle, and stored only under ids of `e` that were unused. -/
structure FreshFlow (t : Tracker) (e : Event) (t' : Tracker) (r : Ref) : Prop where
  new : r = t.flows.next
  idle : (t'.flow r).state = .IDLE
  locals : ∀ l, t'.localMap.find l = some r → l = e.localId ∧ t.localMap.find l = none
  remotes : ∀ k, t'.remoteMap.find k = some r → k = e.lookupKey ∧ t.remoteMap.find k = none

theorem Undisturbed.refl (t : Tracker) (r : Ref) : Undisturbed t t r :=
  ⟨rfl, fun _ => Iff.rfl, fun _ => Iff.rfl⟩

namespace Lookup

variable {t u : Tracker} {l : IdT} {k : CmFlowKey} {s : Ref}

/-- A lookup disturbs no flow but the one it returns. -/
theorem undisturbed (found : Lookup t l k s u) {r : Ref} (other : r ≠ s) : Undisturbed t u r :=
  ⟨found.flow_of_ne other, fun _ => ⟨found.held_before other, found.keeps_local⟩,
    fun _ => ⟨found.remote_before other, found.keeps_remote⟩⟩

/-- An old flow that a lookup changes is one that it joins the local id to. -/
theorem undisturbed_or_bound (found : Lookup t l k s u) {r : Ref} (old : r < t.flows.next) :
    Undisturbed t u r ∨
      (r = s ∧ l ≠ 0#32 ∧ t.localMap.find l = none ∧ t.remoteMap.find k = some s ∧ (t.flow s).localId = 0#32) := by
  by_cases here : r = s
  · cases found with
    | byLocal => exact Or.inl (.refl t r)
    | byRemote => exact Or.inl (.refl t r)
    | created => exact absurd here (Nat.ne_of_lt old)
    | bound id noLocal held unbound => exact Or.inr ⟨here, id, noLocal, held, unbound⟩
  · exact Or.inl (found.undisturbed here)

end Lookup

theorem Joins.lookupKey {t : Tracker} {e : Event} {r : Ref} (joins : Joins t e r) : e.lookupKey = e.remoteId := by
  rcases joins.op with op | op | op <;> rw [Event.lookupKey, op]

/-- The lookup of a join. -/
theorem Joins.lookup {t : Tracker} {e : Event} {r : Ref} (joins : Joins t e r) :
    Lookup t e.localId e.lookupKey r (t.bindLocal r e.localId) := by
  rw [joins.lookupKey]
  exact .bound joins.id joins.noLocal joins.found joins.unbound

/-- The tables a lookup leaves hold new flows only as `FreshFlow` says. -/
theorem Lookup.fresh {t u : Tracker} {e : Event} {s r : Ref} (found : Lookup t e.localId e.lookupKey s u)
    (idx : Indexed t) (stored : (∃ l, u.localMap.find l = some r) ∨ ∃ k, u.remoteMap.find k = some r)
    (new : t.flows.next ≤ r) : FreshFlow t e u r := by
  have here : r = s := by
    by_contra other
    have old : r < t.flows.next := by
      rcases stored with ⟨l, held⟩ | ⟨k, held⟩
      · exact idx.local_lt (found.held_before other held)
      · exact idx.remote_lt (found.remote_before other held)
    exact absurd old (Nat.not_lt.mpr new)
  rw [here] at new ⊢
  cases found with
  | byLocal _ held => exact absurd (idx.local_lt held) (Nat.not_lt.mpr new)
  | byRemote _ _ held => exact absurd (idx.remote_lt held) (Nat.not_lt.mpr new)
  | bound _ _ held => exact absurd (idx.remote_lt held) (Nat.not_lt.mpr new)
  | created _ noLocal noRemote =>
    refine ⟨rfl, by rw [Tracker.flow_newFlow, if_pos rfl], ?_, ?_⟩
    · intro l held
      rw [Tracker.find_localMap_newFlow] at held
      split_ifs at held with own
      · rw [own.1]
        exact ⟨rfl, noLocal⟩
      · exact absurd (idx.local_lt held) (Nat.lt_irrefl _)
    · intro k held
      rw [Tracker.find_remoteMap_newFlow] at held
      split_ifs at held with own
      · rw [own.1]
        exact ⟨rfl, noRemote⟩
      · exact absurd (idx.remote_lt held) (Nat.lt_irrefl _)

/-- **What an unexpected message changes.** In a reachable state a message whose handler ends in
its default branch leaves the query table and every flow alone, except for the join of a new
local id to a flow known by its key only; the rest is at most one fresh idle flow under ids of
the message that were unused. -/
theorem unexpected_message {t : Tracker} {x : Packet} {e : Event} (tracked : Tracked t) (reads : Reads x e)
    (ends : EndsUnexpected t e) :
    ∃ t', t.process x.1 x.2 = .ok t' ∧ t'.qpnMap = t.qpnMap ∧
      (∀ r, r < t.flows.next → ¬ Joins t e r → Undisturbed t t' r) ∧
      (∀ r, Joins t e r →
        t'.flow r = { t.flow r with localId := e.localId } ∧
        (∀ l, t'.localMap.find l = some r ↔ l = e.localId) ∧
        ∀ k, t'.remoteMap.find k = some r ↔ t.remoteMap.find k = some r) ∧
      (∀ r, ((∃ l, t'.localMap.find l = some r) ∨ ∃ k, t'.remoteMap.find k = some r) → t.flows.next ≤ r →
        FreshFlow t e t' r) := by
  obtain ⟨s, u, got, act⟩ := ends
  have idx := tracked.indexed
  have found : Lookup t e.localId e.lookupKey s u := getFlow_ok idx got
  have stepped : t.step e = .ok u := (step_iff idx).mpr ⟨s, u, found, .kept (Or.inl act)⟩
  refine ⟨u, (feed_of_event reads).trans stepped, found.qpnMap_eq, ?_, ?_, ?_⟩
  · intro r old apart
    rcases found.undisturbed_or_bound old with same | ⟨rfl, id, noLocal, held, unbound⟩
    · exact same
    · refine absurd ?_ apart
      obtain ⟨own, op⟩ := e.lookupKey_op (idx.remote_own held).1
      have notReq : e.op ≠ .reqReceived := fun req => id (reads.fields.noLocalId (by rw [req]; rfl))
      exact ⟨op.resolve_left notReq, id, noLocal, own ▸ held, unbound⟩
  · intro r joins
    cases found.getFlow.symm.trans joins.lookup.getFlow
    refine ⟨by rw [Tracker.flow_bindLocal, if_pos rfl], ?_, fun _ => Iff.rfl⟩
    intro l
    rw [Tracker.localMap_bindLocal, Table.find_insert]
    split_ifs with same
    · exact iff_of_true rfl same
    · refine iff_of_false ?_ same
      intro held
      exact idx.localId_ne held joins.unbound
  · intro r stored new
    exact found.fresh idx stored new

/-- The RTU of an unknown connection is unexpected, and leaves the flow of another one alone. -/
theorem unexpected_rtu :
    ∃ t t' : Tracker, Tracked t ∧ (t.flow 0).state = .REQ_SENT ∧
      t.process (fromHost cmRtuAttrId 0x0200000a#32 7#32 0#32 0#32).1 .FROM_HOST = .ok t' ∧ Undisturbed t t' 0 := by
  obtain ⟨t, ran, seen⟩ := map_ok (show (run Tracker.feed Tracker.init
    [fromHost cmReqAttrId 0x0200000a#32 1#32 0#32 0x11#32]).map
      (fun t => ((t.flow 0).state, t.flows.next, t.localMap.find 7#32)) = .ok (.REQ_SENT, 1, none) by decide +kernel)
  simp only [Prod.mk.injEq] at seen
  obtain ⟨state, next, unknown⟩ := seen
  have reads : Reads (fromHost cmRtuAttrId 0x0200000a#32 7#32 0#32 0#32) ⟨.rtuSent, 7#32, .null, .ok 0#32⟩ := by
    refine hostRtu_iff.mp ⟨rfl, by decide +kernel, by decide +kernel⟩
  have tracked : Tracked t := ⟨_, ran⟩
  have found : Lookup t 7#32 .null t.flows.next (t.newFlow 7#32 .null) :=
    .created (Or.inl (by decide)) unknown (tracked.indexed.no_unset CmFlowKey.not_isSet_null)
  have ends : EndsUnexpected t ⟨.rtuSent, 7#32, .null, .ok 0#32⟩ := by
    refine ⟨_, _, found.getFlow, ?_⟩
    rw [Tracker.flow_newFlow, if_pos rfl]
    rfl
  obtain ⟨t', processed, _, kept, _⟩ := unexpected_message tracked reads ends
  refine ⟨t, t', tracked, state, processed, kept 0 (by rw [next]; decide) fun joins => ?_⟩
  rcases joins.op with op | op | op <;> cases op

/-- The join itself: a REP of the host without a local id leaves an idle flow under its key, and a
second REP, just as unexpected, gives that flow its local id. -/
theorem unexpected_join :
    ∃ t t' e, Tracked t ∧ Reads (fromHost cmRepAttrId 0x0200000a#32 1#32 2#32 0x11#32) e ∧ EndsUnexpected t e ∧
      t.process (fromHost cmRepAttrId 0x0200000a#32 1#32 2#32 0x11#32).1 .FROM_HOST = .ok t' ∧
      0 < t.flows.next ∧ (t.flow 0).localId = 0#32 ∧ (t'.flow 0).localId = 1#32 ∧ ¬ Undisturbed t t' 0 := by
  obtain ⟨t, t', ran, seen, now, joined⟩ := run_observe
    (show (run Tracker.feed Tracker.init [fromHost cmRepAttrId 0x0200000a#32 0#32 2#32 0x11#32]).map
      (fun t => (t.flow 0, t.flows.next, t.localMap.find 1#32, t.remoteMap.find ⟨0x0200000a#32, 2#32⟩)) =
      .ok (⟨.IDLE, 0#32, ⟨0x0200000a#32, 2#32⟩, 0#32, 0#32, false⟩, 1, none, some 0) by decide +kernel)
    (show (run Tracker.feed Tracker.init ([fromHost cmRepAttrId 0x0200000a#32 0#32 2#32 0x11#32] ++
      [fromHost cmRepAttrId 0x0200000a#32 1#32 2#32 0x11#32])).map (fun t => (t.flow 0).localId) = .ok 1#32 by
        decide +kernel)
  simp only [Prod.mk.injEq] at seen
  obtain ⟨idle, next, unknown, there⟩ := seen
  have reads : Reads (fromHost cmRepAttrId 0x0200000a#32 1#32 2#32 0x11#32)
      ⟨.repSent, 1#32, ⟨0x0200000a#32, 2#32⟩, .ok 0x11#32⟩ :=
    hostRep_iff.mp ⟨⟨rfl, by decide +kernel, by decide +kernel⟩, by decide +kernel⟩
  have unbound : (t.flow 0).localId = 0#32 := by rw [idle]
  have found : Lookup t 1#32 ⟨0x0200000a#32, 2#32⟩ 0 (t.bindLocal 0 1#32) := .bound (by decide) unknown there unbound
  refine ⟨t, t', _, ⟨_, ran⟩, reads, ⟨0, _, found.getFlow, ?_⟩, now, by rw [next]; decide, unbound, joined, ?_⟩
  · rw [Tracker.flow_bindLocal, if_pos rfl, idle]
    rfl
  · intro undisturbed
    rw [undisturbed.flow, unbound] at joined
    exact absurd joined (by decide)

end ConntrackCm
