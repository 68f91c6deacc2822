import ConntrackCm.Message
import ConntrackCm.Lookup

/-!
# What a step can do

The action that follows a lookup ends in one of eight ways (`Effect`) or has a reason to fail
(`Failure`). `step_iff` says that a step is exactly a lookup followed by an effect: each later
invariant is checked against these twelve cases and never unfolds a handler.
-/

namespace ConntrackCm

open Lib

/-! ## Acting on the flow -/

/-- What the action of `e` does to the tracker `t` that the lookup left. -/
inductive Effect (e : Event) (s : Ref) (t : Tracker) : Tracker → Prop where
  | kept (act : action e.op (t.flow s).state = .unexpected ∨ action e.op (t.flow s).state = .duplicate) : Effect e s t t
  | sentReq {q : QpnT} (act : action e.op (t.flow s).state = .sendReq) (qpn : e.qpn = .ok q) :
      Effect e s t (t.modify s fun f => Action.sendReq.update q f)
  | receivedReq {q : QpnT} (act : action e.op (t.flow s).state = .receiveReq) (qpn : e.qpn = .ok q)
      (same : (t.flow s).state = .REQ_RCVD → (t.flow s).remoteQpn = q) :
      Effect e s t (t.modify s fun f => Action.receiveReq.update q f)
  /-- A REP on a flow already stored under its remote key, or without a key to store. -/
  | replied {q : QpnT} {a : Action} (act : action e.op (t.flow s).state = a) (rep : a = .sendRep ∨ a = .receiveRep)
      (qpn : e.qpn = .ok q) (stored : e.remoteId.IsSet → t.remoteMap.find e.remoteId = some s) :
      Effect e s t (t.modify s fun f => a.update q f)
  | repliedBound {q : QpnT} {a : Action} (act : action e.op (t.flow s).state = a)
      (rep : a = .sendRep ∨ a = .receiveRep) (qpn : e.qpn = .ok q) (key : e.remoteId.IsSet)
      (noRemote : t.remoteMap.find e.remoteId = none) (unbound : ¬ (t.flow s).remoteId.IsSet) :
      Effect e s t ((t.modify s fun f => a.update q f).bindRemote s e.remoteId)
  | established (act : action e.op (t.flow s).state = .establish) :
      Effect e s t ((t.modify s fun f => Action.establish.update 0#32 f).onEstablished s)
  | disconnected {next : FlowSt} (act : action e.op (t.flow s).state = .disconnect next) :
      Effect e s t (t.modify s fun f => (Action.disconnect next).update 0#32 f)
  | erased (act : action e.op (t.flow s).state = .erase) : Effect e s t (t.dropFlow s e.localId e.remoteId)

@[simp] theorem update_localId (a : Action) (q : QpnT) (f : FlowState) : (a.update q f).localId = f.localId := by
  cases a <;> rfl
@[simp] theorem update_remoteId (a : Action) (q : QpnT) (f : FlowState) : (a.update q f).remoteId = f.remoteId := by
  cases a <;> rfl
@[simp] theorem update_inQpnMap (a : Action) (q : QpnT) (f : FlowState) : (a.update q f).inQpnMap = f.inQpnMap := by
  cases a <;> rfl
theorem update_bound (a : Action) (q : QpnT) (f : FlowState) (k : CmFlowKey) :
    a.update q { f with remoteId := k } = { a.update q f with remoteId := k } := by
  cases a <;> rfl

/-- An RTU moves the flow on, and registers it when both QPNs are known and the key is free. -/
theorem Tracker.establish_cases (t : Tracker) (s : Ref) {t' : Tracker}
    (after : t' = (t.modify s fun f => Action.establish.update 0#32 f).onEstablished s) :
    (t'.flow s = { t.flow s with state := .ESTABLISHED } ∧ t'.qpnMap = t.qpnMap ∧
      ((t.flow s).localQpn = 0#32 ∨ (t.flow s).remoteQpn = 0#32 ∨ t.qpnMap.find (t.flow s).getFlowKey ≠ none)) ∨
    (t'.flow s = { t.flow s with state := .ESTABLISHED, inQpnMap := true } ∧
      t'.qpnMap = t.qpnMap.insert (t.flow s).getFlowKey (t.flow s).localQpn ∧
      (t.flow s).localQpn ≠ 0#32 ∧ (t.flow s).remoteQpn ≠ 0#32 ∧ t.qpnMap.find (t.flow s).getFlowKey = none) := by
  have flow : (t.modify s fun f => Action.establish.update 0#32 f).flow s = { t.flow s with state := .ESTABLISHED } :=
    Tracker.flow_modify_self t s _
  rcases Tracker.onEstablished_cases (t.modify s fun f => Action.establish.update 0#32 f) s with
    ⟨same, why⟩ | ⟨lq, rq, vacant, registered⟩
  · rw [flow] at why
    rw [after, same]
    exact Or.inl ⟨flow, rfl, why⟩
  · rw [flow] at lq rq vacant
    rw [after, registered, Tracker.flow_register, if_pos rfl, Tracker.qpnMap_register, flow]
    exact Or.inr ⟨rfl, rfl, lq, rq, vacant⟩

/-- Either way it changes nothing in the flow but the state and the flag. -/
theorem Tracker.flow_establish (t : Tracker) (s : Ref) :
    ∃ flag, ((t.modify s fun f => Action.establish.update 0#32 f).onEstablished s).flow s =
      { t.flow s with state := .ESTABLISHED, inQpnMap := flag } := by
  rcases t.establish_cases s rfl with ⟨flow, _⟩ | ⟨flow, _⟩
  · exact ⟨_, flow⟩
  · exact ⟨true, flow⟩

theorem Effect.indexed {e : Event} {s : Ref} {t t' : Tracker} (h : Effect e s t t') (idx : Indexed t)
    (used : s < t.flows.next) : Indexed t' := by
  have update : ∀ (a : Action) (q : QpnT), Indexed (t.modify s fun f => a.update q f) := by
    intro a q
    exact idx.modify ⟨update_localId a q _, update_remoteId a q _⟩
  cases h with
  | kept => exact idx
  | sentReq => exact update _ _
  | receivedReq => exact update _ _
  | replied => exact update _ _
  | repliedBound act rep qpn key noRemote unbound =>
    refine (update _ _).bindRemote key ?_ used
    rw [Tracker.flow_modify_self, update_remoteId]
    exact unbound
  | established => exact (update _ _).onEstablished s
  | disconnected => exact update _ _
  | erased => exact idx.dropFlow s _ _

/-! ## What an effect leaves alone -/

namespace Effect

variable {e : Event} {s : Ref} {t t' : Tracker}

theorem flow_of_ne (h : Effect e s t t') {r : Ref} (other : r ≠ s) : t'.flow r = t.flow r := by
  cases h with
  | kept => rfl
  | sentReq => exact Tracker.flow_modify_of_ne other
  | receivedReq => exact Tracker.flow_modify_of_ne other
  | replied => exact Tracker.flow_modify_of_ne other
  | repliedBound => rw [Tracker.flow_bindRemote, if_neg other, Tracker.flow_modify_of_ne other]
  | established =>
    rw [Tracker.flow_onEstablished_of_ne other, Tracker.flow_modify_of_ne other]
  | disconnected => exact Tracker.flow_modify_of_ne other
  | erased => exact Tracker.flow_dropFlow_of_ne other

theorem localMap_of_ne (h : Effect e s t t') {l : IdT} (other : l ≠ e.localId) :
    t'.localMap.find l = t.localMap.find l := by
  cases h with
  | established => rw [Tracker.localMap_onEstablished, Tracker.localMap_modify]
  | erased => rw [Tracker.localMap_dropFlow, Table.find_erase, if_neg other]
  | _ => rfl

/-- Effects enter no flow into `local_map`. -/
theorem held_before (h : Effect e s t t') {l : IdT} {r : Ref} (held : t'.localMap.find l = some r) :
    t.localMap.find l = some r := by
  cases h with
  | established => rwa [Tracker.localMap_onEstablished, Tracker.localMap_modify] at held
  | erased =>
    rw [Tracker.localMap_dropFlow, Table.find_erase] at held
    split_ifs at held
    exact held
  | _ => exact held

theorem remoteMap_of_ne (h : Effect e s t t') {k : CmFlowKey} (other : k ≠ e.remoteId) :
    t'.remoteMap.find k = t.remoteMap.find k := by
  cases h with
  | repliedBound => rw [Tracker.remoteMap_bindRemote, Table.find_insert, if_neg other, Tracker.remoteMap_modify]
  | established => rw [Tracker.remoteMap_onEstablished, Tracker.remoteMap_modify]
  | erased => rw [Tracker.remoteMap_dropFlow, Table.find_erase, if_neg other]
  | _ => rfl

theorem remote_before (h : Effect e s t t') {k : CmFlowKey} {r : Ref} (other : r ≠ s)
    (held : t'.remoteMap.find k = some r) : t.remoteMap.find k = some r := by
  cases h with
  | repliedBound =>
    rw [Tracker.remoteMap_bindRemote, Table.find_insert] at held
    split_ifs at held
    · exact absurd (Option.some.inj held).symm other
    · exact held
  | established => rwa [Tracker.remoteMap_onEstablished, Tracker.remoteMap_modify] at held
  | erased =>
    rw [Tracker.remoteMap_dropFlow, Table.find_erase] at held
    split_ifs at held
    exact held
  | _ => exact held

/-- What does not erase the flow takes out no entry. -/
theorem keeps (h : Effect e s t t') (live : action e.op (t.flow s).state ≠ .erase) :
    t'.localMap = t.localMap ∧ ∀ k r, t.remoteMap.find k = some r → t'.remoteMap.find k = some r := by
  cases h with
  | repliedBound _ _ _ _ noRemote =>
    refine ⟨rfl, fun k r held => ?_⟩
    have other : k ≠ e.remoteId := by
      rintro rfl
      rw [noRemote] at held
      cases held
    rw [Tracker.remoteMap_bindRemote, Table.find_insert, if_neg other]
    exact held
  | established =>
    refine ⟨Tracker.localMap_onEstablished _ _, fun k r held => ?_⟩
    rw [Tracker.remoteMap_onEstablished]
    exact held
  | erased act => exact absurd act live
  | _ => exact ⟨rfl, fun _ _ held => held⟩

theorem next_eq (h : Effect e s t t') : t'.flows.next = t.flows.next := by
  cases h with
  | established => rw [Tracker.next_onEstablished, Tracker.next_modify]
  | erased => exact Tracker.next_dropFlow _ _ _ _
  | _ => rfl

/-- Only the entry under the key of the flow acted on can change. -/
theorem qpnMap_of_ne (h : Effect e s t t') {key : FlowKey}
    (other : (t.flow s).remoteQpn ≠ 0#32 → key ≠ (t.flow s).getFlowKey) :
    t'.qpnMap.find key = t.qpnMap.find key := by
  cases h with
  | established =>
    refine Tracker.qpnMap_onEstablished_of_ne ?_
    rw [Tracker.flow_modify_self]
    exact other
  | erased => exact Tracker.qpnMap_dropFlow_of_ne other
  | _ => rfl

end Effect

/-- Handlers that compute a remote key without looking it up have a local id. -/
theorem Event.lookupKey_eq (e : Event) : e.lookupKey = e.remoteId ∨ e.lookupKey = .null := by
  unfold Event.lookupKey
  split <;> simp

/-- The handlers that look up with a key. -/
theorem Event.lookupKey_op {e : Event} (key : e.lookupKey.IsSet) :
    e.lookupKey = e.remoteId ∧
      (e.op = .reqReceived ∨ e.op = .rejSent ∨ e.op = .rejReceived ∨ e.op = .repSent) := by
  unfold Event.lookupKey at key ⊢
  split at key
  all_goals simp_all

/-- A flow looked up with local id 0 was found under the message's own remote key. -/
theorem Lookup.stored_key {t u : Tracker} {e : Event} {s : Ref} (h : Lookup t e.localId e.lookupKey s u)
    (zero : e.localId = 0#32) : e.remoteId.IsSet ∧ u.remoteMap.find e.remoteId = some s := by
  obtain ⟨key, found⟩ := h.stored_remote zero
  rcases e.lookupKey_eq with own | null
  · rw [own] at key found
    exact ⟨key, found⟩
  · rw [null] at key
    exact absurd key CmFlowKey.not_isSet_null

theorem bindRemote_modify (t : Tracker) (s : Ref) (k : CmFlowKey) (g : FlowState → FlowState)
    (frame : ∀ f, g { f with remoteId := k } = { g f with remoteId := k }) :
    (t.bindRemote s k).modify s g = (t.modify s g).bindRemote s k := by
  simp only [Tracker.bindRemote, Tracker.modify, Heap.modify_modify, frame]

/-- The entry `erase_flow` goes to after a lookup holds the very flow the lookup returned. -/
theorem Lookup.findFlow {t u : Tracker} {l : IdT} {k k' : CmFlowKey} {s : Ref} (h : Lookup t l k s u)
    (stored : l = 0#32 → k'.IsSet ∧ u.remoteMap.find k' = some s) : u.findFlow l k' = some s := by
  unfold Tracker.findFlow
  by_cases zero : l = 0#32
  · rw [if_neg (not_not_intro zero)]
    exact (stored zero).2
  · rw [if_pos zero]
    exact h.stored_local zero

theorem Lookup.eraseFlow {t u : Tracker} {l : IdT} {k k' : CmFlowKey} {s : Ref} (h : Lookup t l k s u)
    (stored : l = 0#32 → k'.IsSet ∧ u.remoteMap.find k' = some s) :
    u.eraseFlow l k' = .ok (u.dropFlow s l k') := by
  have ids : l ≠ 0#32 ∨ k'.IsSet := by
    by_cases zero : l = 0#32
    · exact Or.inr (stored zero).1
    · exact Or.inl zero
  have entry : (if l ≠ 0#32 then u.localMap.find l else u.remoteMap.find k') = some s := h.findFlow stored
  rw [Tracker.eraseFlow, bind_of_ok (check_pos ids), entry]
  rfl

/-- The second `add_new_flow` of a REP clashes: the peer's key belongs to another flow, or
the flow already has another peer. -/
def ReplyClash (t : Tracker) (s : Ref) (k : CmFlowKey) : Prop :=
  k.IsSet ∧ ((∃ r, r ≠ s ∧ t.remoteMap.find k = some r) ∨ (t.remoteMap.find k = none ∧ (t.flow s).remoteId.IsSet))

section Reply

variable {t u : Tracker} {e : Event} {s : Ref} {g : FlowState → FlowState}

/-- A REP whose key is the flow's own, or null, leaves the indexes alone. -/
theorem Lookup.reply_stored (h : Lookup t e.localId e.lookupKey s u) (idx : Indexed u)
    (ids : (g (u.flow s)).localId = (u.flow s).localId ∧ (g (u.flow s)).remoteId = (u.flow s).remoteId)
    (stored : e.remoteId.IsSet → u.remoteMap.find e.remoteId = some s) :
    (u.modify s g).addNewFlow e.localId e.remoteId = .ok (s, u.modify s g) := by
  by_cases zero : e.localId = 0#32
  · rw [zero]
    exact addNewFlow_zero idx.no_zero (h.stored_key zero).2
  · have here := h.stored_local zero
    by_cases key : e.remoteId.IsSet
    · refine addNewFlow_stored here (stored key) ?_
      rw [Tracker.flow_modify_self, ids.1, ids.2]
      exact ⟨(idx.local_own here).2, (idx.remote_own (stored key)).2⟩
    · exact addNewFlow_unset here (idx.no_unset key) key

theorem Lookup.reply_bound (h : Lookup t e.localId e.lookupKey s u)
    (ids : (g (u.flow s)).remoteId = (u.flow s).remoteId) (key : e.remoteId.IsSet)
    (noRemote : u.remoteMap.find e.remoteId = none) (unbound : ¬ (u.flow s).remoteId.IsSet) :
    (u.modify s g).addNewFlow e.localId e.remoteId = .ok (s, (u.modify s g).bindRemote s e.remoteId) := by
  have id : e.localId ≠ 0#32 := by
    intro zero
    rw [(h.stored_key zero).2] at noRemote
    cases noRemote
  refine addNewFlow_remote (h.stored_local id) noRemote key ?_
  rw [Tracker.flow_modify_self, ids]
  exact unbound

theorem Lookup.reply_fails (h : Lookup t e.localId e.lookupKey s u)
    (ids : (g (u.flow s)).remoteId = (u.flow s).remoteId) (clash : ReplyClash u s e.remoteId) :
    ∃ a, (a = .addNewFlowSame ∨ a = .addNewFlowRemoteId) ∧
      (u.modify s g).addNewFlow e.localId e.remoteId = .error (.assertion a) := by
  obtain ⟨key, ⟨r, other, found⟩ | ⟨noRemote, taken⟩⟩ := clash
  · have id : e.localId ≠ 0#32 := by
      intro zero
      rw [(h.stored_key zero).2] at found
      exact other (Option.some.inj found).symm
    exact ⟨_, Or.inl rfl, addNewFlow_clash (h.stored_local id) found other⟩
  · have id : e.localId ≠ 0#32 := by
      intro zero
      rw [(h.stored_key zero).2] at noRemote
      cases noRemote
    refine ⟨_, Or.inr rfl, addNewFlow_remote_fails (h.stored_local id) noRemote key ?_⟩
    rw [Tracker.flow_modify_self, ids]
    exact taken

/-- Without a clash the key is the flow's own, null, or free for a flow without a peer. -/
theorem reply_cases {t : Tracker} {s : Ref} {k : CmFlowKey} (fits : ¬ ReplyClash t s k) :
    (k.IsSet → t.remoteMap.find k = some s) ∨
      (k.IsSet ∧ t.remoteMap.find k = none ∧ ¬ (t.flow s).remoteId.IsSet) := by
  by_cases key : k.IsSet
  · cases found : t.remoteMap.find k with
    | none => exact Or.inr ⟨key, rfl, fun taken => fits ⟨key, Or.inr ⟨found, taken⟩⟩⟩
    | some r =>
      refine Or.inl fun _ => ?_
      by_contra other
      exact fits ⟨key, Or.inl ⟨r, fun same => other (same ▸ rfl), found⟩⟩
  · exact Or.inl fun set => absurd set key

end Reply

/-- The action of an event as it is carried out on a flow that was looked up. -/
theorem Effect.perform {t u t' : Tracker} {e : Event} {s : Ref} (h : Effect e s u t')
    (found : Lookup t e.localId e.lookupKey s u) (idx : Indexed u) :
    u.perform s e (action e.op (u.flow s).state) = .ok t' := by
  cases h with
  | kept act => rcases act with act | act <;> rw [act] <;> rfl
  | sentReq act qpn => rw [act, Tracker.perform, bind_of_ok qpn]; rfl
  | receivedReq act qpn same => rw [act, Tracker.perform, bind_of_ok qpn, bind_of_ok (check_pos same)]; rfl
  | replied act rep qpn stored =>
    rw [act]
    rcases rep with rfl | rfl
    · rw [Tracker.perform, bind_of_ok (found.reply_stored idx ⟨rfl, rfl⟩ stored)]
      dsimp only
      rw [bind_of_ok qpn, modify_modify]
      rfl
    · rw [Tracker.perform, bind_of_ok qpn]
      dsimp only
      rw [bind_of_ok (found.reply_stored idx ⟨rfl, rfl⟩ stored)]
      rfl
  | repliedBound act rep qpn key noRemote unbound =>
    rw [act]
    rcases rep with rfl | rfl
    · rw [Tracker.perform, bind_of_ok (found.reply_bound rfl key noRemote unbound)]
      dsimp only
      rw [bind_of_ok qpn, bindRemote_modify _ _ _ _ (fun _ => rfl), modify_modify]
      rfl
    · rw [Tracker.perform, bind_of_ok qpn]
      dsimp only
      rw [bind_of_ok (found.reply_bound rfl key noRemote unbound)]
      rfl
  | established act => rw [act]; rfl
  | disconnected act => rw [act]; rfl
  | erased act => rw [act]; exact found.eraseFlow found.stored_key

/-- Why an action fails: a field that cannot be read, a REQ that changed its QPN, or a REP
for the wrong peer. -/
inductive Failure (e : Event) (s : Ref) (t : Tracker) : Fault → Prop where
  | read {f : Fault} (qpn : e.qpn = .error f) : Failure e s t f
  | qpn {q : QpnT} (act : action e.op (t.flow s).state = .receiveReq) (repeated : (t.flow s).state = .REQ_RCVD)
      (qpn : e.qpn = .ok q) (other : (t.flow s).remoteQpn ≠ q) : Failure e s t (.assertion .reqReceivedQpn)
  | clash {a : Assertion}
      (act : action e.op (t.flow s).state = .sendRep ∨ action e.op (t.flow s).state = .receiveRep)
      (clash : ReplyClash t s e.remoteId) (which : a = .addNewFlowSame ∨ a = .addNewFlowRemoteId) :
      Failure e s t (.assertion a)

/-- An action has an effect or a reason to fail. -/
theorem perform_total {t u : Tracker} {e : Event} {s : Ref} (found : Lookup t e.localId e.lookupKey s u)
    (idx : Indexed u) :
    (∃ t', Effect e s u t') ∨
      ∃ f, Failure e s u f ∧ u.perform s e (action e.op (u.flow s).state) = .error f := by
  cases act : action e.op (u.flow s).state with
  | unexpected => exact Or.inl ⟨_, .kept (Or.inl act)⟩
  | duplicate => exact Or.inl ⟨_, .kept (Or.inr act)⟩
  | sendReq =>
    cases qpn : e.qpn with
    | error f => exact Or.inr ⟨f, .read qpn, by rw [Tracker.perform, bind_of_error qpn]⟩
    | ok q => exact Or.inl ⟨_, .sentReq act qpn⟩
  | receiveReq =>
    cases qpn : e.qpn with
    | error f => exact Or.inr ⟨f, .read qpn, by rw [Tracker.perform, bind_of_error qpn]⟩
    | ok q =>
      by_cases same : (u.flow s).state = .REQ_RCVD → (u.flow s).remoteQpn = q
      · exact Or.inl ⟨_, .receivedReq act qpn same⟩
      · obtain ⟨repeated, other⟩ := Classical.not_imp.mp same
        refine Or.inr ⟨_, .qpn act repeated qpn other, ?_⟩
        rw [Tracker.perform, bind_of_ok qpn, bind_of_error (check_neg same)]
  | sendRep =>
    by_cases clash : ReplyClash u s e.remoteId
    · obtain ⟨a, which, failed⟩ := found.reply_fails (g := fun f => { f with state := .REP_SENT }) rfl clash
      exact Or.inr ⟨_, .clash (Or.inl act) clash which, by rw [Tracker.perform, bind_of_error failed]⟩
    · cases qpn : e.qpn with
      | ok q =>
        rcases reply_cases clash with stored | ⟨key, noRemote, unbound⟩
        · exact Or.inl ⟨_, .replied act (Or.inl rfl) qpn stored⟩
        · exact Or.inl ⟨_, .repliedBound act (Or.inl rfl) qpn key noRemote unbound⟩
      | error f =>
        obtain ⟨v, added⟩ : ∃ v, (u.modify s fun f => { f with state := .REP_SENT }).addNewFlow e.localId e.remoteId =
            .ok (s, v) := by
          rcases reply_cases clash with stored | ⟨key, noRemote, unbound⟩
          · exact ⟨_, found.reply_stored idx ⟨rfl, rfl⟩ stored⟩
          · exact ⟨_, found.reply_bound rfl key noRemote unbound⟩
        exact Or.inr ⟨f, .read qpn, by rw [Tracker.perform, bind_of_ok added]; exact bind_of_error qpn⟩
  | receiveRep =>
    cases qpn : e.qpn with
    | error f => exact Or.inr ⟨f, .read qpn, by rw [Tracker.perform, bind_of_error qpn]⟩
    | ok q =>
      by_cases clash : ReplyClash u s e.remoteId
      · obtain ⟨a, which, failed⟩ := found.reply_fails (g := fun f => Action.receiveRep.update q f) rfl clash
        refine Or.inr ⟨.assertion a, .clash (Or.inr act) clash which, ?_⟩
        rw [Tracker.perform, bind_of_ok qpn]
        dsimp only
        rw [bind_of_error failed]
      · rcases reply_cases clash with stored | ⟨key, noRemote, unbound⟩
        · exact Or.inl ⟨_, .replied act (Or.inr rfl) qpn stored⟩
        · exact Or.inl ⟨_, .repliedBound act (Or.inr rfl) qpn key noRemote unbound⟩
  | establish => exact Or.inl ⟨_, .established act⟩
  | disconnect next => exact Or.inl ⟨_, .disconnected act⟩
  | erase => exact Or.inl ⟨_, .erased act⟩

/-- **A step is a lookup followed by an effect.** -/
theorem step_iff {t t' : Tracker} {e : Event} (idx : Indexed t) :
    t.step e = .ok t' ↔ ∃ s u, Lookup t e.localId e.lookupKey s u ∧ Effect e s u t' := by
  constructor
  · intro h
    obtain ⟨⟨s, u⟩, got, performed⟩ := bind_ok h
    have found := getFlow_ok idx got
    rcases perform_total found (found.indexed idx) with ⟨t'', effect⟩ | ⟨f, _, failed⟩
    · have same := (effect.perform found (found.indexed idx)).symm.trans performed
      cases same
      exact ⟨s, u, found, effect⟩
    · dsimp only at performed
      rw [failed] at performed
      cases performed
  · rintro ⟨s, u, found, effect⟩
    rw [Tracker.step, bind_of_ok found.getFlow]
    exact effect.perform found (found.indexed idx)

/-- A step that erases always succeeds. -/
theorem Lookup.step_erase {t u : Tracker} {e : Event} {s : Ref} (found : Lookup t e.localId e.lookupKey s u)
    (act : action e.op (u.flow s).state = .erase) : t.step e = .ok (u.dropFlow s e.localId e.remoteId) := by
  rw [Tracker.step, bind_of_ok found.getFlow]
  dsimp only
  rw [act]
  exact found.eraseFlow found.stored_key

theorem Indexed.step {t t' : Tracker} {e : Event} (idx : Indexed t) (h : t.step e = .ok t') : Indexed t' := by
  obtain ⟨s, u, found, effect⟩ := (step_iff idx).mp h
  exact effect.indexed (found.indexed idx) (found.lt_next idx)

/-! ## Runs of packets -/

/-- `process` as a step on packets. -/
def Tracker.feed (t : Tracker) (x : Packet) : Except Fault Tracker := t.process x.1 x.2

/-- The tracker states that some sequence of packets leads to without a fault. -/
def Tracked (t : Tracker) : Prop := Reachable Tracker.feed Tracker.init t

theorem feed_ok {t t' : Tracker} {x : Packet} (h : t.feed x = .ok t') :
    (readEvent x.1 x.2 = .ok none ∧ t' = t) ∨ ∃ e, readEvent x.1 x.2 = .ok (some e) ∧ t.step e = .ok t' :=
  process_ok h

theorem feed_of_event {t : Tracker} {x : Packet} {e : Event} (read : readEvent x.1 x.2 = .ok (some e)) :
    t.feed x = t.step e := by
  rw [Tracker.feed, process_eq, bind_of_ok read]

theorem feed_of_none {t : Tracker} {x : Packet} (silent : readEvent x.1 x.2 = .ok none) : t.feed x = .ok t := by
  rw [Tracker.feed, process_eq, bind_of_ok silent]

theorem Indexed.feed {t t' : Tracker} {x : Packet} (idx : Indexed t) (now : t.feed x = .ok t') : Indexed t' := by
  rcases feed_ok now with ⟨_, rfl⟩ | ⟨e, _, stepped⟩
  · exact idx
  · exact idx.step stepped

/-- A property of trackers that every step keeps holds in every tracked state. -/
theorem Tracked.invariant {I : Tracker → Prop} (start : I Tracker.init)
    (keep : ∀ t e t', Indexed t → I t → t.step e = .ok t' → I t') {t : Tracker} (h : Tracked t) : Indexed t ∧ I t := by
  refine Reachable.invariant (I := fun t => Indexed t ∧ I t) ⟨Indexed.init, start⟩ ?_ h
  rintro t x t' ⟨idx, inv⟩ now
  rcases feed_ok now with ⟨_, rfl⟩ | ⟨e, _, stepped⟩
  · exact ⟨idx, inv⟩
  · exact ⟨idx.step stepped, keep t e t' idx inv stepped⟩

/-- A tracked state followed by more packets. -/
theorem Tracked.append {t t' : Tracker} {xs : List Packet} (tracked : Tracked t)
    (ran : run Tracker.feed t xs = .ok t') : Tracked t' := by
  obtain ⟨ys, before⟩ := tracked
  exact ⟨ys ++ xs, by rw [run_append, bind_of_ok before, ran]⟩

theorem Tracked.feed {t t' : Tracker} {x : Packet} (tracked : Tracked t) (fed : t.feed x = .ok t') : Tracked t' := by
  have ran : run Tracker.feed t [x] = .ok t' := by
    rw [run_cons, bind_of_ok fed]
    rfl
  exact tracked.append ran

theorem Tracked.step {t t' : Tracker} {x : Packet} {e : Event} (tracked : Tracked t) (reads : Reads x e)
    (stepped : t.step e = .ok t') : Tracked t' := by
  have ran : run Tracker.feed t [x] = .ok t' := by
    rw [run_cons, feed_of_event reads, bind_of_ok stepped]
    rfl
  exact tracked.append ran

/-- The state before the first packet. -/
theorem Tracked.init : Tracked Tracker.init := ⟨[], rfl⟩

theorem Tracked.indexed {t : Tracker} (h : Tracked t) : Indexed t :=
  (Tracked.invariant (I := fun _ => True) trivial (fun _ _ _ _ _ _ => trivial) h).1

/-- The states that are entered: MRA messages have no handler and TIMEWAIT is never set. -/
def FlowSt.Entered : FlowSt → Prop
  | .MRA_REQ_RCVD | .MRA_REQ_SENT | .MRA_REP_SENT | .MRA_REP_RCVD | .TIMEWAIT => False
  | _ => True

theorem Effect.entered {e : Event} {s : Ref} {t t' : Tracker} (h : Effect e s t t')
    (before : (t.flow s).state.Entered) : (t'.flow s).state.Entered := by
  cases h with
  | kept => exact before
  | sentReq => rw [Tracker.flow_modify_self]; trivial
  | receivedReq => rw [Tracker.flow_modify_self]; trivial
  | replied _ rep => rw [Tracker.flow_modify_self]; rcases rep with rfl | rfl <;> trivial
  | repliedBound _ rep =>
    rw [Tracker.flow_bindRemote, if_pos rfl, Tracker.flow_modify_self]
    rcases rep with rfl | rfl <;> trivial
  | established =>
    obtain ⟨flag, after⟩ := t.flow_establish s
    rw [after]
    trivial
  | disconnected act =>
    rw [Tracker.flow_modify_self]
    rcases action_disconnect act with ⟨_, rfl⟩ | ⟨_, rfl⟩ <;> trivial
  | erased =>
    obtain ⟨flag, after, _⟩ := t.flow_dropFlow_self s e.localId e.remoteId
    rw [after]
    exact before

theorem Lookup.entered {t u : Tracker} {l : IdT} {k : CmFlowKey} {s : Ref} (found : Lookup t l k s u)
    (before : ∀ r, (t.flow r).state.Entered) : (u.flow s).state.Entered := by
  cases found with
  | byLocal => exact before s
  | byRemote => exact before s
  | created => rw [Tracker.flow_newFlow, if_pos rfl]; trivial
  | bound => rw [Tracker.flow_bindLocal, if_pos rfl]; exact before s

theorem Tracked.entered {t : Tracker} (h : Tracked t) (s : Ref) : (t.flow s).state.Entered := by
  refine (Tracked.invariant (I := fun t => ∀ r, (t.flow r).state.Entered) (fun _ => trivial) ?_ h).2 s
  intro t e t' idx before stepped r
  obtain ⟨s, u, found, effect⟩ := (step_iff idx).mp stepped
  by_cases here : r = s
  · exact here ▸ effect.entered (found.entered before)
  · rw [effect.flow_of_ne here, found.flow_of_ne here]
    exact before r

end ConntrackCm
