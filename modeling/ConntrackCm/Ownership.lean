import ConntrackCm.Step

/-!
# Who owns an entry of the query table

A registered flow carries `in_qpn_map`, sits in `local_map` under its own id and has its key
and QPNs frozen by its state; the entry under its key is its own. The flag, the key fields
and the table are written by different handlers, and an insertion that finds the key taken
is dropped without a word, so the three facts of `QpnOwned` have to be carried together.
-/

namespace ConntrackCm

open Lib

/-- States of a registered flow. -/
def FlowSt.Late (st : FlowSt) : Prop := st = .ESTABLISHED ∨ st = .DREQ_SENT ∨ st = .DREQ_RCVD

/-- The flow `s` owns the entry `key → lq`. -/
structure Owns (t : Tracker) (s : Ref) (key : FlowKey) (lq : QpnT) : Prop where
  stored : t.localMap.find (t.flow s).localId = some s
  flag : (t.flow s).inQpnMap = true
  key : (t.flow s).getFlowKey = key
  qpn : (t.flow s).localQpn = lq

/-- What holds of a flow with its flag set. -/
structure Registered (t : Tracker) (s : Ref) : Prop where
  late : (t.flow s).state.Late
  localQpn : (t.flow s).localQpn ≠ 0#32
  remoteQpn : (t.flow s).remoteQpn ≠ 0#32
  stored : t.localMap.find (t.flow s).localId = some s
  entry : t.qpnMap.find (t.flow s).getFlowKey = some (t.flow s).localQpn

/-- Entries and registered flows correspond one to one. -/
structure QpnOwned (t : Tracker) : Prop where
  owner : ∀ {key lq}, t.qpnMap.find key = some lq → ∃ s, Owns t s key lq
  registered : ∀ {s}, (t.flow s).inQpnMap = true → Registered t s
  unique : ∀ {s r}, (t.flow s).inQpnMap = true → (t.flow r).inQpnMap = true →
    (t.flow s).getFlowKey = (t.flow r).getFlowKey → s = r

section Frame

variable {t t' : Tracker} {r : Ref}

theorem Owns.frame {key : FlowKey} {lq : QpnT} (owns : Owns t r key lq) (flow : t'.flow r = t.flow r)
    (locals : t'.localMap = t.localMap) : Owns t' r key lq := by
  refine ⟨?_, ?_, ?_, ?_⟩ <;> rw [flow]
  · rw [locals]; exact owns.stored
  · exact owns.flag
  · exact owns.key
  · exact owns.qpn

theorem Registered.frame (reg : Registered t r) (flow : t'.flow r = t.flow r) (locals : t'.localMap = t.localMap)
    (entry : t'.qpnMap.find (t.flow r).getFlowKey = t.qpnMap.find (t.flow r).getFlowKey) : Registered t' r := by
  refine ⟨?_, ?_, ?_, ?_, ?_⟩ <;> rw [flow]
  · exact reg.late
  · exact reg.localQpn
  · exact reg.remoteQpn
  · rw [locals]; exact reg.stored
  · rw [entry]; exact reg.entry

end Frame

theorem QpnOwned.init : QpnOwned Tracker.init :=
  ⟨nofun, nofun, nofun⟩

/-- Handlers do nothing to a flow in a late state but tear it down. -/
theorem action_late {op : CmOp} {st : FlowSt} (late : st.Late) :
    action op st = .unexpected ∨ action op st = .erase ∨ action op st = .disconnect .DREQ_SENT ∨
      action op st = .disconnect .DREQ_RCVD := by
  rcases late with rfl | rfl | rfl <;> cases op <;> simp [action]

theorem disconnect_late {op : CmOp} {st next : FlowSt} (act : action op st = .disconnect next) : next.Late := by
  rcases action_disconnect act with ⟨_, rfl⟩ | ⟨_, rfl⟩
  · exact Or.inr (Or.inl rfl)
  · exact Or.inr (Or.inr rfl)

/-- Only RTU establishes, and it looks up by the local id alone. -/
theorem establish_lookupKey {e : Event} {st : FlowSt} (act : action e.op st = .establish) : e.lookupKey = .null := by
  rcases action_establish act with ⟨op, _⟩ | ⟨op, _⟩ <;> rw [Event.lookupKey, op]

/-- A change that leaves the query table and, up to a late state, the registered flows and
their places in `local_map`, and raises no flag. -/
theorem QpnOwned.frame {t t' : Tracker} (own : QpnOwned t) (table : t'.qpnMap = t.qpnMap)
    (flows : ∀ r, (t.flow r).inQpnMap = true →
      t'.flow r = { t.flow r with state := (t'.flow r).state } ∧ (t'.flow r).state.Late)
    (flags : ∀ r, (t'.flow r).inQpnMap = true → (t.flow r).inQpnMap = true)
    (places : ∀ l r, (t.flow r).inQpnMap = true → t.localMap.find l = some r → t'.localMap.find l = some r) :
    QpnOwned t' := by
  have key : ∀ {r}, (t.flow r).inQpnMap = true → (t'.flow r).getFlowKey = (t.flow r).getFlowKey := by
    intro r flag
    rw [(flows r flag).1]
    rfl
  constructor
  · intro k lq found
    rw [table] at found
    obtain ⟨s, owns⟩ := own.owner found
    have same := (flows s owns.flag).1
    refine ⟨s, ?_, ?_, (key owns.flag).trans owns.key, ?_⟩
    · rw [same]
      exact places _ _ owns.flag owns.stored
    · rw [same]; exact owns.flag
    · rw [same]; exact owns.qpn
  · intro s flag
    have old := flags s flag
    obtain ⟨same, late⟩ := flows s old
    have reg := own.registered old
    refine ⟨late, ?_, ?_, ?_, ?_⟩
    · rw [same]; exact reg.localQpn
    · rw [same]; exact reg.remoteQpn
    · rw [same]; exact places _ _ old reg.stored
    · rw [table, key old, same]; exact reg.entry
  · intro s r fs fr same
    rw [key (flags s fs), key (flags r fr)] at same
    exact own.unique (flags s fs) (flags r fr) same

/-- Field assignments to a flow that is not registered. -/
theorem QpnOwned.modify {t : Tracker} (own : QpnOwned t) {s : Ref} {g : FlowState → FlowState}
    (free : (t.flow s).inQpnMap = false) (flag : (g (t.flow s)).inQpnMap = false) : QpnOwned (t.modify s g) := by
  have other : ∀ {r}, (t.flow r).inQpnMap = true → r ≠ s := by
    rintro r flagged rfl
    rw [free] at flagged
    cases flagged
  refine own.frame rfl ?_ ?_ ?_
  · intro r flagged
    rw [Tracker.flow_modify_of_ne (other flagged)]
    exact ⟨rfl, (own.registered flagged).late⟩
  · intro r flagged
    by_cases same : r = s
    · subst same
      rw [Tracker.flow_modify_self, flag] at flagged
      cases flagged
    · rwa [Tracker.flow_modify_of_ne same] at flagged
  · exact fun _ _ _ found => found

theorem QpnOwned.not_flagged {t : Tracker} (own : QpnOwned t) {s : Ref} (early : ¬ (t.flow s).state.Late) :
    (t.flow s).inQpnMap = false := by
  cases flag : (t.flow s).inQpnMap with
  | false => rfl
  | true => exact absurd (own.registered flag).late early

/-- A registered flow is in `local_map`, so one without a local id is not registered. -/
theorem QpnOwned.not_flagged_unbound {t : Tracker} (own : QpnOwned t) (idx : Indexed t) {s : Ref}
    (unbound : (t.flow s).localId = 0#32) : (t.flow s).inQpnMap = false := by
  cases flag : (t.flow s).inQpnMap with
  | false => rfl
  | true => exact absurd unbound (idx.localId_ne (own.registered flag).stored)

theorem QpnOwned.lookup {t u : Tracker} {l : IdT} {k : CmFlowKey} {s : Ref} (own : QpnOwned t) (idx : Indexed t)
    (found : Lookup t l k s u) : QpnOwned u := by
  cases found with
  | byLocal => exact own
  | byRemote => exact own
  | created ids noLocal noRemote =>
    have old : ∀ {r}, (t.flow r).inQpnMap = true → r ≠ t.flows.next := by
      rintro r flagged rfl
      exact Nat.lt_irrefl _ (idx.local_lt (own.registered flagged).stored)
    refine own.frame rfl ?_ ?_ ?_
    · intro r flagged
      rw [Tracker.flow_newFlow, if_neg (old flagged)]
      exact ⟨rfl, (own.registered flagged).late⟩
    · intro r flagged
      rw [Tracker.flow_newFlow] at flagged
      split_ifs at flagged
      exact flagged
    · intro l' r _ there
      have other : ¬ (l' = l ∧ l ≠ 0#32) := by
        rintro ⟨rfl, _⟩
        rw [noLocal] at there
        cases there
      rw [Tracker.find_localMap_newFlow, if_neg other]
      exact there
  | bound id noLocal there unbound =>
    have free := own.not_flagged_unbound idx unbound
    have renamed : QpnOwned (t.modify s fun f => { f with localId := l }) := own.modify free free
    refine renamed.frame rfl (fun r flagged => ⟨rfl, (renamed.registered flagged).late⟩) (fun _ flagged => flagged) ?_
    intro l' r _ held
    have other : l' ≠ l := by
      rintro rfl
      rw [Tracker.localMap_modify, noLocal] at held
      cases held
    rw [Tracker.localMap_bindLocal, Table.find_insert, if_neg other]
    exact held

/-- Registering an established flow that sits in `local_map`. -/
theorem QpnOwned.register {t : Tracker} (own : QpnOwned t) {s : Ref} (late : (t.flow s).state.Late)
    (stored : t.localMap.find (t.flow s).localId = some s) (free : (t.flow s).inQpnMap = false)
    (lq : (t.flow s).localQpn ≠ 0#32) (rq : (t.flow s).remoteQpn ≠ 0#32)
    (vacant : t.qpnMap.find (t.flow s).getFlowKey = none) : QpnOwned (t.register s) := by
  have other : ∀ {r}, (t.flow r).inQpnMap = true → r ≠ s := by
    rintro r flagged rfl
    rw [free] at flagged
    cases flagged
  -- no registered flow has the key, since its entry is missing
  have newKey : ∀ {r}, (t.flow r).inQpnMap = true → (t.flow r).getFlowKey ≠ (t.flow s).getFlowKey := by
    intro r flagged same
    have entry := (own.registered flagged).entry
    rw [same, vacant] at entry
    cases entry
  have flow_s : (t.register s).flow s = { t.flow s with inQpnMap := true } := if_pos rfl
  have flow_r : ∀ {r}, r ≠ s → (t.register s).flow r = t.flow r := fun h => if_neg h
  have entry_s : Registered (t.register s) s := by
    refine ⟨?_, ?_, ?_, ?_, ?_⟩ <;> rw [flow_s]
    · exact late
    · exact lq
    · exact rq
    · exact stored
    · exact Table.find_insert_self _ _ _
  constructor
  · intro key q found
    rw [Tracker.qpnMap_register, Table.find_insert] at found
    split_ifs at found with here
    · cases found
      exact ⟨s, entry_s.stored, by rw [flow_s], by rw [flow_s, here]; rfl, by rw [flow_s]⟩
    · obtain ⟨r, owns⟩ := own.owner found
      exact ⟨r, owns.frame (flow_r (other owns.flag)) rfl⟩
  · intro r flagged
    by_cases same : r = s
    · exact same ▸ entry_s
    · rw [flow_r same] at flagged
      refine (own.registered flagged).frame (flow_r same) rfl ?_
      rw [Tracker.qpnMap_register, Table.find_insert, if_neg (newKey flagged)]
  · intro r r' flagged flagged' same
    have key_s : ((t.register s).flow s).getFlowKey = (t.flow s).getFlowKey := by rw [flow_s]; rfl
    by_cases hr : r = s <;> by_cases hr' : r' = s
    · rw [hr, hr']
    · subst hr
      rw [key_s, flow_r hr'] at same
      rw [flow_r hr'] at flagged'
      exact absurd same.symm (newKey flagged')
    · subst hr'
      rw [key_s, flow_r hr] at same
      rw [flow_r hr] at flagged
      exact absurd same (newKey flagged)
    · rw [flow_r hr] at flagged same
      rw [flow_r hr'] at flagged' same
      exact own.unique flagged flagged' same

theorem QpnOwned.onEstablished {t : Tracker} (own : QpnOwned t) {s : Ref} (late : (t.flow s).state.Late)
    (stored : t.localMap.find (t.flow s).localId = some s) (free : (t.flow s).inQpnMap = false) :
    QpnOwned (t.onEstablished s) := by
  rcases t.onEstablished_cases s with ⟨same, _⟩ | ⟨lq, rq, vacant, after⟩
  · rw [same]
    exact own
  · rw [after]
    exact own.register late stored free lq rq vacant

/-- A registered flow is found by `on_disconnected`. -/
theorem Registered.onDisconnected {t : Tracker} {s : Ref} (reg : Registered t s) :
    t.onDisconnected s = t.unregister s := by
  rcases t.onDisconnected_cases s with ⟨_, zero | zero | missing⟩ | ⟨_, _, _, after⟩
  · exact absurd zero reg.localQpn
  · exact absurd zero reg.remoteQpn
  · rw [reg.entry] at missing; cases missing
  · exact after

theorem QpnOwned.unregister {t : Tracker} (own : QpnOwned t) {s : Ref} (flag : (t.flow s).inQpnMap = true) :
    QpnOwned (t.unregister s) := by
  have flow_s : (t.unregister s).flow s = { t.flow s with inQpnMap := false } := if_pos rfl
  have flow_r : ∀ {r}, r ≠ s → (t.unregister s).flow r = t.flow r := fun h => if_neg h
  have still : ∀ {r}, ((t.unregister s).flow r).inQpnMap = true → r ≠ s ∧ (t.flow r).inQpnMap = true := by
    intro r flagged
    by_cases same : r = s
    · rw [same, flow_s] at flagged
      cases flagged
    · rw [flow_r same] at flagged
      exact ⟨same, flagged⟩
  constructor
  · intro key q found
    rw [Tracker.qpnMap_unregister, Table.find_erase] at found
    split_ifs at found with here
    obtain ⟨r, owns⟩ := own.owner found
    have same : r ≠ s := fun h => here (owns.key.symm.trans (by rw [h]))
    exact ⟨r, owns.frame (flow_r same) rfl⟩
  · intro r flagged
    obtain ⟨same, old⟩ := still flagged
    have otherKey : (t.flow r).getFlowKey ≠ (t.flow s).getFlowKey := fun h => same (own.unique old flag h)
    refine (own.registered old).frame (flow_r same) rfl ?_
    rw [Tracker.qpnMap_unregister, Table.find_erase, if_neg otherKey]
  · intro r r' flagged flagged' same
    obtain ⟨hr, old⟩ := still flagged
    obtain ⟨hr', old'⟩ := still flagged'
    rw [flow_r hr, flow_r hr'] at same
    exact own.unique old old' same

/-- Entries of the indexes may go while no registered flow loses its place in `local_map`. -/
theorem QpnOwned.erase {t : Tracker} (own : QpnOwned t) {l : IdT} {k : CmFlowKey}
    (places : ∀ r, (t.flow r).inQpnMap = true → (t.flow r).localId ≠ l) (idx : Indexed t) :
    QpnOwned { t with localMap := t.localMap.erase l, remoteMap := t.remoteMap.erase k } := by
  refine own.frame rfl (fun r flagged => ⟨rfl, (own.registered flagged).late⟩) (fun _ flagged => flagged) ?_
  intro l' r flagged found
  have other : l' ≠ l := fun h => places r flagged ((idx.local_own found).2.trans h)
  dsimp only
  rw [Table.find_erase, if_neg other]
  exact found

/-- Dropping the flow that the lookup found. -/
theorem QpnOwned.dropFlow {t u : Tracker} {e : Event} {s : Ref} (own : QpnOwned u) (idx : Indexed u)
    (found : Lookup t e.localId e.lookupKey s u) : QpnOwned (u.dropFlow s e.localId e.remoteId) := by
  -- only `s` is stored under the local id, so no other registered flow loses its place
  have others : ∀ {r}, (u.flow r).inQpnMap = true → r ≠ s → (u.flow r).localId ≠ e.localId := by
    intro r flagged other same
    have stored := (own.registered flagged).stored
    by_cases zero : e.localId = 0#32
    · exact idx.localId_ne stored (same.trans zero)
    · rw [same, found.stored_local zero] at stored
      exact other (Option.some.inj stored).symm
  unfold Tracker.dropFlow
  split_ifs with flag
  · rw [(own.registered flag).onDisconnected]
    refine (own.unregister flag).erase ?_ ((idx.withQpnMap _).modify ⟨rfl, rfl⟩)
    intro r flagged
    by_cases same : r = s
    · rw [same, Tracker.flow_unregister, if_pos rfl] at flagged
      cases flagged
    · rw [Tracker.flow_unregister, if_neg same] at flagged ⊢
      exact others flagged same
  · refine own.erase (fun r flagged => others flagged ?_) idx
    rintro rfl
    exact flag flagged

theorem QpnOwned.disconnect {t : Tracker} (own : QpnOwned t) {s : Ref} {next : FlowSt} (late : next.Late) :
    QpnOwned (t.modify s fun f => (Action.disconnect next).update 0#32 f) := by
  refine own.frame rfl ?_ ?_ (fun _ _ _ found => found)
  · intro r flagged
    by_cases same : r = s
    · subst same
      rw [Tracker.flow_modify_self]
      exact ⟨rfl, late⟩
    · rw [Tracker.flow_modify_of_ne same]
      exact ⟨rfl, (own.registered flagged).late⟩
  · intro r flagged
    by_cases same : r = s
    · subst same
      rwa [Tracker.flow_modify_self] at flagged
    · rwa [Tracker.flow_modify_of_ne same] at flagged

theorem QpnOwned.effect {t u t' : Tracker} {e : Event} {s : Ref} (own : QpnOwned u) (idx : Indexed u)
    (found : Lookup t e.localId e.lookupKey s u) (h : Effect e s u t') : QpnOwned t' := by
  -- every action but a teardown meets a flow that is not registered
  have free : ∀ {a}, action e.op (u.flow s).state = a → a ≠ .unexpected → a ≠ .erase →
      (∀ n, a ≠ .disconnect n) → (u.flow s).inQpnMap = false := by
    intro a act hu he hd
    apply own.not_flagged
    intro late
    rcases @action_late e.op _ late with h | h | h | h <;> rw [act] at h
    · exact hu h
    · exact he h
    · exact hd _ h
    · exact hd _ h
  have update : ∀ (a : Action) (q : QpnT), (u.flow s).inQpnMap = false →
      QpnOwned (u.modify s fun f => a.update q f) := by
    intro a q flag
    apply own.modify flag
    cases a <;> exact flag
  cases h with
  | kept => exact own
  | sentReq act => exact update _ _ (free act (by simp) (by simp) (by simp))
  | receivedReq act => exact update _ _ (free act (by simp) (by simp) (by simp))
  | replied act rep =>
    rcases rep with rfl | rfl <;> exact update _ _ (free act (by simp) (by simp) (by simp))
  | @repliedBound q a act rep _ _ _ _ =>
    have flag : (u.flow s).inQpnMap = false := by
      rcases rep with rfl | rfl <;> exact free act (by simp) (by simp) (by simp)
    have answered := update a q flag
    have unflagged : ((u.modify s fun f => a.update q f).flow s).inQpnMap = false := by
      rw [Tracker.flow_modify_self]
      cases a <;> exact flag
    have renamed := answered.modify (g := fun f => { f with remoteId := e.remoteId }) unflagged unflagged
    exact renamed.frame rfl (fun r flagged => ⟨rfl, (renamed.registered flagged).late⟩) (fun _ flagged => flagged)
      (fun _ _ _ there => there)
  | established act =>
    have flag := free act (by simp) (by simp) (by simp)
    have ids := found.ids
    rw [establish_lookupKey act] at ids
    have id : e.localId ≠ 0#32 := ids.resolve_right CmFlowKey.not_isSet_null
    have here := found.stored_local id
    refine (update .establish 0#32 flag).onEstablished ?_ ?_ ?_ <;> rw [Tracker.flow_modify_self]
    · exact Or.inl rfl
    · exact idx.find_localId here
    · exact flag
  | disconnected act => exact own.disconnect (disconnect_late act)
  | erased => exact own.dropFlow idx found

theorem QpnOwned.step {t t' : Tracker} {e : Event} (idx : Indexed t) (own : QpnOwned t) (h : t.step e = .ok t') :
    QpnOwned t' := by
  obtain ⟨s, u, found, effect⟩ := (step_iff idx).mp h
  exact (own.lookup idx found).effect (found.indexed idx) found effect

/-- The query table changes when an RTU registers a flow and when a registered flow is erased. -/
theorem Effect.qpnMap_cases {t t' : Tracker} {e : Event} {s : Ref} (effect : Effect e s t t') (own : QpnOwned t) :
    t'.qpnMap = t.qpnMap ∨
    (action e.op (t.flow s).state = .establish ∧ (t.flow s).localQpn ≠ 0#32 ∧ (t.flow s).remoteQpn ≠ 0#32 ∧
      t.qpnMap.find (t.flow s).getFlowKey = none ∧
      t'.qpnMap = t.qpnMap.insert (t.flow s).getFlowKey (t.flow s).localQpn) ∨
    (action e.op (t.flow s).state = .erase ∧ (t.flow s).inQpnMap = true ∧
      t'.qpnMap = t.qpnMap.erase (t.flow s).getFlowKey) := by
  cases effect with
  | established act =>
    rcases t.establish_cases s rfl with ⟨_, same, _⟩ | ⟨_, table, lq, rq, vacant⟩
    · exact Or.inl same
    · exact Or.inr (Or.inl ⟨act, lq, rq, vacant, table⟩)
  | erased act =>
    by_cases flag : (t.flow s).inQpnMap = true
    · refine Or.inr (Or.inr ⟨act, flag, ?_⟩)
      rw [Tracker.dropFlow, if_pos flag, (own.registered flag).onDisconnected]
      rfl
    · exact Or.inl (by rw [Tracker.dropFlow, if_neg flag])
  | _ => exact Or.inl rfl

theorem Tracked.qpnOwned {t : Tracker} (h : Tracked t) : QpnOwned t :=
  (Tracked.invariant QpnOwned.init (fun _ _ _ idx own stepped => own.step idx stepped) h).2

/-! ## The contract -/

/-- A flow some index holds. -/
def Tracker.Holds (t : Tracker) (s : Ref) : Prop :=
  (∃ l, t.localMap.find l = some s) ∨ ∃ k, t.remoteMap.find k = some s

/-- The answers but 0 are the entries of the query table. -/
theorem Tracker.getSourceQpn_iff {t : Tracker} {key : FlowKey} {q : QpnT} (nonzero : q ≠ 0#32) :
    t.getSourceQpn key = q ↔ t.qpnMap.find key = some q := by
  rw [Tracker.getSourceQpn]
  cases t.qpnMap.find key with
  | none => simp [nonzero.symm]
  | some q' => simp

/-- Exactly the keys that no flow owns answer 0. -/
theorem QpnOwned.query_zero {t : Tracker} (own : QpnOwned t) (key : InAddrT × QpnT) :
    t.getSourceQpn key = 0#32 ↔ ¬ ∃ s lq, t.Holds s ∧ Owns t s key lq := by
  unfold Tracker.getSourceQpn
  cases found : t.qpnMap.find key with
  | none =>
    refine iff_of_true rfl ?_
    rintro ⟨s, lq, _, owns⟩
    have entry := (own.registered owns.flag).entry
    rw [owns.key, found] at entry
    cases entry
  | some lq =>
    obtain ⟨s, owns⟩ := own.owner found
    have nonzero : lq ≠ 0#32 := owns.qpn ▸ (own.registered owns.flag).localQpn
    exact iff_of_false nonzero (not_not_intro ⟨s, lq, Or.inl ⟨_, owns.stored⟩, owns⟩)

/-- Erasing the flow that a lookup found takes out its entry alone. -/
theorem QpnOwned.erase_found {t u v : Tracker} (own : QpnOwned t) (idx : Indexed t) {l : IdT} {k k' : CmFlowKey} {s : Ref}
    (found : Lookup t l k s u) (key : l = 0#32 → k' = k) (erased : u.eraseFlow l k' = .ok v)
    (flag : (u.flow s).inQpnMap = true) :
    u.qpnMap.find (u.flow s).getFlowKey = some (u.flow s).localQpn ∧
    v.qpnMap = t.qpnMap.erase (u.flow s).getFlowKey ∧ (v.flow s).inQpnMap = false ∧
    ∀ r, r ≠ s → (u.flow r).inQpnMap = true → (u.flow r).getFlowKey ≠ (u.flow s).getFlowKey := by
  have own_u := own.lookup idx found
  have reg := own_u.registered flag
  have dropped : u.eraseFlow l k' = .ok (u.dropFlow s l k') :=
    found.eraseFlow fun zero => key zero ▸ found.stored_remote zero
  have gone : v = u.dropFlow s l k' := Except.ok.inj (erased.symm.trans dropped)
  rw [Tracker.dropFlow, if_pos flag, reg.onDisconnected] at gone
  refine ⟨reg.entry, ?_, ?_, ?_⟩
  · rw [gone, ← found.qpnMap_eq]
    rfl
  · rw [gone]
    change ((u.unregister s).flow s).inQpnMap = false
    rw [Tracker.flow_unregister, if_pos rfl]
  · intro r other flagged same
    exact other (own_u.unique flagged flag same)

/-- **Ownership of the query table.** Every entry belongs to exactly one flow; every flagged
flow is in a late state, owns its entry and shares its key with no other; a query answers 0
exactly when no live flow owns the key; and whenever a handler erases the flow it looked up,
`on_disconnected` finds that flow's entry and takes out this one alone. -/
theorem qpn_table_ownership {xs : List Packet} {t : Tracker} (ran : run Tracker.feed Tracker.init xs = .ok t) :
    (∀ ip rq lq, t.qpnMap.find (ip, rq) = some lq →
      rq ≠ 0#32 ∧ lq ≠ 0#32 ∧ ∃! s, Owns t s (ip, rq) lq) ∧
    (∀ s, t.Holds s → (t.flow s).inQpnMap = true →
      ((t.flow s).state = .ESTABLISHED ∨ (t.flow s).state = .DREQ_SENT ∨ (t.flow s).state = .DREQ_RCVD) ∧
      t.qpnMap.find (t.flow s).getFlowKey = some (t.flow s).localQpn ∧
      Owns t s (t.flow s).getFlowKey (t.flow s).localQpn) ∧
    (∀ s r, t.Holds s → t.Holds r → (t.flow s).inQpnMap = true → (t.flow r).inQpnMap = true →
      (t.flow s).getFlowKey = (t.flow r).getFlowKey → s = r) ∧
    (∀ key, t.getSourceQpn key = 0#32 ↔ ¬ ∃ s lq, t.Holds s ∧ Owns t s key lq) ∧
    (∀ l k k' s u v, t.getFlow l k = .ok (s, u) → (l = 0#32 → k' = k) → u.eraseFlow l k' = .ok v →
      (u.flow s).inQpnMap = true →
      u.qpnMap.find (u.flow s).getFlowKey = some (u.flow s).localQpn ∧
      v.qpnMap = t.qpnMap.erase (u.flow s).getFlowKey ∧ (v.flow s).inQpnMap = false ∧
      ∀ r, r ≠ s → (u.flow r).inQpnMap = true → (u.flow r).getFlowKey ≠ (u.flow s).getFlowKey) := by
  have tracked : Tracked t := ⟨xs, ran⟩
  have idx := tracked.indexed
  have own := tracked.qpnOwned
  refine ⟨?_, ?_, fun s r _ _ => own.unique, own.query_zero, ?_⟩
  · intro ip rq lq found
    obtain ⟨s, owns⟩ := own.owner found
    have reg := own.registered owns.flag
    refine ⟨?_, ?_, s, owns, fun r owns' => own.unique owns'.flag owns.flag (owns'.key.trans owns.key.symm)⟩
    · have same : (t.flow s).remoteQpn = rq := congrArg Prod.snd owns.key
      exact same ▸ reg.remoteQpn
    · exact owns.qpn ▸ reg.localQpn
  · intro s _ flag
    have reg := own.registered flag
    exact ⟨reg.late, reg.entry, reg.stored, flag, rfl, rfl⟩
  · intro l k k' s u v got key erased flag
    exact own.erase_found idx (getFlow_ok idx got) key erased flag

/-- The entry of an active open to `10.0.0.2`. -/
theorem qpn_table_ownership_open : ∃ t,
    run Tracker.feed Tracker.init (activeOpen 0x0200000a#32 1#32 2#32 0x11#32 0x22#32) = .ok t ∧
    ∃! s, Owns t s (0x0200000a#32, 0x22#32) 0x11#32 := by
  obtain ⟨t, ran, entry⟩ := map_ok (show (run Tracker.feed Tracker.init
      (activeOpen 0x0200000a#32 1#32 2#32 0x11#32 0x22#32)).map (·.qpnMap.find (0x0200000a#32, 0x22#32)) =
    .ok (some 0x11#32) by decide +kernel)
  exact ⟨t, ran, ((qpn_table_ownership ran).1 _ _ _ entry).2.2⟩

end ConntrackCm
