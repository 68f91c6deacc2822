import ConntrackCm.Step

/-!
# Agreement of the two indexes

A flow with both ids set should sit in both indexes. Binding an id keeps it so, and so does
erasing a flow under its own ids. `erase_flow` takes the ids of the packet instead, and a REJ
or DREP whose ids are not both the flow's own leaves one entry behind or takes one of another
flow. `ErasesOwn` is the condition on a packet that excludes this.
-/

namespace ConntrackCm

open Lib

/-- A flow stored under one of its ids is stored under the other as well, once it has it. -/
structure Agree (t : Tracker) : Prop where
  toRemote : ∀ {l s}, t.localMap.find l = some s → (t.flow s).remoteId.IsSet →
    t.remoteMap.find (t.flow s).remoteId = some s
  toLocal : ∀ {k s}, t.remoteMap.find k = some s → (t.flow s).localId ≠ 0#32 →
    t.localMap.find (t.flow s).localId = some s

theorem Agree.init : Agree Tracker.init := ⟨nofun, nofun⟩

section Preserved

variable {t : Tracker} (agree : Agree t)
include agree

/-- Nothing but the indexes and the ids of the flows matters. -/
theorem Agree.frame {t' : Tracker} (locals : t'.localMap = t.localMap) (remotes : t'.remoteMap = t.remoteMap)
    (ids : ∀ r, (t'.flow r).localId = (t.flow r).localId ∧ (t'.flow r).remoteId = (t.flow r).remoteId) : Agree t' := by
  constructor
  · intro l s found key
    rw [locals] at found
    rw [(ids s).2] at key ⊢
    rw [remotes]
    exact agree.toRemote found key
  · intro k s found id
    rw [remotes] at found
    rw [(ids s).1] at id ⊢
    rw [locals]
    exact agree.toLocal found id

theorem Agree.newFlow (idx : Indexed t) {l : IdT} {k : CmFlowKey} (noLocal : t.localMap.find l = none)
    (noRemote : t.remoteMap.find k = none) : Agree (t.newFlow l k) := by
  constructor
  · intro l' r found key
    rw [Tracker.find_localMap_newFlow] at found
    split_ifs at found with here
    · cases found
      rw [Tracker.flow_newFlow, if_pos rfl] at key ⊢
      dsimp only at key ⊢
      have set : k.IsSet := by
        by_contra unset
        rw [if_neg unset] at key
        exact CmFlowKey.not_isSet_null key
      rw [if_pos set, Tracker.find_remoteMap_newFlow, if_pos ⟨rfl, set⟩]
    · rw [Tracker.flow_newFlow, if_neg (Nat.ne_of_lt (idx.local_lt found))] at key ⊢
      have stored := agree.toRemote found key
      have other : ¬ ((t.flow r).remoteId = k ∧ k.IsSet) := by
        rintro ⟨same, _⟩
        rw [same, noRemote] at stored
        cases stored
      rw [Tracker.find_remoteMap_newFlow, if_neg other]
      exact stored
  · intro k' r found id
    rw [Tracker.find_remoteMap_newFlow] at found
    split_ifs at found with here
    · cases found
      rw [Tracker.flow_newFlow, if_pos rfl] at id ⊢
      rw [Tracker.find_localMap_newFlow, if_pos ⟨rfl, id⟩]
    · rw [Tracker.flow_newFlow, if_neg (Nat.ne_of_lt (idx.remote_lt found))] at id ⊢
      have stored := agree.toLocal found id
      have other : ¬ ((t.flow r).localId = l ∧ l ≠ 0#32) := by
        rintro ⟨same, _⟩
        rw [same, noLocal] at stored
        cases stored
      rw [Tracker.find_localMap_newFlow, if_neg other]
      exact stored

theorem Agree.bindLocal (idx : Indexed t) {l : IdT} {k : CmFlowKey} {s : Ref} (noLocal : t.localMap.find l = none)
    (there : t.remoteMap.find k = some s) (unbound : (t.flow s).localId = 0#32) : Agree (t.bindLocal s l) := by
  constructor
  · intro l' r found key
    rw [Tracker.localMap_bindLocal, Table.find_insert] at found
    split_ifs at found with here
    · cases found
      rw [Tracker.flow_bindLocal, if_pos rfl, Tracker.remoteMap_bindLocal]
      exact idx.find_remoteId there
    · have other : r ≠ s := by
        rintro rfl
        exact idx.localId_ne found unbound
      rw [Tracker.flow_bindLocal, if_neg other] at key ⊢
      exact agree.toRemote found key
  · intro k' r found id
    by_cases same : r = s
    · subst same
      rw [Tracker.flow_bindLocal, if_pos rfl, Tracker.localMap_bindLocal]
      exact Table.find_insert_self _ _ _
    · rw [Tracker.flow_bindLocal, if_neg same] at id ⊢
      have stored := agree.toLocal found id
      have other : (t.flow r).localId ≠ l := by
        intro taken
        rw [taken, noLocal] at stored
        cases stored
      rw [Tracker.localMap_bindLocal, Table.find_insert, if_neg other]
      exact stored

theorem Agree.bindRemote (idx : Indexed t) {l : IdT} {k : CmFlowKey} {s : Ref} (here : t.localMap.find l = some s)
    (noRemote : t.remoteMap.find k = none) (unbound : ¬ (t.flow s).remoteId.IsSet) : Agree (t.bindRemote s k) := by
  constructor
  · intro l' r found key
    by_cases same : r = s
    · subst same
      rw [Tracker.flow_bindRemote, if_pos rfl, Tracker.remoteMap_bindRemote]
      exact Table.find_insert_self _ _ _
    · rw [Tracker.flow_bindRemote, if_neg same] at key ⊢
      have stored := agree.toRemote found key
      have other : (t.flow r).remoteId ≠ k := by
        intro taken
        rw [taken, noRemote] at stored
        cases stored
      rw [Tracker.remoteMap_bindRemote, Table.find_insert, if_neg other]
      exact stored
  · intro k' r found id
    rw [Tracker.remoteMap_bindRemote, Table.find_insert] at found
    split_ifs at found with taken
    · cases found
      rw [Tracker.flow_bindRemote, if_pos rfl, Tracker.localMap_bindRemote]
      exact idx.find_localId here
    · have other : r ≠ s := by
        rintro rfl
        exact unbound (idx.remoteId_isSet found)
      rw [Tracker.flow_bindRemote, if_neg other] at id ⊢
      exact agree.toLocal found id

theorem Agree.lookup (idx : Indexed t) {u : Tracker} {l : IdT} {k : CmFlowKey} {s : Ref} (found : Lookup t l k s u) :
    Agree u := by
  cases found with
  | byLocal => exact agree
  | byRemote => exact agree
  | created _ noLocal noRemote => exact agree.newFlow idx noLocal noRemote
  | bound _ noLocal there unbound => exact agree.bindLocal idx noLocal there unbound

theorem Agree.onEstablished (s : Ref) : Agree (t.onEstablished s) := by
  rcases t.onEstablished_cases s with ⟨same, _⟩ | ⟨_, _, _, after⟩
  · rw [same]; exact agree
  · rw [after]
    refine agree.frame rfl rfl fun r => ?_
    rw [Tracker.flow_register]
    split_ifs with same
    · rw [same]; exact ⟨rfl, rfl⟩
    · exact ⟨rfl, rfl⟩

end Preserved

/-! ## Erasing a flow -/

/-- The ids are those of `s`; a key given for a flow that has none is nobody's. -/
def OwnIds (t : Tracker) (s : Ref) (l : IdT) (k : CmFlowKey) : Prop :=
  (t.flow s).localId = l ∧ ((t.flow s).remoteId = k ∨ (¬ (t.flow s).remoteId.IsSet ∧ t.remoteMap.find k = none))

/-- The flow `s` is out of both indexes and every other flow is where it was. -/
structure Erased (t : Tracker) (s : Ref) (t' : Tracker) : Prop where
  noLocal : ∀ l, t'.localMap.find l ≠ some s
  noRemote : ∀ k, t'.remoteMap.find k ≠ some s
  locals : ∀ l r, r ≠ s → t.localMap.find l = some r → t'.localMap.find l = some r
  remotes : ∀ k r, r ≠ s → t.remoteMap.find k = some r → t'.remoteMap.find k = some r

section Erase

variable {t u : Tracker} {e : Event} {s : Ref}

/-- The entries that go are those of `s`. -/
theorem Lookup.erased_entries (found : Lookup t e.localId e.lookupKey s u) (idx : Indexed u) (agree : Agree u)
    (own : OwnIds u s e.localId e.remoteId) :
    (∀ r, u.localMap.find e.localId = some r → r = s) ∧ (∀ r, u.remoteMap.find e.remoteId = some r → r = s) := by
  constructor
  · intro r held
    have id := (idx.local_own held).1
    exact Option.some.inj (held.symm.trans (found.stored_local id))
  · intro r held
    by_cases zero : e.localId = 0#32
    · exact Option.some.inj (held.symm.trans (found.stored_key zero).2)
    · rcases own.2 with same | ⟨_, absent⟩
      · have stored := agree.toRemote (found.stored_local zero) (same ▸ (idx.remote_own held).1)
        rw [same, held] at stored
        exact Option.some.inj stored
      · rw [absent] at held
        cases held

/-- They are all the entries of `s`. -/
theorem OwnIds.entries {l : IdT} {k : CmFlowKey} (own : OwnIds u s l k) (idx : Indexed u) :
    (∀ l', u.localMap.find l' = some s → l' = l) ∧ (∀ k', u.remoteMap.find k' = some s → k' = k) := by
  constructor
  · intro l' held
    exact (idx.local_own held).2.symm.trans own.1
  · intro k' held
    rcases own.2 with same | ⟨unset, _⟩
    · exact (idx.remote_own held).2.symm.trans same
    · exact absurd (idx.remoteId_isSet held) unset

theorem Lookup.erased (found : Lookup t e.localId e.lookupKey s u) (idx : Indexed u) (agree : Agree u)
    (own : OwnIds u s e.localId e.remoteId) : Erased u s (u.dropFlow s e.localId e.remoteId) := by
  obtain ⟨locals, remotes⟩ := found.erased_entries idx agree own
  obtain ⟨allLocals, allRemotes⟩ := own.entries idx
  constructor
  · intro l held
    rw [Tracker.localMap_dropFlow, Table.find_erase] at held
    split_ifs at held with here
    exact here (allLocals l held)
  · intro k held
    rw [Tracker.remoteMap_dropFlow, Table.find_erase] at held
    split_ifs at held with here
    exact here (allRemotes k held)
  · intro l r other held
    have kept : l ≠ e.localId := fun same => other (locals r (same ▸ held))
    rw [Tracker.localMap_dropFlow, Table.find_erase, if_neg kept]
    exact held
  · intro k r other held
    have kept : k ≠ e.remoteId := fun same => other (remotes r (same ▸ held))
    rw [Tracker.remoteMap_dropFlow, Table.find_erase, if_neg kept]
    exact held

/-- Entries only go with both ends. -/
theorem Agree.erased {t' : Tracker} (agree : Agree u) (gone : Erased u s t')
    (locals : ∀ {l r}, t'.localMap.find l = some r → u.localMap.find l = some r)
    (remotes : ∀ {k r}, t'.remoteMap.find k = some r → u.remoteMap.find k = some r)
    (ids : ∀ r, (t'.flow r).localId = (u.flow r).localId ∧ (t'.flow r).remoteId = (u.flow r).remoteId) : Agree t' := by
  constructor
  · intro l r held key
    have other : r ≠ s := fun same => gone.noLocal l (same ▸ held)
    rw [(ids r).2] at key ⊢
    exact gone.remotes _ r other (agree.toRemote (locals held) key)
  · intro k r held id
    have other : r ≠ s := fun same => gone.noRemote k (same ▸ held)
    rw [(ids r).1] at id ⊢
    exact gone.locals _ r other (agree.toLocal (remotes held) id)

theorem Agree.dropFlow {l : IdT} {k : CmFlowKey} (agree : Agree u) (gone : Erased u s (u.dropFlow s l k)) :
    Agree (u.dropFlow s l k) := by
  refine agree.erased gone ?_ ?_ ?_
  · intro l' r held
    rw [Tracker.localMap_dropFlow, Table.find_erase] at held
    split_ifs at held
    exact held
  · intro k' r held
    rw [Tracker.remoteMap_dropFlow, Table.find_erase] at held
    split_ifs at held
    exact held
  · intro r
    by_cases here : r = s
    · obtain ⟨flag, after, _⟩ := u.flow_dropFlow_self s l k
      rw [here, after]
      exact ⟨rfl, rfl⟩
    · rw [Tracker.flow_dropFlow_of_ne here]
      exact ⟨rfl, rfl⟩

/-- A flow that the lookup of an erasing handler enters has the ids of the packet. -/
theorem Lookup.ownIds (found : Lookup t e.localId e.lookupKey s u) (idx : Indexed t)
    (act : action e.op (u.flow s).state = .erase)
    (own : t.findFlow e.localId e.lookupKey = some s → OwnIds t s e.localId e.remoteId) :
    OwnIds u s e.localId e.remoteId := by
  cases found with
  | byLocal id held => exact own (by rw [Tracker.findFlow, if_pos id]; exact held)
  | byRemote zero key held => exact own (by rw [Tracker.findFlow, if_neg (not_not_intro zero)]; exact held)
  | created =>
    rw [Tracker.flow_newFlow, if_pos rfl] at act
    have key : e.lookupKey = e.remoteId := by
      unfold Event.lookupKey
      cases op : e.op <;> rw [op] at act <;> first | rfl | cases act
    rw [OwnIds, Tracker.flow_newFlow, if_pos rfl, key]
    refine ⟨rfl, ?_⟩
    by_cases set : e.remoteId.IsSet
    · exact Or.inl (if_pos set)
    · dsimp only
      rw [if_neg set]
      exact Or.inr ⟨CmFlowKey.not_isSet_null, (idx.newFlow _ _).no_unset set⟩
  | bound id noLocal held unbound =>
    have stored := idx.remote_own held
    have key : e.lookupKey = e.remoteId := by
      rcases e.lookupKey_eq with same | null
      · exact same
      · exact absurd (null ▸ stored.1) CmFlowKey.not_isSet_null
    rw [OwnIds, Tracker.flow_bindLocal, if_pos rfl]
    exact ⟨rfl, Or.inl (stored.2.trans key)⟩

/-- A flow that is erased whole was named by its own ids. -/
theorem Erased.ownIds (gone : Erased t s (t.dropFlow s e.localId e.remoteId)) (idx : Indexed t) (agree : Agree t)
    (found : Lookup t e.localId e.lookupKey s t) : OwnIds t s e.localId e.remoteId := by
  by_cases zero : e.localId = 0#32
  · obtain ⟨key, held⟩ := found.stored_key zero
    refine ⟨?_, Or.inl (idx.remote_own held).2⟩
    -- otherwise the flow is left under its local id, which is not the one erased
    by_contra other
    rw [zero] at other
    have here := agree.toLocal held other
    apply gone.noLocal (t.flow s).localId
    rw [Tracker.localMap_dropFlow, Table.find_erase, if_neg (zero.symm ▸ other)]
    exact here
  · have here := found.stored_local zero
    refine ⟨(idx.local_own here).2, ?_⟩
    by_cases set : (t.flow s).remoteId.IsSet
    · left
      by_contra other
      apply gone.noRemote (t.flow s).remoteId
      rw [Tracker.remoteMap_dropFlow, Table.find_erase, if_neg other]
      exact agree.toRemote here set
    · right
      refine ⟨set, ?_⟩
      cases held : t.remoteMap.find e.remoteId with
      | none => rfl
      | some r =>
        have other : r ≠ s := by
          rintro rfl
          exact set (idx.remoteId_isSet held)
        have kept := gone.remotes _ r other held
        rw [Tracker.remoteMap_dropFlow, Table.find_erase_self] at kept
        cases kept

end Erase

/-- Every effect but an erasure keeps the agreement. -/
theorem Agree.effect {t u t' : Tracker} {e : Event} {s : Ref} (agree : Agree u) (idx : Indexed u)
    (found : Lookup t e.localId e.lookupKey s u) (effect : Effect e s u t')
    (own : action e.op (u.flow s).state = .erase → OwnIds u s e.localId e.remoteId) : Agree t' := by
  have update : ∀ (a : Action) (q : QpnT), Agree (u.modify s fun f => a.update q f) := by
    intro a q
    refine agree.frame rfl rfl fun r => ?_
    rw [Tracker.flow_modify]
    split_ifs with same
    · rw [same, update_localId, update_remoteId]
      exact ⟨rfl, rfl⟩
    · exact ⟨rfl, rfl⟩
  cases effect with
  | kept => exact agree
  | sentReq => exact update _ _
  | receivedReq => exact update _ _
  | replied => exact update _ _
  | @repliedBound q a act rep qpn key noRemote unbound =>
    have id : e.localId ≠ 0#32 := by
      intro zero
      rw [(found.stored_key zero).2] at noRemote
      cases noRemote
    refine (update a q).bindRemote (idx.modify ⟨update_localId a q _, update_remoteId a q _⟩) (found.stored_local id)
      noRemote ?_
    rw [Tracker.flow_modify_self, update_remoteId]
    exact unbound
  | established => exact (update .establish 0#32).onEstablished s
  | disconnected => exact update _ _
  | erased act => exact agree.dropFlow (found.erased idx agree (own act))

/-! ## Runs -/

/-- A REJ or DREP that erases a stored flow carries this flow's ids. -/
def ErasesOwn (t : Tracker) (x : Packet) : Prop :=
  ∀ e s, Reads x e → t.findFlow e.localId e.lookupKey = some s → action e.op (t.flow s).state = .erase →
    OwnIds t s e.localId e.remoteId

/-- When the handler of `x` erases the flow it looked up, this flow and no other leaves the indexes. -/
def ErasesWhole (t : Tracker) (x : Packet) (t' : Tracker) : Prop :=
  ∀ e s u, Reads x e → t.getFlow e.localId e.lookupKey = .ok (s, u) → action e.op (u.flow s).state = .erase →
    Erased t s t'

theorem Lookup.of_findFlow {t : Tracker} {l : IdT} {k : CmFlowKey} {s : Ref} (idx : Indexed t)
    (held : t.findFlow l k = some s) : Lookup t l k s t := by
  unfold Tracker.findFlow at held
  split_ifs at held with id
  · exact .byLocal id held
  · exact .byRemote (not_not.mp id) (idx.remote_own held).1 held

theorem Agree.feed {t t' : Tracker} {x : Packet} (idx : Indexed t) (agree : Agree t) (own : ErasesOwn t x)
    (now : t.feed x = .ok t') : Agree t' ∧ ErasesWhole t x t' := by
  rcases feed_ok now with ⟨silent, rfl⟩ | ⟨e, read, stepped⟩
  · refine ⟨agree, fun e s u read => ?_⟩
    rw [Reads, silent] at read
    cases read
  · obtain ⟨s, u, found, effect⟩ := (step_iff idx).mp stepped
    have mine : action e.op (u.flow s).state = .erase → OwnIds u s e.localId e.remoteId := by
      intro act
      refine found.ownIds idx act fun held => own e s read held ?_
      have same := found.getFlow.symm.trans (Lookup.of_findFlow idx held).getFlow
      cases same
      exact act
    refine ⟨(agree.lookup idx found).effect (found.indexed idx) found effect mine, ?_⟩
    intro e' s' u' read' got act
    have same : e' = e := Option.some.inj (Except.ok.inj (read'.symm.trans read))
    subst same
    cases found.getFlow.symm.trans got
    have after : t' = u.dropFlow s e'.localId e'.remoteId :=
      Except.ok.inj (stepped.symm.trans (found.step_erase act))
    have gone := found.erased (found.indexed idx) (agree.lookup idx found) (mine act)
    rw [after]
    exact ⟨gone.noLocal, gone.noRemote, fun l r other held => gone.locals l r other (found.keeps_local held),
      fun k r other held => gone.remotes k r other (found.keeps_remote held)⟩

/-- The condition is also needed. -/
theorem Agree.erasesOwn {t : Tracker} {x : Packet} (idx : Indexed t) (agree : Agree t)
    (whole : ∀ t', t.feed x = .ok t' → ErasesWhole t x t') : ErasesOwn t x := by
  intro e s read held act
  have found := Lookup.of_findFlow idx held
  have now : t.feed x = .ok (t.dropFlow s e.localId e.remoteId) := (feed_of_event read).trans (found.step_erase act)
  exact (whole _ now e s t read found.getFlow act).ownIds idx agree found

/-- **The indexes agree as long as erasures name the flow they erase.** In a run whose REJ and
DREP packets carry the ids of the flow they erase the indexes agree in every state, an erased
flow leaves both of them and no other flow leaves any; and only in such runs. -/
theorem indexes_agree (xs : List Packet) :
    (Along Tracker.feed ErasesOwn Tracker.init xs →
      ∀ t, run Tracker.feed Tracker.init xs = .ok t → Agree t) ∧
    (Along Tracker.feed ErasesOwn Tracker.init xs ↔
      Along Tracker.feed (fun m x => ∀ m', m.feed x = .ok m' → Agree m' ∧ ErasesWhole m x m') Tracker.init xs) := by
  have keep : ∀ m x m', Indexed m ∧ Agree m → ErasesOwn m x → m.feed x = .ok m' → Indexed m' ∧ Agree m' := by
    rintro m x m' ⟨idx, agree⟩ own now
    exact ⟨idx.feed now, (agree.feed idx own now).1⟩
  constructor
  · intro along t ran
    exact (along.invariant keep ⟨Indexed.init, Agree.init⟩ ran).2
  · refine along_congr keep ?_ ⟨Indexed.init, Agree.init⟩
    rintro m x ⟨idx, agree⟩
    exact ⟨fun own m' now => agree.feed idx own now, fun whole => agree.erasesOwn idx fun m' now => (whole m' now).2⟩

/-- A REJ that names the flow `1` and another id of its peer: the flow stays in `remote_map`. -/
theorem indexes_disagree : ∃ t, run Tracker.feed Tracker.init
      [fromHost cmReqAttrId 0x0200000a#32 1#32 0#32 0x11#32, fromNet cmRepAttrId 0x0200000a#32 1#32 2#32 0x22#32,
        fromNet cmRejAttrId 0x0200000a#32 1#32 3#32 0#32] = .ok t ∧
    ¬ ∀ k s, t.remoteMap.find k = some s → (t.flow s).localId ≠ 0#32 → t.localMap.find (t.flow s).localId = some s := by
  obtain ⟨t, ran, after⟩ := map_ok (show (run Tracker.feed Tracker.init
      [fromHost cmReqAttrId 0x0200000a#32 1#32 0#32 0x11#32, fromNet cmRepAttrId 0x0200000a#32 1#32 2#32 0x22#32,
        fromNet cmRejAttrId 0x0200000a#32 1#32 3#32 0#32]).map
        (fun t => (t.remoteMap.find ⟨0x0200000a#32, 2#32⟩, (t.flow 0).localId, t.localMap.find 1#32)) =
    .ok (some 0, 1#32, none) by decide +kernel)
  simp only [Prod.mk.injEq] at after
  obtain ⟨there, id, gone⟩ := after
  refine ⟨t, ran, fun claim => ?_⟩
  have stored := claim _ _ there (by rw [id]; decide)
  rw [id, gone] at stored
  cases stored

end ConntrackCm
