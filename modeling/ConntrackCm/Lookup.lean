import ConntrackCm.Index

/-!
# Looking a flow up

`get_flow` and `add_new_flow` on an indexed tracker. A lookup ends in one of four ways
(`Lookup`): the flow is there under its local id, or under its remote key, or it is created,
or a flow known by its remote key only takes the local id. `getFlow_total` adds the two ways
it can fail.
-/

namespace ConntrackCm

open Lib

/-- How `get_flow` finds the flow `s`, and the tracker it leaves. -/
inductive Lookup (t : Tracker) (l : IdT) (k : CmFlowKey) : Ref → Tracker → Prop where
  | byLocal {s : Ref} (id : l ≠ 0#32) (found : t.localMap.find l = some s) : Lookup t l k s t
  | byRemote {s : Ref} (id : l = 0#32) (key : k.IsSet) (found : t.remoteMap.find k = some s) : Lookup t l k s t
  | created (ids : l ≠ 0#32 ∨ k.IsSet) (noLocal : t.localMap.find l = none) (noRemote : t.remoteMap.find k = none) :
      Lookup t l k t.flows.next (t.newFlow l k)
  /-- The local id is entered for a flow known by its remote key only. -/
  | bound {s : Ref} (id : l ≠ 0#32) (noLocal : t.localMap.find l = none) (found : t.remoteMap.find k = some s)
      (unbound : (t.flow s).localId = 0#32) : Lookup t l k s (t.bindLocal s l)

/-- The entry `get_flow` and `erase_flow` go to. -/
def Tracker.findFlow (t : Tracker) (l : IdT) (k : CmFlowKey) : Option Ref :=
  if l ≠ 0#32 then t.localMap.find l else t.remoteMap.find k

/-! ## `add_new_flow`, case by case -/

section AddNewFlow

variable {t : Tracker} {l : IdT} {k : CmFlowKey} {s r : Ref}

theorem addNewFlow_created (ids : l ≠ 0#32 ∨ k.IsSet) (noLocal : t.localMap.find l = none)
    (noRemote : t.remoteMap.find k = none) : t.addNewFlow l k = .ok (t.flows.next, t.newFlow l k) := by
  have fresh : (t.flows.alloc ({} : FlowState)).get t.flows.next = {} := Heap.get_alloc_fresh _ _
  simp only [Tracker.addNewFlow, noLocal, noRemote, bind_of_ok (check_pos ids), Tracker.makeShared, Tracker.bindIds,
    Tracker.bindLocal, Tracker.bindRemote, Tracker.modify, Tracker.flow, Tracker.newFlow, Heap.modify_alloc]
  by_cases id : l = 0#32 <;> by_cases key : k.IsSet <;>
    simp [id, key, check, Heap.modify_alloc, pure_bind] <;> rfl

/-- A flow known by its remote key only takes the local id. -/
theorem addNewFlow_bound (id : l ≠ 0#32) (noLocal : t.localMap.find l = none) (found : t.remoteMap.find k = some s)
    (unbound : (t.flow s).localId = 0#32) : t.addNewFlow l k = .ok (s, t.bindLocal s l) := by
  simp [Tracker.addNewFlow, Tracker.bindIds, noLocal, found, id, unbound, check_pos]

theorem addNewFlow_bound_fails (id : l ≠ 0#32) (noLocal : t.localMap.find l = none)
    (found : t.remoteMap.find k = some s)
    (taken : (t.flow s).localId ≠ 0#32) : t.addNewFlow l k = .error (.assertion .addNewFlowLocalId) := by
  simp [Tracker.addNewFlow, Tracker.bindIds, noLocal, found, id, taken, check_neg]

/-- With local id 0 a flow found by its key is left as it is. -/
theorem addNewFlow_zero (noLocal : t.localMap.find 0#32 = none) (found : t.remoteMap.find k = some s) :
    t.addNewFlow 0#32 k = .ok (s, t) := by
  simp [Tracker.addNewFlow, Tracker.bindIds, noLocal, found]
  rfl

theorem addNewFlow_stored (here : t.localMap.find l = some s) (there : t.remoteMap.find k = some s)
    (own : (t.flow s).localId = l ∧ (t.flow s).remoteId = k) : t.addNewFlow l k = .ok (s, t) := by
  simp [Tracker.addNewFlow, here, there, check_pos, own]
  rfl

theorem addNewFlow_clash (here : t.localMap.find l = some s) (there : t.remoteMap.find k = some r) (other : r ≠ s) :
    t.addNewFlow l k = .error (.assertion .addNewFlowSame) := by
  simp [Tracker.addNewFlow, here, there, check_neg, other.symm]
  rfl

/-- A flow known by its local id only takes the remote key. -/
theorem addNewFlow_remote (here : t.localMap.find l = some s) (noRemote : t.remoteMap.find k = none) (key : k.IsSet)
    (unbound : ¬ (t.flow s).remoteId.IsSet) : t.addNewFlow l k = .ok (s, t.bindRemote s k) := by
  simp [Tracker.addNewFlow, Tracker.bindIds, here, noRemote, key, unbound, check_pos]

theorem addNewFlow_remote_fails (here : t.localMap.find l = some s) (noRemote : t.remoteMap.find k = none)
    (key : k.IsSet) (taken : (t.flow s).remoteId.IsSet) :
    t.addNewFlow l k = .error (.assertion .addNewFlowRemoteId) := by
  simp [Tracker.addNewFlow, Tracker.bindIds, here, noRemote, key, taken, check_neg]

/-- An unset key binds nothing. -/
theorem addNewFlow_unset (here : t.localMap.find l = some s) (noRemote : t.remoteMap.find k = none) (key : ¬ k.IsSet) :
    t.addNewFlow l k = .ok (s, t) := by
  simp [Tracker.addNewFlow, Tracker.bindIds, here, noRemote, key]
  rfl

end AddNewFlow

/-! ## `get_flow` -/

theorem Lookup.getFlow {t u : Tracker} {l : IdT} {k : CmFlowKey} {s : Ref} (h : Lookup t l k s u) :
    t.getFlow l k = .ok (s, u) := by
  cases h with
  | byLocal id found => simp [Tracker.getFlow, check_pos, id, found]
  | byRemote id key found => simp [Tracker.getFlow, check_pos, id, key, found]
  | created ids noLocal noRemote =>
    have absent : (if l ≠ 0#32 then t.localMap.find l else t.remoteMap.find k) = none := by
      split <;> assumption
    simp only [Tracker.getFlow, bind_of_ok (check_pos ids), absent]
    exact addNewFlow_created ids noLocal noRemote
  | bound id noLocal found unbound =>
    simp only [Tracker.getFlow, bind_of_ok (check_pos (Or.inl id : l ≠ 0#32 ∨ k.IsSet)), if_pos id, noLocal]
    exact addNewFlow_bound id noLocal found unbound

/-- `get_flow` ends in one of the four ways or fails an assertion, and then for the reason
that the source's assert names. -/
theorem getFlow_total {t : Tracker} (idx : Indexed t) (l : IdT) (k : CmFlowKey) :
    (∃ s u, Lookup t l k s u) ∨
    (¬ (l ≠ 0#32 ∨ k.IsSet) ∧ t.getFlow l k = .error (.assertion .getFlowIds)) ∨
    (∃ s, l ≠ 0#32 ∧ t.localMap.find l = none ∧ t.remoteMap.find k = some s ∧ (t.flow s).localId ≠ 0#32 ∧
      t.getFlow l k = .error (.assertion .addNewFlowLocalId)) := by
  by_cases ids : l ≠ 0#32 ∨ k.IsSet
  · by_cases id : l = 0#32
    · have key : k.IsSet := ids.resolve_left (not_not_intro id)
      cases found : t.remoteMap.find k with
      | some s => exact Or.inl ⟨s, t, .byRemote id key found⟩
      | none => exact Or.inl ⟨_, _, .created ids (id ▸ idx.no_zero) found⟩
    · cases here : t.localMap.find l with
      | some s => exact Or.inl ⟨s, t, .byLocal id here⟩
      | none =>
        cases found : t.remoteMap.find k with
        | none => exact Or.inl ⟨_, _, .created ids here found⟩
        | some s =>
          by_cases unbound : (t.flow s).localId = 0#32
          · exact Or.inl ⟨s, _, .bound id here found unbound⟩
          · refine Or.inr (Or.inr ⟨s, id, rfl, rfl, unbound, ?_⟩)
            simp only [Tracker.getFlow, bind_of_ok (check_pos ids), if_pos id, here]
            exact addNewFlow_bound_fails id here found unbound
  · refine Or.inr (Or.inl ⟨ids, ?_⟩)
    simp only [Tracker.getFlow, check_neg ids]
    rfl

theorem getFlow_ok {t u : Tracker} (idx : Indexed t) {l : IdT} {k : CmFlowKey} {s : Ref}
    (h : t.getFlow l k = .ok (s, u)) : Lookup t l k s u := by
  rcases getFlow_total idx l k with ⟨s', u', found⟩ | ⟨_, failed⟩ | ⟨_, _, _, _, _, failed⟩
  · have same := found.getFlow.symm.trans h
    cases same
    exact found
  · rw [failed] at h; cases h
  · rw [failed] at h; cases h

namespace Lookup

variable {t u : Tracker} {l : IdT} {k : CmFlowKey} {s : Ref}

theorem ids (h : Lookup t l k s u) : l ≠ 0#32 ∨ k.IsSet := by
  cases h with
  | byLocal id => exact Or.inl id
  | byRemote _ key => exact Or.inr key
  | created ids => exact ids
  | bound id => exact Or.inl id

/-- The flow a lookup returns is in the index the lookup went through. -/
theorem stored_local (h : Lookup t l k s u) (id : l ≠ 0#32) : u.localMap.find l = some s := by
  cases h with
  | byLocal _ found => exact found
  | byRemote zero => exact absurd zero id
  | created => simp [Tracker.newFlow, id]
  | bound => simp

theorem stored_remote (h : Lookup t l k s u) (zero : l = 0#32) : k.IsSet ∧ u.remoteMap.find k = some s := by
  cases h with
  | byLocal id => exact absurd zero id
  | byRemote _ key found => exact ⟨key, found⟩
  | created ids =>
    have key : k.IsSet := ids.resolve_left (not_not_intro zero)
    exact ⟨key, by simp [Tracker.newFlow, key]⟩
  | bound id => exact absurd zero id

/-- A lookup by the local id alone finds the flow or creates it. -/
theorem null_cases (h : Lookup t l .null s u) (idx : Indexed t) :
    l ≠ 0#32 ∧ ((t.localMap.find l = some s ∧ u = t) ∨
      (t.localMap.find l = none ∧ s = t.flows.next ∧ u = t.newFlow l .null)) := by
  cases h with
  | byLocal id found => exact ⟨id, Or.inl ⟨found, rfl⟩⟩
  | byRemote _ key => exact absurd key CmFlowKey.not_isSet_null
  | created ids noLocal =>
    exact ⟨ids.resolve_right CmFlowKey.not_isSet_null, Or.inr ⟨noLocal, rfl, rfl⟩⟩
  | bound _ _ found => exact absurd (idx.remote_own found).1 CmFlowKey.not_isSet_null

/-- A lookup takes no entry out of the indexes. -/
theorem keeps_local (h : Lookup t l k s u) {l' : IdT} {r : Ref} (held : t.localMap.find l' = some r) :
    u.localMap.find l' = some r := by
  cases h with
  | byLocal => exact held
  | byRemote => exact held
  | created _ noLocal =>
    rw [Tracker.find_localMap_newFlow, if_neg]
    · exact held
    · rintro ⟨rfl, _⟩
      rw [noLocal] at held
      cases held
  | bound _ noLocal =>
    rw [Tracker.localMap_bindLocal, Table.find_insert, if_neg]
    · exact held
    · rintro rfl
      rw [noLocal] at held
      cases held

theorem keeps_remote (h : Lookup t l k s u) {k' : CmFlowKey} {r : Ref} (held : t.remoteMap.find k' = some r) :
    u.remoteMap.find k' = some r := by
  cases h with
  | byLocal => exact held
  | byRemote => exact held
  | created _ _ noRemote =>
    rw [Tracker.find_remoteMap_newFlow, if_neg]
    · exact held
    · rintro ⟨rfl, _⟩
      rw [noRemote] at held
      cases held
  | bound => exact held

/-! New entries are those of the flow it returns. -/

theorem held_before (h : Lookup t l k s u) {l' : IdT} {r : Ref} (other : r ≠ s) (held : u.localMap.find l' = some r) :
    t.localMap.find l' = some r := by
  cases h with
  | byLocal => exact held
  | byRemote => exact held
  | created =>
    rw [Tracker.find_localMap_newFlow] at held
    split_ifs at held
    · exact absurd (Option.some.inj held).symm other
    · exact held
  | bound =>
    rw [Tracker.localMap_bindLocal, Table.find_insert] at held
    split_ifs at held
    · exact absurd (Option.some.inj held).symm other
    · exact held

theorem remote_before (h : Lookup t l k s u) {k' : CmFlowKey} {r : Ref} (other : r ≠ s)
    (held : u.remoteMap.find k' = some r) : t.remoteMap.find k' = some r := by
  cases h with
  | byLocal => exact held
  | byRemote => exact held
  | created =>
    rw [Tracker.find_remoteMap_newFlow] at held
    split_ifs at held
    · exact absurd (Option.some.inj held).symm other
    · exact held
  | bound => exact held

/-! A lookup changes the flow it returns and the entries of its two ids, and nothing else. -/

theorem flow_of_ne (h : Lookup t l k s u) {r : Ref} (other : r ≠ s) : u.flow r = t.flow r := by
  cases h with
  | byLocal => rfl
  | byRemote => rfl
  | created => rw [Tracker.flow_newFlow, if_neg other]
  | bound => rw [Tracker.flow_bindLocal, if_neg other]

theorem localMap_of_ne (h : Lookup t l k s u) {l' : IdT} (other : l' ≠ l) :
    u.localMap.find l' = t.localMap.find l' := by
  cases h with
  | byLocal => rfl
  | byRemote => rfl
  | created => rw [Tracker.find_localMap_newFlow, if_neg (fun here => other here.1)]
  | bound => rw [Tracker.localMap_bindLocal, Table.find_insert, if_neg other]

theorem remoteMap_of_ne (h : Lookup t l k s u) {k' : CmFlowKey} (other : k' ≠ k) :
    u.remoteMap.find k' = t.remoteMap.find k' := by
  cases h with
  | byLocal => rfl
  | byRemote => rfl
  | created => rw [Tracker.find_remoteMap_newFlow, if_neg (fun here => other here.1)]
  | bound => rfl

/-- A lookup leaves the query table alone. -/
theorem qpnMap_eq (h : Lookup t l k s u) : u.qpnMap = t.qpnMap := by
  cases h <;> rfl

theorem next_le (h : Lookup t l k s u) : t.flows.next ≤ u.flows.next := by
  cases h with
  | created => exact Nat.le_succ _
  | _ => exact Nat.le_refl _

theorem lt_next (h : Lookup t l k s u) (idx : Indexed t) : s < u.flows.next := by
  cases h with
  | byLocal _ found => exact idx.local_lt found
  | byRemote _ _ found => exact idx.remote_lt found
  | created => exact Nat.lt_succ_self _
  | bound _ _ found => exact idx.remote_lt found

theorem indexed (h : Lookup t l k s u) (idx : Indexed t) : Indexed u := by
  cases h with
  | byLocal => exact idx
  | byRemote => exact idx
  | created => exact idx.newFlow l k
  | bound id _ found unbound => exact idx.bindLocal id unbound (idx.remote_lt found)

/-- The flow a lookup returns carries the local id it was looked up by. -/
theorem localId_eq (h : Lookup t l k s u) (idx : Indexed u) (id : l ≠ 0#32) : (u.flow s).localId = l :=
  (idx.local_own (h.stored_local id)).2

end Lookup

end ConntrackCm
