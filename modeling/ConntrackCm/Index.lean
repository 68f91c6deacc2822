import ConntrackCm.Machine

/-!
# The index invariant

What each table reads after an update of the tracker, and the invariant everything else
rests on: index keys are the flows' own ids (`Indexed`). Ids are entered at two points of
`add_new_flow` and never rewritten, so it is enough to look at the two bindings, at the
creation of a flow and at the erasures.
-/

namespace ConntrackCm

open Lib

namespace Tracker

/-- The two indexes as the roots of the flow objects. -/
def roots (t : Tracker) : IdT ⊕ CmFlowKey → Option Ref
  | .inl l => t.localMap.find l
  | .inr k => t.remoteMap.find k

/-! ## Reading the tables after an update -/

@[simp] theorem localMap_modify (t : Tracker) (s : Ref) (g : FlowState → FlowState) :
    (t.modify s g).localMap = t.localMap := rfl
@[simp] theorem remoteMap_modify (t : Tracker) (s : Ref) (g : FlowState → FlowState) :
    (t.modify s g).remoteMap = t.remoteMap := rfl
@[simp] theorem qpnMap_modify (t : Tracker) (s : Ref) (g : FlowState → FlowState) :
    (t.modify s g).qpnMap = t.qpnMap := rfl
@[simp] theorem next_modify (t : Tracker) (s : Ref) (g : FlowState → FlowState) :
    (t.modify s g).flows.next = t.flows.next := rfl

theorem flow_modify (t : Tracker) (s r : Ref) (g : FlowState → FlowState) :
    (t.modify s g).flow r = if r = s then g (t.flow s) else t.flow r := rfl

@[simp] theorem flow_modify_self (t : Tracker) (s : Ref) (g : FlowState → FlowState) :
    (t.modify s g).flow s = g (t.flow s) := by
  simp [flow_modify]

theorem flow_modify_of_ne {t : Tracker} {s r : Ref} {g : FlowState → FlowState} (other : r ≠ s) :
    (t.modify s g).flow r = t.flow r := by
  simp [flow_modify, other]

@[simp] theorem localMap_bindLocal (t : Tracker) (s : Ref) (l : IdT) :
    (t.bindLocal s l).localMap = t.localMap.insert l s := rfl
@[simp] theorem remoteMap_bindLocal (t : Tracker) (s : Ref) (l : IdT) :
    (t.bindLocal s l).remoteMap = t.remoteMap := rfl
@[simp] theorem qpnMap_bindLocal (t : Tracker) (s : Ref) (l : IdT) : (t.bindLocal s l).qpnMap = t.qpnMap := rfl
@[simp] theorem next_bindLocal (t : Tracker) (s : Ref) (l : IdT) :
    (t.bindLocal s l).flows.next = t.flows.next := rfl
theorem flow_bindLocal (t : Tracker) (s r : Ref) (l : IdT) :
    (t.bindLocal s l).flow r = if r = s then { t.flow s with localId := l } else t.flow r := rfl

@[simp] theorem localMap_bindRemote (t : Tracker) (s : Ref) (k : CmFlowKey) :
    (t.bindRemote s k).localMap = t.localMap := rfl
@[simp] theorem remoteMap_bindRemote (t : Tracker) (s : Ref) (k : CmFlowKey) :
    (t.bindRemote s k).remoteMap = t.remoteMap.insert k s := rfl
@[simp] theorem qpnMap_bindRemote (t : Tracker) (s : Ref) (k : CmFlowKey) :
    (t.bindRemote s k).qpnMap = t.qpnMap := rfl
@[simp] theorem next_bindRemote (t : Tracker) (s : Ref) (k : CmFlowKey) :
    (t.bindRemote s k).flows.next = t.flows.next := rfl
theorem flow_bindRemote (t : Tracker) (s r : Ref) (k : CmFlowKey) :
    (t.bindRemote s k).flow r = if r = s then { t.flow s with remoteId := k } else t.flow r := rfl

/-- The flow's entry goes into the query table. -/
def register (t : Tracker) (s : Ref) : Tracker :=
  { t with qpnMap := t.qpnMap.insert (t.flow s).getFlowKey (t.flow s).localQpn }.modify s
    fun f => { f with inQpnMap := true }

/-- The flow's entry is taken out of the query table. -/
def unregister (t : Tracker) (s : Ref) : Tracker :=
  { t with qpnMap := t.qpnMap.erase (t.flow s).getFlowKey }.modify s fun f => { f with inQpnMap := false }

@[simp] theorem localMap_register (t : Tracker) (s : Ref) : (t.register s).localMap = t.localMap := rfl
@[simp] theorem remoteMap_register (t : Tracker) (s : Ref) : (t.register s).remoteMap = t.remoteMap := rfl
@[simp] theorem qpnMap_register (t : Tracker) (s : Ref) :
    (t.register s).qpnMap = t.qpnMap.insert (t.flow s).getFlowKey (t.flow s).localQpn := rfl
@[simp] theorem next_register (t : Tracker) (s : Ref) : (t.register s).flows.next = t.flows.next := rfl
theorem flow_register (t : Tracker) (s r : Ref) :
    (t.register s).flow r = if r = s then { t.flow s with inQpnMap := true } else t.flow r := rfl

@[simp] theorem localMap_unregister (t : Tracker) (s : Ref) : (t.unregister s).localMap = t.localMap := rfl
@[simp] theorem remoteMap_unregister (t : Tracker) (s : Ref) : (t.unregister s).remoteMap = t.remoteMap := rfl
@[simp] theorem qpnMap_unregister (t : Tracker) (s : Ref) :
    (t.unregister s).qpnMap = t.qpnMap.erase (t.flow s).getFlowKey := rfl
@[simp] theorem next_unregister (t : Tracker) (s : Ref) : (t.unregister s).flows.next = t.flows.next := rfl
theorem flow_unregister (t : Tracker) (s r : Ref) :
    (t.unregister s).flow r = if r = s then { t.flow s with inQpnMap := false } else t.flow r := rfl

/-- `on_established` registers the flow when both QPNs are known and the key is free. -/
theorem onEstablished_cases (t : Tracker) (s : Ref) :
    (t.onEstablished s = t ∧ ((t.flow s).localQpn = 0#32 ∨ (t.flow s).remoteQpn = 0#32 ∨
      t.qpnMap.find (t.flow s).getFlowKey ≠ none)) ∨
    ((t.flow s).localQpn ≠ 0#32 ∧ (t.flow s).remoteQpn ≠ 0#32 ∧ t.qpnMap.find (t.flow s).getFlowKey = none ∧
      t.onEstablished s = t.register s) := by
  unfold onEstablished
  dsimp only
  split_ifs with zero
  · exact Or.inl ⟨rfl, by tauto⟩
  · cases present : t.qpnMap.find (t.flow s).getFlowKey with
    | some q => exact Or.inl ⟨rfl, Or.inr (Or.inr (by simp))⟩
    | none => exact Or.inr ⟨by tauto, by tauto, rfl, rfl⟩

/-- `on_disconnected` unregisters the flow when both QPNs are known and the key has an entry. -/
theorem onDisconnected_cases (t : Tracker) (s : Ref) :
    (t.onDisconnected s = t ∧ ((t.flow s).localQpn = 0#32 ∨ (t.flow s).remoteQpn = 0#32 ∨
      t.qpnMap.find (t.flow s).getFlowKey = none)) ∨
    ((t.flow s).localQpn ≠ 0#32 ∧ (t.flow s).remoteQpn ≠ 0#32 ∧ t.qpnMap.find (t.flow s).getFlowKey ≠ none ∧
      t.onDisconnected s = t.unregister s) := by
  unfold onDisconnected
  dsimp only
  split_ifs with zero
  · exact Or.inl ⟨rfl, by tauto⟩
  · cases present : t.qpnMap.find (t.flow s).getFlowKey with
    | none => exact Or.inl ⟨rfl, Or.inr (Or.inr rfl)⟩
    | some q => exact Or.inr ⟨by tauto, by tauto, by simp, rfl⟩

@[simp] theorem localMap_onEstablished (t : Tracker) (s : Ref) : (t.onEstablished s).localMap = t.localMap := by
  rcases t.onEstablished_cases s with ⟨same, _⟩ | ⟨_, _, _, after⟩
  · rw [same]
  · rw [after]; rfl

@[simp] theorem remoteMap_onEstablished (t : Tracker) (s : Ref) : (t.onEstablished s).remoteMap = t.remoteMap := by
  rcases t.onEstablished_cases s with ⟨same, _⟩ | ⟨_, _, _, after⟩
  · rw [same]
  · rw [after]; rfl

@[simp] theorem next_onEstablished (t : Tracker) (s : Ref) : (t.onEstablished s).flows.next = t.flows.next := by
  rcases t.onEstablished_cases s with ⟨same, _⟩ | ⟨_, _, _, after⟩
  · rw [same]
  · rw [after]; rfl

theorem flow_onEstablished_of_ne {t : Tracker} {s r : Ref} (other : r ≠ s) :
    (t.onEstablished s).flow r = t.flow r := by
  rcases t.onEstablished_cases s with ⟨same, _⟩ | ⟨_, _, _, after⟩
  · rw [same]
  · rw [after, flow_register, if_neg other]

theorem qpnMap_onEstablished_of_ne {t : Tracker} {s : Ref} {key : FlowKey}
    (other : (t.flow s).remoteQpn ≠ 0#32 → key ≠ (t.flow s).getFlowKey) :
    (t.onEstablished s).qpnMap.find key = t.qpnMap.find key := by
  rcases t.onEstablished_cases s with ⟨same, _⟩ | ⟨_, nonzero, _, after⟩
  · rw [same]
  · rw [after]
    exact if_neg (other nonzero)

@[simp] theorem localMap_onDisconnected (t : Tracker) (s : Ref) : (t.onDisconnected s).localMap = t.localMap := by
  rcases t.onDisconnected_cases s with ⟨same, _⟩ | ⟨_, _, _, after⟩
  · rw [same]
  · rw [after]; rfl

@[simp] theorem remoteMap_onDisconnected (t : Tracker) (s : Ref) : (t.onDisconnected s).remoteMap = t.remoteMap := by
  rcases t.onDisconnected_cases s with ⟨same, _⟩ | ⟨_, _, _, after⟩
  · rw [same]
  · rw [after]; rfl

@[simp] theorem localMap_dropFlow (t : Tracker) (s : Ref) (l : IdT) (k : CmFlowKey) :
    (t.dropFlow s l k).localMap = t.localMap.erase l := by
  unfold dropFlow
  split <;> simp

@[simp] theorem remoteMap_dropFlow (t : Tracker) (s : Ref) (l : IdT) (k : CmFlowKey) :
    (t.dropFlow s l k).remoteMap = t.remoteMap.erase k := by
  unfold dropFlow
  split <;> simp

@[simp] theorem next_dropFlow (t : Tracker) (s : Ref) (l : IdT) (k : CmFlowKey) :
    (t.dropFlow s l k).flows.next = t.flows.next := by
  unfold dropFlow
  split
  · rcases t.onDisconnected_cases s with ⟨same, _⟩ | ⟨_, _, _, after⟩
    · rw [same]
    · rw [after]; rfl
  · rfl

theorem flow_onDisconnected_of_ne {t : Tracker} {s r : Ref} (other : r ≠ s) :
    (t.onDisconnected s).flow r = t.flow r := by
  rcases t.onDisconnected_cases s with ⟨same, _⟩ | ⟨_, _, _, after⟩
  · rw [same]
  · rw [after, flow_unregister, if_neg other]

theorem flow_dropFlow_of_ne {t : Tracker} {s r : Ref} {l : IdT} {k : CmFlowKey} (other : r ≠ s) :
    (t.dropFlow s l k).flow r = t.flow r := by
  unfold dropFlow
  split
  · exact flow_onDisconnected_of_ne other
  · rfl

/-- Dropping a flow changes nothing in it but its flag, which is never raised. -/
theorem flow_dropFlow_self (t : Tracker) (s : Ref) (l : IdT) (k : CmFlowKey) :
    ∃ flag, (t.dropFlow s l k).flow s = { t.flow s with inQpnMap := flag } ∧
      (flag = true → (t.flow s).inQpnMap = true) := by
  unfold dropFlow
  split_ifs with registered
  · rcases t.onDisconnected_cases s with ⟨same, _⟩ | ⟨_, _, _, after⟩
    · exact ⟨_, by rw [same]; rfl, fun flag => flag⟩
    · exact ⟨false, by rw [after]; exact if_pos rfl, nofun⟩
  · exact ⟨_, rfl, fun flag => flag⟩

/-- An entry of the query table goes only with the flow that has its key. -/
theorem qpnMap_dropFlow_of_ne {t : Tracker} {s : Ref} {l : IdT} {k : CmFlowKey} {key : FlowKey}
    (other : (t.flow s).remoteQpn ≠ 0#32 → key ≠ (t.flow s).getFlowKey) :
    (t.dropFlow s l k).qpnMap.find key = t.qpnMap.find key := by
  unfold dropFlow
  split
  · rcases t.onDisconnected_cases s with ⟨same, _⟩ | ⟨_, nonzero, _, after⟩
    · rw [same]
    · rw [after]
      exact if_neg (other nonzero)
  · rfl

/-! ## Creating a flow -/

/-- The tracker after `add_new_flow` created a flow under `l` and `k`. -/
def newFlow (t : Tracker) (l : IdT) (k : CmFlowKey) : Tracker where
  localMap := if l ≠ 0#32 then t.localMap.insert l t.flows.next else t.localMap
  remoteMap := if k.IsSet then t.remoteMap.insert k t.flows.next else t.remoteMap
  qpnMap := t.qpnMap
  flows := t.flows.alloc { localId := l, remoteId := if k.IsSet then k else .null }

theorem flow_newFlow (t : Tracker) (l : IdT) (k : CmFlowKey) (r : Ref) :
    (t.newFlow l k).flow r =
      if r = t.flows.next then { localId := l, remoteId := if k.IsSet then k else .null } else t.flow r := rfl

theorem find_localMap_newFlow (t : Tracker) (l l' : IdT) (k : CmFlowKey) :
    (t.newFlow l k).localMap.find l' = if l' = l ∧ l ≠ 0#32 then some t.flows.next else t.localMap.find l' := by
  by_cases zero : l = 0#32 <;> simp [newFlow, zero, Table.find_insert]

theorem find_remoteMap_newFlow (t : Tracker) (l : IdT) (k k' : CmFlowKey) :
    (t.newFlow l k).remoteMap.find k' = if k' = k ∧ k.IsSet then some t.flows.next else t.remoteMap.find k' := by
  by_cases key : k.IsSet <;> simp [newFlow, key, Table.find_insert]

end Tracker

/-! ## The index invariant -/

/-- Every index key is the id the flow under it carries, and null ids are never stored. -/
structure Indexed (t : Tracker) : Prop where
  local_own : ∀ {l s}, t.localMap.find l = some s → l ≠ 0#32 ∧ (t.flow s).localId = l
  remote_own : ∀ {k s}, t.remoteMap.find k = some s → k.IsSet ∧ (t.flow s).remoteId = k
  local_lt : ∀ {l s}, t.localMap.find l = some s → s < t.flows.next
  remote_lt : ∀ {k s}, t.remoteMap.find k = some s → s < t.flows.next

theorem Indexed.init : Indexed Tracker.init :=
  ⟨nofun, nofun, nofun, nofun⟩

theorem Indexed.no_zero {t : Tracker} (idx : Indexed t) : t.localMap.find 0#32 = none := by
  cases found : t.localMap.find 0#32 with
  | none => rfl
  | some s => exact absurd rfl (idx.local_own found).1

theorem Indexed.no_unset {t : Tracker} (idx : Indexed t) {k : CmFlowKey} (unset : ¬ k.IsSet) :
    t.remoteMap.find k = none := by
  cases found : t.remoteMap.find k with
  | none => rfl
  | some s => exact absurd (idx.remote_own found).1 unset

/-! A flow an index holds carries the id of that index, and is found under it. -/

theorem Indexed.localId_ne {t : Tracker} (idx : Indexed t) {l : IdT} {s : Ref} (held : t.localMap.find l = some s) :
    (t.flow s).localId ≠ 0#32 := by
  rw [(idx.local_own held).2]
  exact (idx.local_own held).1

theorem Indexed.remoteId_isSet {t : Tracker} (idx : Indexed t) {k : CmFlowKey} {s : Ref}
    (held : t.remoteMap.find k = some s) : (t.flow s).remoteId.IsSet := by
  rw [(idx.remote_own held).2]
  exact (idx.remote_own held).1

theorem Indexed.find_localId {t : Tracker} (idx : Indexed t) {l : IdT} {s : Ref} (held : t.localMap.find l = some s) :
    t.localMap.find (t.flow s).localId = some s := by
  rw [(idx.local_own held).2]
  exact held

theorem Indexed.find_remoteId {t : Tracker} (idx : Indexed t) {k : CmFlowKey} {s : Ref}
    (held : t.remoteMap.find k = some s) : t.remoteMap.find (t.flow s).remoteId = some s := by
  rw [(idx.remote_own held).2]
  exact held

theorem Indexed.root_lt {t : Tracker} (idx : Indexed t) {i : IdT ⊕ CmFlowKey} {s : Ref} (found : t.roots i = some s) :
    s < t.flows.next := by
  cases i with
  | inl l => exact idx.local_lt found
  | inr k => exact idx.remote_lt found

section Preserved

variable {t : Tracker} (idx : Indexed t)
include idx

theorem Indexed.modify {s : Ref} {g : FlowState → FlowState}
    (ids : (g (t.flow s)).localId = (t.flow s).localId ∧ (g (t.flow s)).remoteId = (t.flow s).remoteId) :
    Indexed (t.modify s g) := by
  have same : ∀ r, ((t.modify s g).flow r).localId = (t.flow r).localId ∧
      ((t.modify s g).flow r).remoteId = (t.flow r).remoteId := by
    intro r
    by_cases at_s : r = s
    · subst at_s; rw [Tracker.flow_modify_self]; exact ids
    · rw [Tracker.flow_modify_of_ne at_s]; exact ⟨rfl, rfl⟩
  constructor
  · intro l r found
    rw [(same r).1]
    exact idx.local_own found
  · intro k r found
    rw [(same r).2]
    exact idx.remote_own found
  · exact idx.local_lt
  · exact idx.remote_lt

theorem Indexed.bindLocal {s : Ref} {l : IdT} (id : l ≠ 0#32) (unbound : (t.flow s).localId = 0#32)
    (used : s < t.flows.next) : Indexed (t.bindLocal s l) := by
  constructor
  · intro l' r found
    rw [Tracker.localMap_bindLocal, Table.find_insert] at found
    split_ifs at found with same
    · cases found
      exact ⟨same ▸ id, by simp [Tracker.flow_bindLocal, same]⟩
    · -- `s` carries no local id yet, so it is not the flow stored under `l'`
      have other : r ≠ s := by
        rintro rfl
        exact idx.localId_ne found unbound
      rw [Tracker.flow_bindLocal, if_neg other]
      exact idx.local_own found
  · intro k r found
    rw [Tracker.flow_bindLocal]
    split_ifs with same
    · exact same ▸ idx.remote_own found
    · exact idx.remote_own found
  · intro l' r found
    rw [Tracker.localMap_bindLocal, Table.find_insert] at found
    split_ifs at found with same
    · cases found; exact used
    · exact idx.local_lt found
  · exact idx.remote_lt

theorem Indexed.bindRemote {s : Ref} {k : CmFlowKey} (key : k.IsSet) (unbound : ¬ (t.flow s).remoteId.IsSet)
    (used : s < t.flows.next) : Indexed (t.bindRemote s k) := by
  constructor
  · intro l r found
    rw [Tracker.flow_bindRemote]
    split_ifs with same
    · exact same ▸ idx.local_own found
    · exact idx.local_own found
  · intro k' r found
    rw [Tracker.remoteMap_bindRemote, Table.find_insert] at found
    split_ifs at found with same
    · cases found
      exact ⟨same ▸ key, by simp [Tracker.flow_bindRemote, same]⟩
    · have other : r ≠ s := by
        rintro rfl
        exact unbound (idx.remoteId_isSet found)
      rw [Tracker.flow_bindRemote, if_neg other]
      exact idx.remote_own found
  · exact idx.local_lt
  · intro k' r found
    rw [Tracker.remoteMap_bindRemote, Table.find_insert] at found
    split_ifs at found with same
    · cases found; exact used
    · exact idx.remote_lt found

theorem Indexed.newFlow (l : IdT) (k : CmFlowKey) : Indexed (t.newFlow l k) := by
  have old : ∀ {r}, r < t.flows.next → (t.newFlow l k).flow r = t.flow r := by
    intro r used
    rw [Tracker.flow_newFlow, if_neg (Nat.ne_of_lt used)]
  constructor
  · intro l' r found
    rw [Tracker.find_localMap_newFlow] at found
    split_ifs at found with here
    · cases found
      exact ⟨here.1 ▸ here.2, by simp [Tracker.flow_newFlow, here.1]⟩
    · rw [old (idx.local_lt found)]
      exact idx.local_own found
  · intro k' r found
    rw [Tracker.find_remoteMap_newFlow] at found
    split_ifs at found with here
    · cases found
      exact ⟨here.1 ▸ here.2, by simp [Tracker.flow_newFlow, here]⟩
    · rw [old (idx.remote_lt found)]
      exact idx.remote_own found
  · intro l' r found
    rw [Tracker.find_localMap_newFlow] at found
    split_ifs at found with here
    · cases found; exact Nat.lt_succ_self _
    · exact Nat.lt_succ_of_lt (idx.local_lt found)
  · intro k' r found
    rw [Tracker.find_remoteMap_newFlow] at found
    split_ifs at found with here
    · cases found; exact Nat.lt_succ_self _
    · exact Nat.lt_succ_of_lt (idx.remote_lt found)

/-- Entries may go, and the query table is no index. -/
theorem Indexed.erase (l : IdT) (k : CmFlowKey) (q : Table FlowKey QpnT) :
    Indexed { t with localMap := t.localMap.erase l, remoteMap := t.remoteMap.erase k, qpnMap := q } := by
  have locals : ∀ {l' s}, (t.localMap.erase l).find l' = some s → t.localMap.find l' = some s := by
    intro l' s found
    rw [Table.find_erase] at found
    split_ifs at found
    exact found
  have remotes : ∀ {k' s}, (t.remoteMap.erase k).find k' = some s → t.remoteMap.find k' = some s := by
    intro k' s found
    rw [Table.find_erase] at found
    split_ifs at found
    exact found
  exact ⟨fun found => idx.local_own (locals found), fun found => idx.remote_own (remotes found),
    fun found => idx.local_lt (locals found), fun found => idx.remote_lt (remotes found)⟩

theorem Indexed.withQpnMap (q : Table FlowKey QpnT) : Indexed { t with qpnMap := q } :=
  ⟨idx.local_own, idx.remote_own, idx.local_lt, idx.remote_lt⟩

theorem Indexed.onEstablished (s : Ref) : Indexed (t.onEstablished s) := by
  rcases t.onEstablished_cases s with ⟨same, _⟩ | ⟨_, _, _, registered⟩
  · rw [same]; exact idx
  · rw [registered]
    exact (idx.withQpnMap _).modify ⟨rfl, rfl⟩

theorem Indexed.onDisconnected (s : Ref) : Indexed (t.onDisconnected s) := by
  rcases t.onDisconnected_cases s with ⟨same, _⟩ | ⟨_, _, _, removed⟩
  · rw [same]; exact idx
  · rw [removed]
    exact (idx.withQpnMap _).modify ⟨rfl, rfl⟩

theorem Indexed.dropFlow (s : Ref) (l : IdT) (k : CmFlowKey) : Indexed (t.dropFlow s l k) := by
  unfold Tracker.dropFlow
  split
  · exact (idx.onDisconnected s).erase l k _
  · exact idx.erase l k _

end Preserved

end ConntrackCm
