import ConntrackCm.Lib.Sharing
import ConntrackCm.Step

/-!
# Two trackers that agree on what is shown

A part of a tracker is given by index entries and by keys of the query table. Two trackers agree on
it when the entries lead to flows with the same contents, shared in the same way, and the keys to the
same QPNs (`SameView`); the references behind them may differ. A packet whose ids and keys are in the
part acts on both in the same way (`SameView.lookup`, `SameView.effect`), whatever the rest of the
two trackers is.
-/

namespace ConntrackCm

open Lib

/-- The trackers agree on the flows under the entries `on` and on the QPNs of the keys `shown`. -/
structure SameView (on : IdT ⊕ CmFlowKey → Prop) (shown : FlowKey → Prop) (t u : Tracker) : Prop where
  flows : Alike on t.roots u.roots t.flow u.flow
  qpns : ∀ key, shown key → t.qpnMap.find key = u.qpnMap.find key

/-- The key of the flow, if it can have an entry, is shown. -/
def Visible (shown : FlowKey → Prop) (f : FlowState) : Prop := f.remoteQpn ≠ 0#32 → shown f.getFlowKey

section View

variable {on : IdT ⊕ CmFlowKey → Prop} {shown : FlowKey → Prop} {t u : Tracker} {s r : Ref}

theorem SameView.refl (t : Tracker) : SameView on shown t t := ⟨Alike.refl _ _ _, fun _ _ => rfl⟩

variable (view : SameView on shown t u)
include view

theorem SameView.modify (paired : Paired on t.roots u.roots s r) (same : t.flow s = u.flow r)
    (g : FlowState → FlowState) : SameView on shown (t.modify s g) (u.modify r g) := by
  refine ⟨view.flows.update paired ?_ ?_ ?_ ?_, view.qpns⟩
  · rw [Tracker.flow_modify_self, Tracker.flow_modify_self, same]
  · exact fun o other => Tracker.flow_modify_of_ne other
  · exact fun o other => Tracker.flow_modify_of_ne other
  · exact fun i _ => Or.inr ⟨by cases i <;> rfl, by cases i <;> rfl⟩

/-- Changing the query table where it is shown on both sides. -/
theorem SameView.withQpnMap {m m' : Table FlowKey QpnT} (tables : ∀ key, shown key → m.find key = m'.find key) :
    SameView on shown { t with qpnMap := m } { u with qpnMap := m' } := by
  refine ⟨view.flows.frame ?_ fun _ _ _ _ => rfl, tables⟩
  exact fun i _ => by cases i <;> rfl

theorem SameView.onEstablished (paired : Paired on t.roots u.roots s r) (same : t.flow s = u.flow r)
    (visible : Visible shown (t.flow s)) : SameView on shown (t.onEstablished s) (u.onEstablished r) := by
  have entered : ∀ key, shown key → (t.qpnMap.insert (t.flow s).getFlowKey (t.flow s).localQpn).find key =
      (u.qpnMap.insert (t.flow s).getFlowKey (t.flow s).localQpn).find key := by
    intro key seen
    rw [Table.find_insert, Table.find_insert, view.qpns key seen]
  unfold Tracker.onEstablished
  rw [← same]
  dsimp only
  split
  · exact view
  · rename_i known
    rw [← view.qpns _ (visible fun zero => known (Or.inr zero))]
    split
    · exact view
    · exact (view.withQpnMap entered).modify paired same _

theorem SameView.onDisconnected (paired : Paired on t.roots u.roots s r) (same : t.flow s = u.flow r)
    (visible : Visible shown (t.flow s)) : SameView on shown (t.onDisconnected s) (u.onDisconnected r) := by
  have removed : ∀ key, shown key → (t.qpnMap.erase (t.flow s).getFlowKey).find key =
      (u.qpnMap.erase (t.flow s).getFlowKey).find key := by
    intro key seen
    rw [Table.find_erase, Table.find_erase, view.qpns key seen]
  unfold Tracker.onDisconnected
  rw [← same]
  dsimp only
  split
  · exact view
  · rename_i known
    rw [← view.qpns _ (visible fun zero => known (Or.inr zero))]
    split
    · exact view
    · exact (view.withQpnMap removed).modify paired same _

theorem SameView.erase (l : IdT) (k : CmFlowKey) :
    SameView on shown { t with localMap := t.localMap.erase l, remoteMap := t.remoteMap.erase k }
      { u with localMap := u.localMap.erase l, remoteMap := u.remoteMap.erase k } := by
  refine ⟨view.flows.clear fun i _ => ?_, view.qpns⟩
  rcases i with i | i
  · by_cases gone : i = l
    · exact Or.inl ⟨if_pos gone, if_pos gone⟩
    · exact Or.inr ⟨if_neg gone, if_neg gone⟩
  · by_cases gone : i = k
    · exact Or.inl ⟨if_pos gone, if_pos gone⟩
    · exact Or.inr ⟨if_neg gone, if_neg gone⟩

/-- A flow without an entry in the query table may be dropped unseen. -/
theorem SameView.dropFlow (paired : Paired on t.roots u.roots s r) (same : t.flow s = u.flow r)
    (visible : (t.flow s).inQpnMap = true → Visible shown (t.flow s)) (l : IdT) (k : CmFlowKey) :
    SameView on shown (t.dropFlow s l k) (u.dropFlow r l k) := by
  unfold Tracker.dropFlow
  rw [← same]
  split
  · rename_i flag
    exact (view.onDisconnected paired same (visible flag)).erase l k
  · exact view.erase l k

theorem SameView.bindRemote (paired : Paired on t.roots u.roots s r) (same : t.flow s = u.flow r) (k : CmFlowKey) :
    SameView on shown (t.bindRemote s k) (u.bindRemote r k) := by
  refine ⟨view.flows.update paired ?_ (fun o other => if_neg other) (fun o other => if_neg other) ?_, view.qpns⟩
  · rw [Tracker.flow_bindRemote, Tracker.flow_bindRemote, if_pos rfl, if_pos rfl, same]
  · intro i _
    rcases i with i | i
    · exact Or.inr ⟨rfl, rfl⟩
    · simp only [Tracker.roots, Tracker.remoteMap_bindRemote, Table.find_insert]
      split_ifs <;> simp

/-- A lookup by ids that are shown ends the same way on both sides. -/
theorem SameView.lookup (idx : Indexed t) (idx' : Indexed u) {l : IdT} {k : CmFlowKey} (ids : l = 0#32 ∨ on (.inl l))
    (keys : ¬ k.IsSet ∨ on (.inr k)) {t₁ : Tracker} (found : Lookup t l k s t₁) :
    ∃ r u₁, Lookup u l k r u₁ ∧ SameView on shown t₁ u₁ ∧ Paired on t₁.roots u₁.roots s r ∧ t₁.flow s = u₁.flow r := by
  cases found with
  | byLocal id held =>
    obtain ⟨r, held', same, paired⟩ := view.flows.find (ids.resolve_left id) held
    exact ⟨r, u, .byLocal id held', view, paired, same⟩
  | byRemote zero key held =>
    obtain ⟨r, held', same, paired⟩ := view.flows.find (keys.resolve_left (not_not_intro key)) held
    exact ⟨r, u, .byRemote zero key held', view, paired, same⟩
  | created given noLocal noRemote =>
    have noLocal' : u.localMap.find l = none := by
      rcases ids with rfl | slot
      · exact idx'.no_zero
      · exact (view.flows.none_iff slot).mp noLocal
    have noRemote' : u.remoteMap.find k = none := by
      rcases keys with unset | slot
      · exact idx'.no_unset unset
      · exact (view.flows.none_iff slot).mp noRemote
    have fresh : Paired on t.roots u.roots t.flows.next u.flows.next := by
      refine .fresh (fun i _ held => ?_) (fun i _ held => ?_)
      · exact Nat.lt_irrefl _ (idx.root_lt held)
      · exact Nat.lt_irrefl _ (idx'.root_lt held)
    have roots : ∀ i, on i →
        ((t.newFlow l k).roots i = some t.flows.next ∧ (u.newFlow l k).roots i = some u.flows.next) ∨
          ((t.newFlow l k).roots i = t.roots i ∧ (u.newFlow l k).roots i = u.roots i) := by
      intro i _
      rcases i with i | i
      · simp only [Tracker.roots, Tracker.find_localMap_newFlow]
        split_ifs <;> simp
      · simp only [Tracker.roots, Tracker.find_remoteMap_newFlow]
        split_ifs <;> simp
    have now : (t.newFlow l k).flow t.flows.next = (u.newFlow l k).flow u.flows.next := by
      rw [Tracker.flow_newFlow, Tracker.flow_newFlow, if_pos rfl, if_pos rfl]
    refine ⟨u.flows.next, _, .created given noLocal' noRemote', ⟨?_, view.qpns⟩, fresh.update roots, now⟩
    exact view.flows.update fresh now (fun o other => if_neg other) (fun o other => if_neg other) roots
  | bound id noLocal held unbound =>
    have key := (idx.remote_own held).1
    obtain ⟨r, held', same, paired⟩ := view.flows.find (keys.resolve_left (not_not_intro key)) held
    have noLocal' := (view.flows.none_iff (ids.resolve_left id)).mp noLocal
    have roots : ∀ i, on i →
        ((t.bindLocal s l).roots i = some s ∧ (u.bindLocal r l).roots i = some r) ∨
          ((t.bindLocal s l).roots i = t.roots i ∧ (u.bindLocal r l).roots i = u.roots i) := by
      intro i _
      rcases i with i | i
      · simp only [Tracker.roots, Tracker.localMap_bindLocal, Table.find_insert]
        split_ifs <;> simp
      · exact Or.inr ⟨rfl, rfl⟩
    have now : (t.bindLocal s l).flow s = (u.bindLocal r l).flow r := by
      rw [Tracker.flow_bindLocal, Tracker.flow_bindLocal, if_pos rfl, if_pos rfl, same]
    refine ⟨r, _, .bound id noLocal' held' (same ▸ unbound), ⟨?_, view.qpns⟩, paired.update roots, now⟩
    exact view.flows.update paired now (fun o other => if_neg other) (fun o other => if_neg other) roots

/-- An action on a flow that is shown has the same effect on both sides, where a REP names a key that
is shown, and an entry of the query table comes and goes only under one. -/
theorem SameView.effect {e : Event} {t' : Tracker} (paired : Paired on t.roots u.roots s r) (same : t.flow s = u.flow r)
    (keys : ∀ {a}, action e.op (t.flow s).state = a → (a = .sendRep ∨ a = .receiveRep) → on (.inr e.remoteId))
    (visible : action e.op (t.flow s).state = .establish ∨ (t.flow s).inQpnMap = true → Visible shown (t.flow s))
    (effect : Effect e s t t') : ∃ u', Effect e r u u' ∧ SameView on shown t' u' := by
  have updated : ∀ g : FlowState → FlowState, (t.modify s g).flow s = (u.modify r g).flow r := by
    intro g
    rw [Tracker.flow_modify_self, Tracker.flow_modify_self, same]
  cases effect with
  | kept act => exact ⟨u, .kept (same ▸ act), view⟩
  | sentReq act qpn => exact ⟨_, .sentReq (same ▸ act) qpn, view.modify paired same _⟩
  | receivedReq act qpn unchanged =>
    exact ⟨_, .receivedReq (same ▸ act) qpn (same ▸ unchanged), view.modify paired same _⟩
  | replied act rep qpn stored =>
    refine ⟨_, .replied (same ▸ act) rep qpn fun key => ?_, view.modify paired same _⟩
    exact (paired _ (keys act rep)).mp (stored key)
  | repliedBound act rep qpn key noRemote unbound =>
    have noRemote' := (view.flows.none_iff (keys act rep)).mp noRemote
    refine ⟨_, .repliedBound (same ▸ act) rep qpn key noRemote' (same ▸ unbound), ?_⟩
    exact (view.modify paired same _).bindRemote paired (updated _) _
  | established act =>
    refine ⟨_, .established (same ▸ act), (view.modify paired same _).onEstablished paired (updated _) ?_⟩
    rw [Tracker.flow_modify_self]
    exact visible (Or.inl act)
  | disconnected act => exact ⟨_, .disconnected (same ▸ act), view.modify paired same _⟩
  | erased act => exact ⟨_, .erased (same ▸ act), view.dropFlow paired same (fun flag => visible (Or.inr flag)) _ _⟩

end View

end ConntrackCm
