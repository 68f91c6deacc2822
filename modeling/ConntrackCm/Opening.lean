import ConntrackCm.Step

/-!
# Opening a connection

What the two kinds of open have in common: the three messages, the part of the tracker they
leave alone (`Frame`), and how a flow that stands under the connection's ids answers a message
(`Stands`).
-/

namespace ConntrackCm

open Lib

/-- The letters of a handshake. -/
inductive Msg where
  | req | rep | rtu
  deriving DecidableEq, Repr

/-! ## What the packets of one connection leave alone -/

/-- `t` is `S` but for the entries under `l`, `k` and `key` and the flows created since. -/
structure Frame (l : IdT) (k : CmFlowKey) (key : FlowKey) (S t : Tracker) : Prop where
  locals : ∀ l', l' ≠ l → t.localMap.find l' = S.localMap.find l'
  remotes : ∀ k', k' ≠ k → t.remoteMap.find k' = S.remoteMap.find k'
  qpns : ∀ key', key' ≠ key → t.qpnMap.find key' = S.qpnMap.find key'
  flows : ∀ r, r < S.flows.next → t.flow r = S.flow r
  next_le : S.flows.next ≤ t.flows.next
  newLocal : ∀ s, t.localMap.find l = some s → S.flows.next ≤ s
  newRemote : ∀ s, t.remoteMap.find k = some s → S.flows.next ≤ s

/-- The event names no other connection. -/
structure Names (l : IdT) (k : CmFlowKey) (e : Event) : Prop where
  localId : e.localId = 0#32 ∨ e.localId = l
  remoteId : e.remoteId = k ∨ ¬ e.remoteId.IsSet

theorem Names.lookupKey {l : IdT} {k : CmFlowKey} {e : Event} (names : Names l k e) :
    e.lookupKey = k ∨ ¬ e.lookupKey.IsSet := by
  rcases e.lookupKey_eq with same | null
  · rw [same]; exact names.remoteId
  · rw [null]; exact Or.inr CmFlowKey.not_isSet_null

section Frame

variable {l : IdT} {k : CmFlowKey} {key : FlowKey} {S t u t' : Tracker} {e : Event} {s : Ref}

theorem Frame.refl (noLocal : S.localMap.find l = none) (noRemote : S.remoteMap.find k = none) : Frame l k key S S := by
  refine ⟨fun _ _ => rfl, fun _ _ => rfl, fun _ _ => rfl, fun _ _ => rfl, Nat.le_refl _, ?_, ?_⟩
  · intro s held
    rw [noLocal] at held
    cases held
  · intro s held
    rw [noRemote] at held
    cases held

/-- The flow found is not one of `S`. -/
theorem Frame.found (frame : Frame l k key S t) (idx : Indexed t) (names : Names l k e)
    (found : Lookup t e.localId e.lookupKey s u) : S.flows.next ≤ s := by
  cases found with
  | byLocal id held =>
    rw [names.localId.resolve_left id] at held
    exact frame.newLocal s held
  | byRemote _ set held =>
    rw [names.lookupKey.resolve_right (not_not_intro set)] at held
    exact frame.newRemote s held
  | created => exact frame.next_le
  | bound _ _ held =>
    rw [names.lookupKey.resolve_right (not_not_intro (idx.remote_own held).1)] at held
    exact frame.newRemote s held

theorem Frame.step (frame : Frame l k key S t) (idx : Indexed t) (start : Indexed S) (names : Names l k e)
    (found : Lookup t e.localId e.lookupKey s u) (effect : Effect e s u t')
    (keyed : (u.flow s).remoteQpn ≠ 0#32 → (u.flow s).getFlowKey = key) : Frame l k key S t' := by
  have idx' : Indexed t' := effect.indexed (found.indexed idx) (found.lt_next idx)
  have new := frame.found idx names found
  constructor
  · intro l' other
    by_cases zero : l' = 0#32
    · rw [zero, idx'.no_zero, start.no_zero]
    · have elsewhere : l' ≠ e.localId := by
        intro same
        rcases names.localId with null | own
        · exact zero (same.trans null)
        · exact other (same.trans own)
      rw [effect.localMap_of_ne elsewhere, found.localMap_of_ne elsewhere, frame.locals l' other]
  · intro k' other
    by_cases set : k'.IsSet
    · have elsewhere : k' ≠ e.remoteId := by
        rintro rfl
        exact names.remoteId.elim other (fun unset => unset set)
      have elsewhere' : k' ≠ e.lookupKey := by
        rintro rfl
        exact names.lookupKey.elim other (fun unset => unset set)
      rw [effect.remoteMap_of_ne elsewhere, found.remoteMap_of_ne elsewhere', frame.remotes k' other]
    · rw [idx'.no_unset set, start.no_unset set]
  · intro key' other
    rw [effect.qpnMap_of_ne, found.qpnMap_eq, frame.qpns key' other]
    intro nonzero same
    exact other (same.trans (keyed nonzero))
  · intro r old
    have elsewhere : r ≠ s := Nat.ne_of_lt (Nat.lt_of_lt_of_le old new)
    rw [effect.flow_of_ne elsewhere, found.flow_of_ne elsewhere, frame.flows r old]
  · rw [effect.next_eq]
    exact Nat.le_trans frame.next_le found.next_le
  · intro r held
    by_cases here : r = s
    · exact here ▸ new
    · exact frame.newLocal r (found.held_before here (effect.held_before held))
  · intro r held
    by_cases here : r = s
    · exact here ▸ new
    · exact frame.newRemote r (found.remote_before here (effect.remote_before here held))

end Frame

/-! ## A flow under the ids of the connection -/

/-- The flow `s` stands under `l` with the contents `f`, and under `k` once `k` is its remote
id; the entry under `key` is `entry`. -/
structure Stands (l : IdT) (k : CmFlowKey) (key : FlowKey) (t : Tracker) (s : Ref) (f : FlowState)
    (entry : Option QpnT) : Prop where
  held : t.localMap.find l = some s
  flow : t.flow s = f
  remote : t.remoteMap.find k = if f.remoteId = k then some s else none
  qpn : t.qpnMap.find key = entry

/-- A step that changes no entry of the query table but `key`. -/
def Moves (key : FlowKey) (t : Tracker) (e : Event) (t' : Tracker) : Prop :=
  ∃ s u, Lookup t e.localId e.lookupKey s u ∧ Effect e s u t' ∧
    ((u.flow s).remoteQpn ≠ 0#32 → (u.flow s).getFlowKey = key)

section Stands

variable {l : IdT} {k k' : CmFlowKey} {key : FlowKey} {t : Tracker} {s : Ref} {f : FlowState} {entry : Option QpnT}

theorem Stands.modify (stands : Stands l k key t s f entry) (g : FlowState → FlowState)
    (ids : (g f).remoteId = f.remoteId) : Stands l k key (t.modify s g) s (g f) entry := by
  refine ⟨stands.held, ?_, ?_, stands.qpn⟩
  · rw [Tracker.flow_modify_self, stands.flow]
  · rw [ids]; exact stands.remote

theorem Stands.bindRemote (stands : Stands l k key t s f entry) :
    Stands l k key (t.bindRemote s k) s { f with remoteId := k } entry := by
  refine ⟨stands.held, ?_, ?_, stands.qpn⟩
  · rw [Tracker.flow_bindRemote, if_pos rfl, stands.flow]
  · rw [Tracker.remoteMap_bindRemote, Table.find_insert_self, if_pos rfl]

theorem Stands.onEstablished (stands : Stands l k key t s f none) (own : f.getFlowKey = key)
    (lq : f.localQpn ≠ 0#32) (rq : f.remoteQpn ≠ 0#32) :
    Stands l k key (t.onEstablished s) s { f with inQpnMap := true } (some f.localQpn) := by
  rcases t.onEstablished_cases s with ⟨_, zero | zero | taken⟩ | ⟨_, _, _, after⟩
  · rw [stands.flow] at zero; exact absurd zero lq
  · rw [stands.flow] at zero; exact absurd zero rq
  · rw [stands.flow, own] at taken; exact absurd stands.qpn taken
  · rw [after]
    refine ⟨stands.held, ?_, stands.remote, ?_⟩
    · rw [Tracker.flow_register, if_pos rfl, stands.flow]
    · rw [Tracker.qpnMap_register, stands.flow, own, Table.find_insert_self]

/-- A flow that was just created. -/
theorem Stands.newFlow (id : l ≠ 0#32) (set : k.IsSet) (noRemote : t.remoteMap.find k = none)
    (vacant : t.qpnMap.find key = none) (keys : k' = k ∨ ¬ k'.IsSet) :
    Stands l k key (t.newFlow l k') t.flows.next { localId := l, remoteId := if k'.IsSet then k' else .null } none := by
  refine ⟨?_, ?_, ?_, vacant⟩
  · rw [Tracker.find_localMap_newFlow, if_pos ⟨rfl, id⟩]
  · rw [Tracker.flow_newFlow, if_pos rfl]
  · rw [Tracker.find_remoteMap_newFlow]
    rcases keys with rfl | unset
    · simp [set]
    · have null : CmFlowKey.null ≠ k := by
        rintro rfl
        exact CmFlowKey.not_isSet_null set
      simp [unset, null, noRemote]

/-- The lookup of a message with the local id. -/
theorem Stands.lookup (stands : Stands l k key t s f entry) (id : l ≠ 0#32) : Lookup t l k' s t :=
  .byLocal id stands.held

/-- The query for the connection. -/
theorem Stands.query (stands : Stands l k key t s f entry) : t.getSourceQpn key = entry.getD 0#32 := by
  unfold Tracker.getSourceQpn
  rw [stands.qpn]
  cases entry <;> rfl

/-- A message the flow does not expect changes nothing. -/
theorem Stands.kept (stands : Stands l k key t s f entry) (id : l ≠ 0#32)
    (keyed : f.remoteQpn ≠ 0#32 → f.getFlowKey = key) {e : Event} (named : e.localId = l)
    (act : action e.op f.state = .unexpected ∨ action e.op f.state = .duplicate) : Moves key t e t := by
  refine ⟨s, t, named ▸ stands.lookup id, .kept ?_, ?_⟩
  · rw [stands.flow]; exact act
  · rw [stands.flow]; exact keyed

end Stands

/-! ## Words -/

/-- **Words of a connection.** When each letter moves the tracker from phase to phase, no word
fails, it ends in the phase it spells, and it leaves the rest of the tracker alone. -/
theorem word_run {A P : Type} {At : P → Tracker → Prop} {next : P → A → P} {event : A → Event} {msg : A → Packet}
    {l : IdT} {k : CmFlowKey} {key : FlowKey} {S t : Tracker} (reads : ∀ m, Reads (msg m) (event m))
    (names : ∀ m, Names l k (event m))
    (moves : ∀ p t m, Indexed t → At p t → ∃ t', Moves key t (event m) t' ∧ At (next p m) t')
    (start : Indexed S) (idx : Indexed t) (frame : Frame l k key S t) {p : P} (first : At p t) (w : List A) :
    ∃ t', run Tracker.feed t (w.map msg) = .ok t' ∧ Indexed t' ∧ Frame l k key S t' ∧ At (w.foldl next p) t' := by
  have follow : ∀ p t m, Indexed t ∧ Frame l k key S t ∧ At p t →
      ∃ t', t.feed (msg m) = .ok t' ∧ Indexed t' ∧ Frame l k key S t' ∧ At (next p m) t' := by
    rintro p t m ⟨idx, frame, here⟩
    obtain ⟨t', ⟨s, u, found, effect, keyed⟩, there⟩ := moves p t m idx here
    have stepped := (step_iff idx).mpr ⟨s, u, found, effect⟩
    exact ⟨t', (feed_of_event (reads m)).trans stepped, idx.step stepped,
      frame.step idx start (names m) found effect keyed, there⟩
  rw [run_map]
  exact run_phases follow w ⟨idx, frame, first⟩

end ConntrackCm
