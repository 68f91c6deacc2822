import ConntrackCm.Step

/-!
# Index keys are the flows' own ids

An id is bound lazily, at two places of `add_new_flow`, and a flow that left one index only keeps
its ids while these are given to new flows. Still every entry of an index is under the id that its
flow carries, so that a key names one flow and a flow has one key. When a handler goes on to
`erase_flow`, the id it looked the flow up by is therefore the id of an entry, and the entry holds
the flow whose state the handler switched on.
-/

namespace ConntrackCm

open Lib

/-- The handler of `x` gets the flow `s` from `get_flow`, which leaves the tracker `u`, and its
switch on the state of `s` calls `erase_flow(l, k)`. -/
inductive CallsErase (t : Tracker) (x : Packet) (s : Ref) (u : Tracker) : IdT → CmFlowKey → Prop where
  | call {e : Event} (reads : Reads x e) (got : t.getFlow e.localId e.lookupKey = .ok (s, u))
      (act : action e.op (u.flow s).state = .erase) : CallsErase t x s u e.localId e.remoteId

section Erase

variable {t t' u : Tracker} {x : Packet} {s : Ref} {l : IdT} {k : CmFlowKey}

/-- The call is all that is left of the handler, and it finds the flow. -/
theorem CallsErase.finds (idx : Indexed t) (calls : CallsErase t x s u l k) :
    t.process x.1 x.2 = u.eraseFlow l k ∧ u.findFlow l k = some s ∧ u.eraseFlow l k = .ok (u.dropFlow s l k) := by
  obtain @⟨e, reads, got, act⟩ := calls
  have found := getFlow_ok idx got
  have erased := found.eraseFlow found.stored_key
  have processed : t.process x.1 x.2 = .ok (u.dropFlow s e.localId e.remoteId) :=
    (feed_of_event reads).trans (found.step_erase act)
  exact ⟨processed.trans erased.symm, found.findFlow found.stored_key, erased⟩

/-- Nothing but `erase_flow` takes an entry out of an index. -/
theorem entries_kept (idx : Indexed t) (now : t.process x.1 x.2 = .ok t')
    (live : ∀ s u l k, ¬ CallsErase t x s u l k) :
    (∀ l s, t.localMap.find l = some s → t'.localMap.find l = some s) ∧
    ∀ k s, t.remoteMap.find k = some s → t'.remoteMap.find k = some s := by
  rcases feed_ok now with ⟨_, rfl⟩ | ⟨e, reads, stepped⟩
  · exact ⟨fun _ _ held => held, fun _ _ held => held⟩
  · obtain ⟨s, u, found, effect⟩ := (step_iff idx).mp stepped
    obtain ⟨locals, remotes⟩ := effect.keeps fun act => live _ _ _ _ (.call reads found.getFlow act)
    constructor
    · intro l r held
      rw [locals]
      exact found.keeps_local held
    · intro k r held
      exact remotes k r (found.keeps_remote held)

end Erase

namespace Indexed

variable {t : Tracker}

/-- A flow has one local id, and a local id one flow. -/
theorem local_unique (idx : Indexed t) {l l' : IdT} {s s' : Ref} (held : t.localMap.find l = some s)
    (held' : t.localMap.find l' = some s') : l = l' ↔ s = s' := by
  constructor
  · rintro rfl
    exact Option.some.inj (held.symm.trans held')
  · rintro rfl
    exact (idx.local_own held).2.symm.trans (idx.local_own held').2

theorem remote_unique (idx : Indexed t) {k k' : CmFlowKey} {s s' : Ref} (held : t.remoteMap.find k = some s)
    (held' : t.remoteMap.find k' = some s') : k = k' ↔ s = s' := by
  constructor
  · rintro rfl
    exact Option.some.inj (held.symm.trans held')
  · rintro rfl
    exact (idx.remote_own held).2.symm.trans (idx.remote_own held').2

end Indexed

/-- **Index keys are the flows' own ids.** In every reachable state an entry of an index is under
the non-zero id its flow carries, so keys and flows of an index correspond one to one; a handler
that calls `erase_flow` finds the entry of the flow it looked at; and no other packet takes an
entry out. -/
theorem index_keys_own {t : Tracker} (tracked : Tracked t) :
    (∀ l s, t.localMap.find l = some s → l ≠ 0#32 ∧ (t.flow s).localId = l) ∧
    (∀ k s, t.remoteMap.find k = some s → (k.addr ≠ 0#32 ∧ k.id ≠ 0#32) ∧ (t.flow s).remoteId = k) ∧
    (∀ l l' s s', t.localMap.find l = some s → t.localMap.find l' = some s' → (l = l' ↔ s = s')) ∧
    (∀ k k' s s', t.remoteMap.find k = some s → t.remoteMap.find k' = some s' → (k = k' ↔ s = s')) ∧
    (∀ x s u l k, CallsErase t x s u l k →
      t.process x.1 x.2 = u.eraseFlow l k ∧ u.findFlow l k = some s ∧ u.eraseFlow l k = .ok (u.dropFlow s l k)) ∧
    ∀ x t', t.process x.1 x.2 = .ok t' → (∀ s u l k, ¬ CallsErase t x s u l k) →
      (∀ l s, t.localMap.find l = some s → t'.localMap.find l = some s) ∧
      ∀ k s, t.remoteMap.find k = some s → t'.remoteMap.find k = some s := by
  have idx := tracked.indexed
  refine ⟨?_, ?_, ?_, ?_, ?_, ?_⟩
  · intro l s held
    exact idx.local_own held
  · intro k s held
    exact idx.remote_own held
  · intro l l' s s' held held'
    exact idx.local_unique held held'
  · intro k k' s s' held held'
    exact idx.remote_unique held held'
  · intro x s u l k calls
    exact calls.finds idx
  · intro x t' now live
    exact entries_kept idx now live

/-- The id `1` of a flow that a REJ took out of `local_map` only is used by a second flow: both
carry it, the entry is that of the second one, and a REJ that names the key of the first one
erases what it looked at. -/
theorem index_keys_own_reused :
    ∃ t : Tracker, Tracked t ∧ (t.flow 0).localId = 1#32 ∧ t.remoteMap.find ⟨0x0200000a#32, 2#32⟩ = some 0 ∧
      t.localMap.find 1#32 = some 1 ∧ (t.flow 1).localId = 1#32 ∧
      t.findFlow 1#32 ⟨0x0200000a#32, 2#32⟩ = some 1 ∧
      t.process (fromHost cmRejAttrId 0x0200000a#32 1#32 2#32 0#32).1 .FROM_HOST =
        .ok (t.dropFlow 1 1#32 ⟨0x0200000a#32, 2#32⟩) := by
  obtain ⟨t, ran, seen⟩ := map_ok (show (run Tracker.feed Tracker.init
      [fromHost cmReqAttrId 0x0200000a#32 1#32 0#32 0x11#32, fromNet cmRepAttrId 0x0200000a#32 1#32 2#32 0x22#32,
        fromNet cmRejAttrId 0x0200000a#32 1#32 3#32 0#32, fromHost cmReqAttrId 0x0200000a#32 1#32 0#32 0x12#32]).map
        (fun t => ((t.flow 0).localId, t.remoteMap.find ⟨0x0200000a#32, 2#32⟩, t.localMap.find 1#32, (t.flow 1).state)) =
    .ok (1#32, some 0, some 1, .REQ_SENT) by decide +kernel)
  simp only [Prod.mk.injEq] at seen
  obtain ⟨old, key, stored, state⟩ := seen
  have tracked : Tracked t := ⟨_, ran⟩
  have rej : HostRej 0x0200000a#32 1#32 2#32 (fromHost cmRejAttrId 0x0200000a#32 1#32 2#32 0#32) :=
    ⟨⟨rfl, by decide +kernel, by decide +kernel⟩, by decide +kernel⟩
  have found : Lookup t 1#32 ⟨0x0200000a#32, 2#32⟩ 1 t := .byLocal (by decide) stored
  have calls : CallsErase t (fromHost cmRejAttrId 0x0200000a#32 1#32 2#32 0#32) 1 t 1#32 ⟨0x0200000a#32, 2#32⟩ := by
    refine .call (hostRej_iff.mp rej) found.getFlow ?_
    rw [state]
    rfl
  obtain ⟨locals, _, _, _, erases, _⟩ := index_keys_own tracked
  obtain ⟨processed, entry, erased⟩ := erases _ _ _ _ _ calls
  exact ⟨t, tracked, old, key, stored, (locals _ _ stored).2, entry, processed.trans erased⟩

end ConntrackCm
