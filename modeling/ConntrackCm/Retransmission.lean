import ConntrackCm.Lib.Sharing
import ConntrackCm.Step

/-!
# Processing a packet twice

A second copy of a packet finds the flow the first one left. Unless the first copy erased the
flow, its state already is the one the second copy would set. A second REJ creates the flow
anew, idle, and erases it again: the erasing branch takes idle flows. The DREP handlers lack
this case, and there the second copy leaves an idle flow behind.
-/

namespace ConntrackCm

open Lib

/-- The same index entries with the same contents and sharing, and the same query table. -/
structure SameTables (t t' : Tracker) : Prop where
  flows : Alike (fun _ => True) t.roots t'.roots t.flow t'.flow
  qpns : t'.qpnMap = t.qpnMap

theorem SameTables.refl (t : Tracker) : SameTables t t := ⟨Alike.refl _ _ _, rfl⟩

section Twice

variable {t u t' : Tracker} {e : Event} {s : Ref}

/-- The field assignments of an action, made twice. -/
theorem update_twice (t : Tracker) (s : Ref) (a : Action) (q : QpnT) :
    ((t.modify s fun f => a.update q f).modify s fun f => a.update q f) = t.modify s fun f => a.update q f := by
  rw [modify_modify]
  cases a <;> rfl

/-- A flow that was looked up and keeps its entries is found by the same lookup. -/
theorem Lookup.again {l : IdT} {k : CmFlowKey} (found : Lookup t l k s u)
    (locals : u.localMap.find l = some s → t'.localMap.find l = some s)
    (remotes : u.remoteMap.find k = some s → t'.remoteMap.find k = some s) : Lookup t' l k s t' := by
  by_cases zero : l = 0#32
  · obtain ⟨key, held⟩ := found.stored_remote zero
    exact .byRemote zero key (remotes held)
  · exact .byLocal zero (locals (found.stored_local zero))

/-- An effect that does not erase the flow has no effect the second time. -/
theorem Effect.again (effect : Effect e s t t') (live : action e.op (t.flow s).state ≠ .erase) : Effect e s t' t' := by
  cases effect with
  | kept act => exact .kept act
  | @sentReq q act qpn =>
    have next : action e.op ((t.modify s fun f => Action.sendReq.update q f).flow s).state = .sendReq := by
      rw [Tracker.flow_modify_self, (action_sendReq act).1]
      rfl
    have after := Effect.sentReq next qpn
    rwa [update_twice] at after
  | @receivedReq q act qpn same =>
    have next : action e.op ((t.modify s fun f => Action.receiveReq.update q f).flow s).state = .receiveReq := by
      rw [Tracker.flow_modify_self, (action_receiveReq act).1]
      rfl
    have after := Effect.receivedReq next qpn (by rw [Tracker.flow_modify_self]; exact fun _ => rfl)
    rwa [update_twice] at after
  | replied act rep =>
    refine .kept ?_
    rw [Tracker.flow_modify_self]
    rcases rep with rfl | rfl
    · rw [(action_sendRep act).1]; exact Or.inr rfl
    · rw [(action_receiveRep act).1]; exact Or.inl rfl
  | repliedBound act rep =>
    refine .kept ?_
    rw [Tracker.flow_bindRemote, if_pos rfl, Tracker.flow_modify_self]
    rcases rep with rfl | rfl
    · rw [(action_sendRep act).1]; exact Or.inr rfl
    · rw [(action_receiveRep act).1]; exact Or.inl rfl
  | established act =>
    obtain ⟨flag, after⟩ := t.flow_establish s
    refine .kept (Or.inl ?_)
    rw [after]
    rcases action_establish act with ⟨op, _⟩ | ⟨op, _⟩ <;> rw [op] <;> rfl
  | @disconnected next act =>
    have again : action e.op ((t.modify s fun f => (Action.disconnect next).update 0#32 f).flow s).state =
        .disconnect next := by
      rw [Tracker.flow_modify_self]
      rcases action_disconnect act with ⟨op, rfl⟩ | ⟨op, rfl⟩ <;> rw [op] <;> rfl
    have after := Effect.disconnected again
    rwa [update_twice] at after
  | erased act => exact absurd act live

/-- The second copy of a packet that erased nothing. -/
theorem step_again (idx : Indexed t) (stepped : t.step e = .ok t') (found : Lookup t e.localId e.lookupKey s u)
    (effect : Effect e s u t') (live : action e.op (u.flow s).state ≠ .erase) : t'.step e = .ok t' := by
  obtain ⟨locals, remotes⟩ := effect.keeps live
  refine (step_iff (idx.step stepped)).mpr ⟨s, t', found.again ?_ (remotes _ _), effect.again live⟩
  rw [locals]
  exact id

/-- After a REJ both of its ids are unknown. -/
theorem Lookup.dropped (found : Lookup t e.localId e.lookupKey s u) (key : e.lookupKey = e.remoteId) :
    Lookup (u.dropFlow s e.localId e.remoteId) e.localId e.lookupKey (u.dropFlow s e.localId e.remoteId).flows.next
      ((u.dropFlow s e.localId e.remoteId).newFlow e.localId e.lookupKey) := by
  refine .created found.ids ?_ ?_
  · rw [Tracker.localMap_dropFlow, Table.find_erase_self]
  · rw [key, Tracker.remoteMap_dropFlow, Table.find_erase_self]

/-- Erasing a flow right after creating it leaves no trace in the tables. -/
theorem SameTables.newFlow_dropFlow (idx : Indexed t) {l : IdT} {k : CmFlowKey} (noLocal : t.localMap.find l = none)
    (noRemote : t.remoteMap.find k = none) : SameTables t ((t.newFlow l k).dropFlow t.flows.next l k) := by
  have fresh : ((t.newFlow l k).flow t.flows.next).inQpnMap = false := by
    rw [Tracker.flow_newFlow, if_pos rfl]
  have unflagged : ¬ ((t.newFlow l k).flow t.flows.next).inQpnMap = true := by simp [fresh]
  have roots : ∀ i, ((t.newFlow l k).dropFlow t.flows.next l k).roots i = t.roots i := by
    rintro (i | i)
    · rw [Tracker.roots, Tracker.localMap_dropFlow, Table.find_erase]
      split_ifs with here
      · rw [here]; exact noLocal.symm
      · rw [Tracker.find_localMap_newFlow, if_neg (fun new => here new.1)]; rfl
    · rw [Tracker.roots, Tracker.remoteMap_dropFlow, Table.find_erase]
      split_ifs with here
      · rw [here]; exact noRemote.symm
      · rw [Tracker.find_remoteMap_newFlow, if_neg (fun new => here new.1)]; rfl
  constructor
  · refine ⟨fun i _ => ?_, fun i j _ _ => by rw [roots i, roots j]⟩
    rw [roots i]
    cases held : t.roots i with
    | none => rfl
    | some r =>
      have old := Nat.ne_of_lt (idx.root_lt held)
      rw [Option.map_some, Option.map_some, Tracker.flow_dropFlow_of_ne old, Tracker.flow_newFlow, if_neg old]
  · rw [Tracker.dropFlow, if_neg unflagged]
    rfl

/-- The second copy of a REJ. -/
theorem step_rejected (idx : Indexed t) (stepped : t.step e = .ok t') (found : Lookup t e.localId e.lookupKey s u)
    (act : action e.op (u.flow s).state = .erase) (rej : e.op = .rejSent ∨ e.op = .rejReceived) :
    ∃ t'', t'.step e = .ok t'' ∧ SameTables t' t'' := by
  have key : e.lookupKey = e.remoteId := by rcases rej with op | op <;> rw [Event.lookupKey, op]
  have after : t' = u.dropFlow s e.localId e.remoteId := Except.ok.inj (stepped.symm.trans (found.step_erase act))
  have created := found.dropped key
  rw [← after] at created
  have again : action e.op ((t'.newFlow e.localId e.lookupKey).flow t'.flows.next).state = .erase := by
    rw [Tracker.flow_newFlow, if_pos rfl]
    rcases rej with op | op <;> rw [op] <;> rfl
  refine ⟨_, created.step_erase again, ?_⟩
  rw [key]
  apply SameTables.newFlow_dropFlow (idx.step stepped)
  · rw [after, Tracker.localMap_dropFlow, Table.find_erase_self]
  · rw [after, Tracker.remoteMap_dropFlow, Table.find_erase_self]

/-- The second copy of a DREP enters an idle flow. -/
theorem step_disconnected {t'' : Tracker} (idx : Indexed t) (held : t.localMap.find e.localId = some s)
    (act : action e.op (t.flow s).state = .erase) (drep : e.op = .drepSent ∨ e.op = .drepReceived)
    (stepped : t.step e = .ok t') (again : t'.step e = .ok t'') : ¬ SameTables t' t'' := by
  intro same
  have id := (idx.local_own held).1
  have found : Lookup t e.localId e.lookupKey s t := .byLocal id held
  have after : t' = t.dropFlow s e.localId e.remoteId := Except.ok.inj (stepped.symm.trans (found.step_erase act))
  have gone : t'.localMap.find e.localId = none := by
    rw [after, Tracker.localMap_dropFlow, Table.find_erase_self]
  have key : e.lookupKey = .null := by rcases drep with op | op <;> rw [Event.lookupKey, op]
  have lookup : Lookup t' e.localId e.lookupKey t'.flows.next (t'.newFlow e.localId e.lookupKey) := by
    refine .created (Or.inl id) gone ?_
    rw [key]
    exact (idx.step stepped).no_unset CmFlowKey.not_isSet_null
  have kept : Effect e t'.flows.next (t'.newFlow e.localId e.lookupKey) (t'.newFlow e.localId e.lookupKey) := by
    refine .kept (Or.inl ?_)
    rw [Tracker.flow_newFlow, if_pos rfl]
    rcases drep with op | op <;> rw [op] <;> rfl
  have ghost : t'' = t'.newFlow e.localId e.lookupKey :=
    Except.ok.inj (again.symm.trans ((step_iff (idx.step stepped)).mpr ⟨_, _, lookup, kept⟩))
  have missing := (same.flows.none_iff (i := .inl e.localId) trivial).mp gone
  rw [ghost, Tracker.roots, Tracker.find_localMap_newFlow, if_pos ⟨rfl, id⟩] at missing
  cases missing

end Twice

/-! ## The contract -/

/-- A DREP that erases the flow under its local id. -/
def DrepErases (t : Tracker) (x : Packet) : Prop :=
  ∃ e s, Reads x e ∧ (e.op = .drepSent ∨ e.op = .drepReceived) ∧ t.localMap.find e.localId = some s ∧
    ((t.flow s).state = .DREQ_SENT ∨ (t.flow s).state = .DREQ_RCVD)

/-- The erasing handlers. -/
theorem action_erase {op : CmOp} {st : FlowSt} (act : action op st = .erase) :
    (op = .rejSent ∨ op = .rejReceived) ∨
      ((op = .drepSent ∨ op = .drepReceived) ∧ (st = .DREQ_SENT ∨ st = .DREQ_RCVD)) := by
  cases op <;> cases st <;> simp [action] at act ⊢

/-- **Retransmission.** Processing a packet a second time succeeds and leaves the tables as
they are, exactly when the first copy is not a DREP that erased a flow. -/
theorem retransmission {t t' : Tracker} {x : Packet} (reached : Tracked t) (now : t.feed x = .ok t') :
    (∃ t'', t'.feed x = .ok t'' ∧ SameTables t' t'') ↔ ¬ DrepErases t x := by
  have idx := reached.indexed
  rcases feed_ok now with ⟨silent, rfl⟩ | ⟨e, read, stepped⟩
  · refine iff_of_true ⟨t', feed_of_none silent, SameTables.refl _⟩ ?_
    rintro ⟨e, s, read, _⟩
    rw [Reads, silent] at read
    cases read
  · rw [feed_of_event read]
    constructor
    · rintro ⟨t'', again, same⟩ ⟨e', s, read', drep, held, state⟩
      cases Except.ok.inj (read.symm.trans read')
      have act : action e.op (t.flow s).state = .erase := by
        rcases drep with op | op <;> rcases state with st | st <;> rw [op, st] <;> rfl
      exact step_disconnected idx held act drep stepped again same
    · intro spared
      obtain ⟨s, u, found, effect⟩ := (step_iff idx).mp stepped
      by_cases act : action e.op (u.flow s).state = .erase
      · rcases action_erase act with rej | ⟨drep, state⟩
        · exact step_rejected idx stepped found act rej
        · -- the lookup of a DREP found the flow, a new one would be idle
          have lookup := found
          have key : e.lookupKey = .null := by rcases drep with op | op <;> rw [Event.lookupKey, op]
          rw [key] at lookup
          obtain ⟨_, ⟨held, unchanged⟩ | ⟨_, rfl, rfl⟩⟩ := lookup.null_cases idx
          · subst u
            exact absurd ⟨e, s, read, drep, held, state⟩ spared
          · rw [Tracker.flow_newFlow, if_pos rfl] at state
            rcases state with st | st <;> cases st
      · exact ⟨t', step_again idx stepped found effect act, SameTables.refl _⟩

/-- A connection that the host opens and asks to close. -/
def closing : List Packet :=
  activeOpen 0x0200000a#32 1#32 2#32 0x11#32 0x22#32 ++ [fromHost cmDreqAttrId 0x0200000a#32 1#32 2#32 0#32]

/-- A late RTU of this connection may be repeated. -/
theorem retransmission_rtu : ∃ t t' t'', Tracked t ∧
    t.feed (fromHost cmRtuAttrId 0x0200000a#32 1#32 2#32 0#32) = .ok t' ∧
    t'.feed (fromHost cmRtuAttrId 0x0200000a#32 1#32 2#32 0#32) = .ok t'' ∧ SameTables t' t'' := by
  obtain ⟨t, t', ran, _, now, _⟩ := run_observe (e := fromHost cmRtuAttrId 0x0200000a#32 1#32 2#32 0#32)
    (show (run Tracker.feed Tracker.init closing).map (fun _ => ()) = .ok () by decide +kernel)
    (show (run Tracker.feed Tracker.init (closing ++ [fromHost cmRtuAttrId 0x0200000a#32 1#32 2#32 0#32])).map
      (fun _ => ()) = .ok () by decide +kernel)
  have tracked : Tracked t := ⟨_, ran⟩
  have spared : ¬ DrepErases t (fromHost cmRtuAttrId 0x0200000a#32 1#32 2#32 0#32) := by
    rintro ⟨e, s, read, drep, _⟩
    have attrId := read.fields.attrId
    have rtu : getAttrId (fromHost cmRtuAttrId 0x0200000a#32 1#32 2#32 0#32).1 = .ok cmRtuAttrId := by decide +kernel
    rw [rtu] at attrId
    rcases drep with op | op <;> rw [op] at attrId <;> exact absurd (Except.ok.inj attrId) (by decide)
  obtain ⟨t'', again, same⟩ := (retransmission tracked now).mpr spared
  exact ⟨t, t', t'', tracked, now, again, same⟩

/-- The second copy of its DREP enters a flow under the id that the first one erased. -/
theorem retransmission_drep : ∃ t t' t'', Tracked t ∧
    t.feed (fromNet cmDrepAttrId 0x0200000a#32 1#32 2#32 0#32) = .ok t' ∧
    t'.feed (fromNet cmDrepAttrId 0x0200000a#32 1#32 2#32 0#32) = .ok t'' ∧
    t'.localMap.find 1#32 = none ∧ t''.localMap.find 1#32 = some 1 := by
  obtain ⟨t', t'', ran, gone, again, ghost⟩ := run_observe (e := fromNet cmDrepAttrId 0x0200000a#32 1#32 2#32 0#32)
    (show (run Tracker.feed Tracker.init (closing ++ [fromNet cmDrepAttrId 0x0200000a#32 1#32 2#32 0#32])).map
      (fun t => t.localMap.find 1#32) = .ok none by decide +kernel)
    (show (run Tracker.feed Tracker.init (closing ++ [fromNet cmDrepAttrId 0x0200000a#32 1#32 2#32 0#32] ++
      [fromNet cmDrepAttrId 0x0200000a#32 1#32 2#32 0#32])).map (fun t => t.localMap.find 1#32) = .ok (some 1)
      by decide +kernel)
  obtain ⟨t, before, now⟩ := run_snoc_ok ran
  exact ⟨t, t', t'', ⟨_, before⟩, now, again, gone, ghost⟩

end ConntrackCm
