import ConntrackCm.Agreement
import ConntrackCm.Ownership
import ConntrackCm.Lib.Refinement

/-!
# The tracker as a table of connections

What the tracker is for, without its data structures: a set of connection records, one for each
connection it knows. A message finds the record with its ids, or adds one, and changes, keeps or
deletes it; the query is answered by the registered record with the key. The two indexes, the
shared flow objects and the query table implement this set: a run of the tracker whose REJ and DREP
messages name the connection they close is a run of the table, and every run of the table is one of
the tracker, in which no assertion fails (`tracker_refines_table`).
-/

namespace ConntrackCm

open Lib

/-! ## The table -/

/-- The records of the connections that are known. -/
abbrev Conns := Set FlowState

namespace Conns

/-- The record goes by these ids: by the local one, or by the key when there is none. -/
def Keyed (l : IdT) (k : CmFlowKey) (f : FlowState) : Prop :=
  if l ≠ 0#32 then f.localId = l else k.IsSet ∧ f.remoteId = k

/-- The record a message is about, and the table in which it has the ids of the message. -/
inductive Looks (C : Conns) (l : IdT) (k : CmFlowKey) : FlowState → Conns → Prop where
  | found {f : FlowState} (mem : f ∈ C) (keyed : Keyed l k f) : Looks C l k f C
  | added (ids : l ≠ 0#32 ∨ k.IsSet) (noLocal : l ≠ 0#32 → ∀ g ∈ C, g.localId ≠ l)
      (noRemote : k.IsSet → ∀ g ∈ C, g.remoteId ≠ k) :
      Looks C l k { localId := l, remoteId := if k.IsSet then k else .null }
        (insert { localId := l, remoteId := if k.IsSet then k else .null } C)
  /-- A record known by its remote key takes the local id. -/
  | joined {f : FlowState} (id : l ≠ 0#32) (noLocal : ∀ g ∈ C, g.localId ≠ l) (mem : f ∈ C) (key : k.IsSet)
      (own : f.remoteId = k) (unbound : f.localId = 0#32) :
      Looks C l k { f with localId := l } (replace C f { f with localId := l })

/-- What a message does to its record. -/
inductive Acts (e : Event) (f : FlowState) (C : Conns) : Conns → Prop where
  | ignores (act : action e.op f.state = .unexpected ∨ action e.op f.state = .duplicate) : Acts e f C C
  | requests {q : QpnT} (act : action e.op f.state = .sendReq) (qpn : e.qpn = .ok q) :
      Acts e f C (replace C f (Action.sendReq.update q f))
  | requested {q : QpnT} (act : action e.op f.state = .receiveReq) (qpn : e.qpn = .ok q)
      (same : f.state = .REQ_RCVD → f.remoteQpn = q) : Acts e f C (replace C f (Action.receiveReq.update q f))
  | replies {q : QpnT} {a : Action} (act : action e.op f.state = a) (rep : a = .sendRep ∨ a = .receiveRep)
      (qpn : e.qpn = .ok q) (own : e.remoteId.IsSet → f.remoteId = e.remoteId) :
      Acts e f C (replace C f (a.update q f))
  | binds {q : QpnT} {a : Action} (act : action e.op f.state = a) (rep : a = .sendRep ∨ a = .receiveRep)
      (qpn : e.qpn = .ok q) (key : e.remoteId.IsSet) (free : ∀ g ∈ C, g.remoteId ≠ e.remoteId)
      (unbound : ¬ f.remoteId.IsSet) : Acts e f C (replace C f (a.update q { f with remoteId := e.remoteId }))
  /-- A QPN is missing, or another record answers for the key. -/
  | establishes (act : action e.op f.state = .establish)
      (why : f.localQpn = 0#32 ∨ f.remoteQpn = 0#32 ∨ ∃ g ∈ C, g.inQpnMap = true ∧ g.getFlowKey = f.getFlowKey) :
      Acts e f C (replace C f { f with state := .ESTABLISHED })
  | registers (act : action e.op f.state = .establish) (lq : f.localQpn ≠ 0#32) (rq : f.remoteQpn ≠ 0#32)
      (vacant : ∀ g ∈ C, g.inQpnMap = true → g.getFlowKey ≠ f.getFlowKey) :
      Acts e f C (replace C f { f with state := .ESTABLISHED, inQpnMap := true })
  | disconnects {next : FlowSt} (act : action e.op f.state = .disconnect next) :
      Acts e f C (replace C f { f with state := next })
  /-- The message names the record, and no other one. -/
  | deletes (act : action e.op f.state = .erase) (id : f.localId = e.localId)
      (key : f.remoteId = e.remoteId ∨ (¬ f.remoteId.IsSet ∧ (e.remoteId.IsSet → ∀ g ∈ C, g.remoteId ≠ e.remoteId))) :
      Acts e f C (C \ {f})

/-- One message. -/
def Steps (e : Event) (C C' : Conns) : Prop := ∃ f D, Looks C e.localId e.lookupKey f D ∧ Acts e f D C'

/-- One packet; those without a handler do nothing. -/
def Takes (C : Conns) (x : Packet) (C' : Conns) : Prop :=
  (readEvent x.1 x.2 = .ok none ∧ C' = C) ∨ ∃ e, Reads x e ∧ Steps e C C'

/-- The table answers the query with `q`. -/
def Answers (C : Conns) (key : FlowKey) (q : QpnT) : Prop :=
  ∃ f ∈ C, f.inQpnMap = true ∧ f.getFlowKey = key ∧ f.localQpn = q

end Conns

/-! ## The table behind a tracker -/

/-- The records of the flows an index holds. -/
def Tracker.conns (t : Tracker) : Conns := t.flow '' {s | t.Holds s}

/-- The invariants of a tracker whose erasures name the flow they erase. -/
structure Coherent (t : Tracker) : Prop extends Indexed t, Agree t, QpnOwned t

theorem Coherent.init : Coherent Tracker.init := ⟨Indexed.init, Agree.init, QpnOwned.init⟩

section Coherent

variable {t u t' : Tracker} {s r : Ref} {l : IdT} {k : CmFlowKey}

/-- An index finds the flows it should. -/
theorem Coherent.local_iff (coh : Coherent t) :
    t.localMap.find l = some s ↔ l ≠ 0#32 ∧ t.Holds s ∧ (t.flow s).localId = l := by
  constructor
  · intro held
    have own := coh.local_own held
    exact ⟨own.1, Or.inl ⟨l, held⟩, own.2⟩
  · rintro ⟨id, ⟨l', here⟩ | ⟨k', there⟩, rfl⟩
    · exact coh.toIndexed.find_localId here
    · exact coh.toLocal there id

theorem Coherent.remote_iff (coh : Coherent t) :
    t.remoteMap.find k = some s ↔ k.IsSet ∧ t.Holds s ∧ (t.flow s).remoteId = k := by
  constructor
  · intro held
    have own := coh.remote_own held
    exact ⟨own.1, Or.inr ⟨k, held⟩, own.2⟩
  · rintro ⟨key, ⟨l', here⟩ | ⟨k', there⟩, rfl⟩
    · exact coh.toRemote here key
    · exact coh.toIndexed.find_remoteId there

theorem Coherent.local_none (coh : Coherent t) :
    t.localMap.find l = none ↔ (l ≠ 0#32 → ∀ g ∈ t.conns, g.localId ≠ l) := by
  rw [Option.eq_none_iff_forall_ne_some]
  constructor
  · rintro absent id _ ⟨s, held, rfl⟩ own
    exact absent s (coh.local_iff.mpr ⟨id, held, own⟩)
  · intro free s here
    obtain ⟨id, held, own⟩ := coh.local_iff.mp here
    exact free id _ ⟨s, held, rfl⟩ own

theorem Coherent.remote_none (coh : Coherent t) :
    t.remoteMap.find k = none ↔ (k.IsSet → ∀ g ∈ t.conns, g.remoteId ≠ k) := by
  rw [Option.eq_none_iff_forall_ne_some]
  constructor
  · rintro absent key _ ⟨s, held, rfl⟩ own
    exact absent s (coh.remote_iff.mpr ⟨key, held, own⟩)
  · intro free s here
    obtain ⟨key, held, own⟩ := coh.remote_iff.mp here
    exact free key _ ⟨s, held, rfl⟩ own

/-- A record stands for one flow. -/
theorem Coherent.injOn (coh : Coherent t) : Set.InjOn t.flow {s | t.Holds s} := by
  intro s held r held' same
  rcases held with ⟨l, here⟩ | ⟨k, there⟩
  · obtain ⟨id, _, own⟩ := coh.local_iff.mp here
    have also : t.localMap.find l = some r := coh.local_iff.mpr ⟨id, held', same ▸ own⟩
    exact Option.some.inj (here.symm.trans also)
  · obtain ⟨key, _, own⟩ := coh.remote_iff.mp there
    have also : t.remoteMap.find k = some r := coh.remote_iff.mpr ⟨key, held', same ▸ own⟩
    exact Option.some.inj (there.symm.trans also)

/-- A change of one flow that is held changes one record. -/
theorem Coherent.conns_update (coh : Coherent t) (held : t.Holds s) (same : ∀ r, t'.Holds r ↔ t.Holds r)
    (others : ∀ r, r ≠ s → t'.flow r = t.flow r) : t'.conns = replace t.conns (t.flow s) (t'.flow s) := by
  have holds : {r | t'.Holds r} = {r | t.Holds r} := Set.ext same
  rw [Tracker.conns, holds]
  exact image_update held coh.injOn fun r _ other => others r other

theorem Coherent.lookup (coh : Coherent t) (found : Lookup t l k s u) : Coherent u :=
  ⟨found.indexed coh.toIndexed, coh.toAgree.lookup coh.toIndexed found, coh.toQpnOwned.lookup coh.toIndexed found⟩

end Coherent

/-! ## Lookups -/

section Lookup

variable {t u : Tracker} {s : Ref} {l : IdT} {k : CmFlowKey} {f : FlowState} {D : Conns}

theorem Lookup.holds (found : Lookup t l k s u) : u.Holds s := by
  by_cases zero : l = 0#32
  · exact Or.inr ⟨k, (found.stored_remote zero).2⟩
  · exact Or.inl ⟨l, found.stored_local zero⟩

theorem holds_newFlow (noLocal : t.localMap.find l = none) (noRemote : t.remoteMap.find k = none)
    (ids : l ≠ 0#32 ∨ k.IsSet) (r : Ref) : (t.newFlow l k).Holds r ↔ r = t.flows.next ∨ t.Holds r := by
  have created : Lookup t l k t.flows.next (t.newFlow l k) := .created ids noLocal noRemote
  constructor
  · intro held
    by_cases new : r = t.flows.next
    · exact Or.inl new
    · right
      rcases held with ⟨l', here⟩ | ⟨k', there⟩
      · exact Or.inl ⟨l', created.held_before new here⟩
      · exact Or.inr ⟨k', created.remote_before new there⟩
  · rintro (rfl | ⟨l', here⟩ | ⟨k', there⟩)
    · exact created.holds
    · exact Or.inl ⟨l', created.keeps_local here⟩
    · exact Or.inr ⟨k', created.keeps_remote there⟩

theorem conns_newFlow (idx : Indexed t) (noLocal : t.localMap.find l = none) (noRemote : t.remoteMap.find k = none)
    (ids : l ≠ 0#32 ∨ k.IsSet) :
    (t.newFlow l k).conns = insert { localId := l, remoteId := if k.IsSet then k else .null } t.conns := by
  have old : ∀ r ∈ {r | t.Holds r}, (t.newFlow l k).flow r = t.flow r := by
    intro r held
    have used : r < t.flows.next := by
      rcases held with ⟨l', here⟩ | ⟨k', there⟩
      · exact idx.local_lt here
      · exact idx.remote_lt there
    rw [Tracker.flow_newFlow, if_neg (Nat.ne_of_lt used)]
  have new : (t.newFlow l k).flow t.flows.next = { localId := l, remoteId := if k.IsSet then k else .null } := by
    rw [Tracker.flow_newFlow, if_pos rfl]
  rw [← new]
  exact image_add (holds_newFlow noLocal noRemote ids) old

theorem holds_bindLocal (noLocal : t.localMap.find l = none) (there : t.remoteMap.find k = some s) (r : Ref) :
    (t.bindLocal s l).Holds r ↔ t.Holds r := by
  constructor
  · rintro (⟨l', here⟩ | ⟨k', held⟩)
    · rw [Tracker.localMap_bindLocal, Table.find_insert] at here
      split_ifs at here
      · cases here
        exact Or.inr ⟨k, there⟩
      · exact Or.inl ⟨l', here⟩
    · exact Or.inr ⟨k', held⟩
  · rintro (⟨l', here⟩ | ⟨k', held⟩)
    · left
      refine ⟨l', ?_⟩
      have other : l' ≠ l := by
        rintro rfl
        rw [noLocal] at here
        cases here
      rw [Tracker.localMap_bindLocal, Table.find_insert, if_neg other]
      exact here
    · exact Or.inr ⟨k', held⟩

theorem Coherent.conns_bindLocal (coh : Coherent t) (noLocal : t.localMap.find l = none)
    (there : t.remoteMap.find k = some s) :
    (t.bindLocal s l).conns = replace t.conns (t.flow s) { t.flow s with localId := l } := by
  have flow : (t.bindLocal s l).flow s = { t.flow s with localId := l } := by
    rw [Tracker.flow_bindLocal, if_pos rfl]
  rw [← flow]
  refine coh.conns_update (Or.inr ⟨k, there⟩) (holds_bindLocal noLocal there) ?_
  intro r other
  rw [Tracker.flow_bindLocal, if_neg other]

/-- A lookup of the tracker is one of the table. -/
theorem Coherent.looks (coh : Coherent t) (found : Lookup t l k s u) :
    Conns.Looks t.conns l k (u.flow s) u.conns := by
  cases found with
  | byLocal id here =>
    obtain ⟨_, held, own⟩ := coh.local_iff.mp here
    exact .found ⟨s, held, rfl⟩ (by rw [Conns.Keyed, if_pos id]; exact own)
  | byRemote zero key there =>
    obtain ⟨_, held, own⟩ := coh.remote_iff.mp there
    exact .found ⟨s, held, rfl⟩ (by rw [Conns.Keyed, if_neg (not_not_intro zero)]; exact ⟨key, own⟩)
  | created ids noLocal noRemote =>
    rw [conns_newFlow coh.toIndexed noLocal noRemote ids, Tracker.flow_newFlow, if_pos rfl]
    exact .added ids (coh.local_none.mp noLocal) (coh.remote_none.mp noRemote)
  | bound id noLocal there unbound =>
    obtain ⟨key, held, own⟩ := coh.remote_iff.mp there
    rw [coh.conns_bindLocal noLocal there, Tracker.flow_bindLocal, if_pos rfl]
    exact .joined id (coh.local_none.mp noLocal id) ⟨s, held, rfl⟩ key own unbound

/-- A lookup of the table is one of the tracker. -/
theorem Coherent.lookup_of_looks (coh : Coherent t) (looks : Conns.Looks t.conns l k f D) :
    ∃ s u, Lookup t l k s u ∧ u.flow s = f ∧ u.conns = D := by
  cases looks with
  | found mem keyed =>
    obtain ⟨s, held, rfl⟩ := mem
    unfold Conns.Keyed at keyed
    split_ifs at keyed with id
    · exact ⟨s, t, .byLocal id (coh.local_iff.mpr ⟨id, held, keyed⟩), rfl, rfl⟩
    · exact ⟨s, t, .byRemote (not_not.mp id) keyed.1 (coh.remote_iff.mpr ⟨keyed.1, held, keyed.2⟩), rfl, rfl⟩
  | added ids noLocal noRemote =>
    have noLocal := coh.local_none.mpr noLocal
    have noRemote := coh.remote_none.mpr noRemote
    refine ⟨_, _, .created ids noLocal noRemote, ?_, conns_newFlow coh.toIndexed noLocal noRemote ids⟩
    rw [Tracker.flow_newFlow, if_pos rfl]
  | joined id noLocal mem key own unbound =>
    obtain ⟨s, held, rfl⟩ := mem
    have noLocal := coh.local_none.mpr fun _ => noLocal
    have there := coh.remote_iff.mpr ⟨key, held, own⟩
    refine ⟨s, _, .bound id noLocal there unbound, ?_, coh.conns_bindLocal noLocal there⟩
    rw [Tracker.flow_bindLocal, if_pos rfl]

end Lookup

/-! ## Effects -/

section Effect

variable {t u t' : Tracker} {e : Event} {s : Ref} {C : Conns} {key : FlowKey}

/-- The entries of the query table are those of the registered records. -/
theorem Coherent.answers_iff (coh : Coherent u) {q : QpnT} : u.qpnMap.find key = some q ↔ Conns.Answers u.conns key q := by
  constructor
  · intro found
    obtain ⟨s, owns⟩ := coh.owner found
    exact ⟨_, ⟨s, Or.inl ⟨_, owns.stored⟩, rfl⟩, owns.flag, owns.key, owns.qpn⟩
  · rintro ⟨_, ⟨s, _, rfl⟩, flag, rfl, rfl⟩
    exact (coh.registered flag).entry

theorem Coherent.vacant_iff (coh : Coherent u) :
    u.qpnMap.find key = none ↔ ∀ g ∈ u.conns, g.inQpnMap = true → g.getFlowKey ≠ key := by
  rw [Option.eq_none_iff_forall_ne_some]
  constructor
  · intro absent g mem flag own
    exact absent g.localQpn (coh.answers_iff.mpr ⟨g, mem, flag, own, rfl⟩)
  · intro vacant q found
    obtain ⟨g, mem, flag, own, _⟩ := coh.answers_iff.mp found
    exact vacant g mem flag own

theorem Effect.holds_iff (effect : Effect e s u t') (live : action e.op (u.flow s).state ≠ .erase) (held : u.Holds s)
    (r : Ref) : t'.Holds r ↔ u.Holds r := by
  obtain ⟨locals, remotes⟩ := effect.keeps live
  constructor
  · rintro (⟨l, here⟩ | ⟨k, there⟩)
    · exact Or.inl ⟨l, locals ▸ here⟩
    · by_cases same : r = s
      · exact same ▸ held
      · exact Or.inr ⟨k, effect.remote_before same there⟩
  · rintro (⟨l, here⟩ | ⟨k, there⟩)
    · exact Or.inl ⟨l, locals.symm ▸ here⟩
    · exact Or.inr ⟨k, remotes k r there⟩

/-- What does not erase the flow changes its record. -/
theorem Coherent.conns_effect (coh : Coherent u) (effect : Effect e s u t')
    (live : action e.op (u.flow s).state ≠ .erase) (held : u.Holds s) :
    t'.conns = replace u.conns (u.flow s) (t'.flow s) :=
  coh.conns_update held (effect.holds_iff live held) fun _ other => effect.flow_of_ne other

/-- An erasure that names the flow deletes its record. -/
theorem Coherent.conns_dropFlow (coh : Coherent u) (found : Lookup t e.localId e.lookupKey s u)
    (own : OwnIds u s e.localId e.remoteId) :
    (u.dropFlow s e.localId e.remoteId).conns = u.conns \ {u.flow s} := by
  have gone := found.erased coh.toIndexed coh.toAgree own
  refine image_remove (s := s) found.holds coh.injOn ?_ fun r _ other => Tracker.flow_dropFlow_of_ne other
  intro r
  constructor
  · rintro (⟨l, here⟩ | ⟨k, there⟩)
    · have other : r ≠ s := fun same => gone.noLocal l (same ▸ here)
      rw [Tracker.localMap_dropFlow, Table.find_erase] at here
      split_ifs at here
      exact ⟨Or.inl ⟨l, here⟩, other⟩
    · have other : r ≠ s := fun same => gone.noRemote k (same ▸ there)
      rw [Tracker.remoteMap_dropFlow, Table.find_erase] at there
      split_ifs at there
      exact ⟨Or.inr ⟨k, there⟩, other⟩
  · rintro ⟨⟨l, here⟩ | ⟨k, there⟩, other⟩
    · exact Or.inl ⟨l, gone.locals l r other here⟩
    · exact Or.inr ⟨k, gone.remotes k r other there⟩

/-- The ids that name a flow name its record. -/
theorem Coherent.ownIds_iff (coh : Coherent u) : OwnIds u s e.localId e.remoteId ↔
    (u.flow s).localId = e.localId ∧ ((u.flow s).remoteId = e.remoteId ∨
      (¬ (u.flow s).remoteId.IsSet ∧ (e.remoteId.IsSet → ∀ g ∈ u.conns, g.remoteId ≠ e.remoteId))) := by
  rw [OwnIds, coh.remote_none]

/-- A flow under the key of a REP is the one that has it. -/
theorem Coherent.stored_iff (coh : Coherent u) (held : u.Holds s) :
    (e.remoteId.IsSet → u.remoteMap.find e.remoteId = some s) ↔
      (e.remoteId.IsSet → (u.flow s).remoteId = e.remoteId) := by
  constructor
  · intro stored set
    exact (coh.remote_own (stored set)).2
  · intro own set
    exact coh.remote_iff.mpr ⟨set, held, own set⟩

/-- An effect on the tracker is one on the table. -/
theorem Coherent.acts (coh : Coherent u) (found : Lookup t e.localId e.lookupKey s u) (effect : Effect e s u t')
    (own : action e.op (u.flow s).state = .erase → OwnIds u s e.localId e.remoteId) :
    Conns.Acts e (u.flow s) u.conns t'.conns := by
  have held := found.holds
  by_cases live : action e.op (u.flow s).state = .erase
  · have after := (effect.perform found coh.toIndexed).symm.trans
      ((congrArg (u.perform s e) live).trans (found.eraseFlow found.stored_key))
    obtain ⟨id, key⟩ := coh.ownIds_iff.mp (own live)
    rw [Except.ok.inj after, coh.conns_dropFlow found (own live)]
    exact .deletes live id key
  have table := coh.conns_effect effect live held
  cases effect with
  | kept act => exact .ignores act
  | sentReq act qpn =>
    rw [table, Tracker.flow_modify_self]
    exact .requests act qpn
  | receivedReq act qpn same =>
    rw [table, Tracker.flow_modify_self]
    exact .requested act qpn same
  | replied act rep qpn stored =>
    rw [table, Tracker.flow_modify_self]
    exact .replies act rep qpn ((coh.stored_iff held).mp stored)
  | repliedBound act rep qpn key noRemote unbound =>
    rw [table, Tracker.flow_bindRemote, if_pos rfl, Tracker.flow_modify_self, ← update_bound]
    exact .binds act rep qpn key (coh.remote_none.mp noRemote key) unbound
  | established act =>
    rcases u.establish_cases s rfl with ⟨flow, _, why⟩ | ⟨flow, _, lq, rq, vacant⟩
    · rw [table, flow]
      refine .establishes act (why.imp id (Or.imp id fun taken => ?_))
      rw [Ne, coh.vacant_iff] at taken
      push Not at taken
      exact taken
    · rw [table, flow]
      exact .registers act lq rq (coh.vacant_iff.mp vacant)
  | disconnected act =>
    rw [table, Tracker.flow_modify_self]
    exact .disconnects act
  | erased act => exact absurd act live

/-- An effect on the table is one on the tracker. -/
theorem Coherent.effect_of_acts (coh : Coherent u) (found : Lookup t e.localId e.lookupKey s u)
    (acts : Conns.Acts e (u.flow s) u.conns C) :
    ∃ t', Effect e s u t' ∧ t'.conns = C ∧
      (action e.op (u.flow s).state = .erase → OwnIds u s e.localId e.remoteId) := by
  have held := found.holds
  have other : ∀ {a : Action}, action e.op (u.flow s).state = a → a ≠ .erase →
      (action e.op (u.flow s).state = .erase → OwnIds u s e.localId e.remoteId) :=
    fun act live erases => absurd (act.symm.trans erases) live
  cases acts with
  | ignores act =>
    refine ⟨u, .kept act, rfl, ?_⟩
    rcases act with act | act
    · exact other act (by simp)
    · exact other act (by simp)
  | requests act qpn =>
    have effect : Effect e s u _ := .sentReq act qpn
    refine ⟨_, effect, ?_, other act (by simp)⟩
    rw [coh.conns_effect effect (by rw [act]; simp) held, Tracker.flow_modify_self]
  | requested act qpn same =>
    have effect : Effect e s u _ := .receivedReq act qpn same
    refine ⟨_, effect, ?_, other act (by simp)⟩
    rw [coh.conns_effect effect (by rw [act]; simp) held, Tracker.flow_modify_self]
  | replies act rep qpn own =>
    have live : action e.op (u.flow s).state ≠ .erase := by
      rw [act]
      rcases rep with rfl | rfl <;> simp
    have effect : Effect e s u _ := .replied act rep qpn ((coh.stored_iff held).mpr own)
    refine ⟨_, effect, ?_, fun erases => absurd erases live⟩
    rw [coh.conns_effect effect live held, Tracker.flow_modify_self]
  | binds act rep qpn key free unbound =>
    have live : action e.op (u.flow s).state ≠ .erase := by
      rw [act]
      rcases rep with rfl | rfl <;> simp
    have effect : Effect e s u _ := .repliedBound act rep qpn key (coh.remote_none.mpr fun _ => free) unbound
    refine ⟨_, effect, ?_, fun erases => absurd erases live⟩
    rw [coh.conns_effect effect live held, Tracker.flow_bindRemote, if_pos rfl, Tracker.flow_modify_self,
      ← update_bound]
  | establishes act why =>
    have effect : Effect e s u _ := .established act
    refine ⟨_, effect, ?_, other act (by simp)⟩
    rw [coh.conns_effect effect (by rw [act]; simp) held]
    rcases u.establish_cases s rfl with ⟨flow, _⟩ | ⟨_, _, lq, rq, vacant⟩
    · rw [flow]
    · rcases why with zero | zero | ⟨g, mem, flag, same⟩
      · exact absurd zero lq
      · exact absurd zero rq
      · exact absurd same (coh.vacant_iff.mp vacant g mem flag)
  | registers act lq rq vacant =>
    have effect : Effect e s u _ := .established act
    refine ⟨_, effect, ?_, other act (by simp)⟩
    rw [coh.conns_effect effect (by rw [act]; simp) held]
    rcases u.establish_cases s rfl with ⟨_, _, zero | zero | taken⟩ | ⟨flow, _⟩
    · exact absurd zero lq
    · exact absurd zero rq
    · exact absurd (coh.vacant_iff.mpr vacant) taken
    · rw [flow]
  | disconnects act =>
    have effect : Effect e s u _ := .disconnected act
    refine ⟨_, effect, ?_, other act (by simp)⟩
    rw [coh.conns_effect effect (by rw [act]; simp) held, Tracker.flow_modify_self]
    rfl
  | deletes act id key =>
    have own : OwnIds u s e.localId e.remoteId := coh.ownIds_iff.mpr ⟨id, key⟩
    exact ⟨_, .erased act, coh.conns_dropFlow found own, fun _ => own⟩

end Effect

/-! ## The refinement -/

theorem Coherent.feed {t t' : Tracker} {x : Packet} (coh : Coherent t) (own : ErasesOwn t x) (now : t.feed x = .ok t') :
    Coherent t' := by
  refine ⟨coh.toIndexed.feed now, (coh.toAgree.feed coh.toIndexed own now).1, ?_⟩
  rcases feed_ok now with ⟨_, rfl⟩ | ⟨e, _, stepped⟩
  · exact coh.toQpnOwned
  · exact coh.toQpnOwned.step coh.toIndexed stepped

/-- A packet that erases a flow names it, seen from the lookup. -/
theorem erasesOwn_iff {t u : Tracker} {x : Packet} {e : Event} {s : Ref} (idx : Indexed t) (reads : Reads x e)
    (found : Lookup t e.localId e.lookupKey s u) :
    ErasesOwn t x ↔ (action e.op (u.flow s).state = .erase → OwnIds u s e.localId e.remoteId) := by
  constructor
  · intro own act
    refine found.ownIds idx act fun held => own e s reads held ?_
    cases found.getFlow.symm.trans (Lookup.of_findFlow idx held).getFlow
    exact act
  · intro own e' s' reads' held act
    cases Option.some.inj (Except.ok.inj (reads'.symm.trans reads))
    cases found.getFlow.symm.trans (Lookup.of_findFlow idx held).getFlow
    exact own act

theorem Coherent.takes_iff {t : Tracker} {x : Packet} {C : Conns} (coh : Coherent t) :
    Conns.Takes t.conns x C ↔ ∃ t', t.feed x = .ok t' ∧ ErasesOwn t x ∧ t'.conns = C := by
  have idx := coh.toIndexed
  constructor
  · rintro (⟨silent, rfl⟩ | ⟨e, reads, f, D, looks, acts⟩)
    · refine ⟨t, feed_of_none silent, fun e s reads => ?_, rfl⟩
      rw [Reads, silent] at reads
      cases reads
    · obtain ⟨s, u, found, rfl, rfl⟩ := coh.lookup_of_looks looks
      obtain ⟨t', effect, rfl, own⟩ := (coh.lookup found).effect_of_acts found acts
      exact ⟨t', (feed_of_event reads).trans ((step_iff idx).mpr ⟨s, u, found, effect⟩),
        (erasesOwn_iff idx reads found).mpr own, rfl⟩
  · rintro ⟨t', now, own, rfl⟩
    rcases feed_ok now with ⟨silent, rfl⟩ | ⟨e, reads, stepped⟩
    · exact Or.inl ⟨silent, rfl⟩
    · obtain ⟨s, u, found, effect⟩ := (step_iff idx).mp stepped
      exact Or.inr ⟨e, reads, _, _, coh.looks found,
        (coh.lookup found).acts found effect ((erasesOwn_iff idx reads found).mp own)⟩

/-- The tracker refines the table, packet by packet. -/
theorem tracker_refines : Refines Tracker.feed Coherent ErasesOwn Tracker.conns Conns.Takes where
  keep _ _ _ coh own now := coh.feed own now
  exact_step _ _ _ coh := coh.takes_iff

theorem conns_init : Tracker.init.conns = ∅ := by
  rw [Tracker.conns, Set.image_eq_empty]
  ext s
  simp [Tracker.Holds, Tracker.init, Table.empty]

/-- **The tracker implements the table of connections.** From a fresh tracker a list of packets is a
run of the table exactly if the tracker processes it without a fault and each erasure names the
flow it erases; the table it leads to is the one behind the tracker, and it gives the answers. -/
theorem tracker_refines_table (xs : List Packet) (C : Conns) :
    (Runs Conns.Takes ∅ xs C ↔
      ∃ t, run Tracker.feed Tracker.init xs = .ok t ∧ Along Tracker.feed ErasesOwn Tracker.init xs ∧ t.conns = C) ∧
    ∀ t, Runs Conns.Takes ∅ xs C → run Tracker.feed Tracker.init xs = .ok t →
      ∀ ip dqpn q, q ≠ 0#32 → (ctcmQueryIpv4 t ip dqpn = q ↔ C.Answers (ip, dqpn) q) := by
  have same : Runs Conns.Takes Tracker.init.conns xs C ↔ _ := tracker_refines.runs_iff Coherent.init
  rw [conns_init] at same
  refine ⟨same, ?_⟩
  intro t runs ran ip dqpn q nonzero
  obtain ⟨t', ran', along, rfl⟩ := same.mp runs
  cases ran.symm.trans ran'
  have coh : Coherent t := along.invariant tracker_refines.keep Coherent.init ran
  rw [← coh.answers_iff, ctcmQueryIpv4, Tracker.getSourceQpn_iff nonzero]

/-- A message that closes nothing. -/
theorem erasesOwn_of_reads {x : Packet} {e : Event} (reads : Reads x e) (live : ∀ st, action e.op st ≠ .erase)
    (t : Tracker) : ErasesOwn t x := by
  intro e' s reads' _ act
  cases Option.some.inj (Except.ok.inj (reads'.symm.trans reads))
  exact absurd act (live _)

/-- The handshake of a connection that the host opens is a run of the table, which answers. -/
theorem tracker_refines_table_open : ∃ C t,
    Runs Conns.Takes ∅ (activeOpen 0x0200000a#32 1#32 2#32 0x11#32 0x22#32) C ∧
      run Tracker.feed Tracker.init (activeOpen 0x0200000a#32 1#32 2#32 0x11#32 0x22#32) = .ok t ∧
      C.Answers (0x0200000a#32, 0x22#32) 0x11#32 := by
  obtain ⟨t, ran, seen⟩ := map_ok (show (run Tracker.feed Tracker.init
      (activeOpen 0x0200000a#32 1#32 2#32 0x11#32 0x22#32)).map (fun t => ctcmQueryIpv4 t 0x0200000a#32 0x22#32) =
    .ok 0x11#32 by decide +kernel)
  have req : HostReq 1#32 0x11#32 (fromHost cmReqAttrId 0x0200000a#32 1#32 0#32 0x11#32) :=
    ⟨rfl, by decide +kernel, by decide +kernel⟩
  have rep : NetRep 0x0200000a#32 1#32 2#32 0x22#32 (fromNet cmRepAttrId 0x0200000a#32 1#32 2#32 0x22#32) :=
    ⟨⟨rfl, by decide +kernel, by decide +kernel⟩, by decide +kernel⟩
  have rtu : HostRtu 1#32 (fromHost cmRtuAttrId 0x0200000a#32 1#32 2#32 0#32) :=
    ⟨rfl, by decide +kernel, by decide +kernel⟩
  have along : Along Tracker.feed ErasesOwn Tracker.init (activeOpen 0x0200000a#32 1#32 2#32 0x11#32 0x22#32) := by
    apply along_of_forall
    intro x member m
    simp only [activeOpen, List.mem_cons, List.not_mem_nil, or_false] at member
    rcases member with rfl | rfl | rfl
    · exact erasesOwn_of_reads (hostReq_iff.mp req) (by intro st; cases st <;> simp [action]) m
    · exact erasesOwn_of_reads (netRep_iff (k := ⟨0x0200000a#32, 2#32⟩) |>.mp rep) (by intro st; cases st <;> simp [action]) m
    · exact erasesOwn_of_reads (hostRtu_iff.mp rtu) (by intro st; cases st <;> simp [action]) m
  obtain ⟨same, answers⟩ := tracker_refines_table (activeOpen 0x0200000a#32 1#32 2#32 0x11#32 0x22#32) t.conns
  have runs := same.mpr ⟨t, ran, along, rfl⟩
  exact ⟨t.conns, t, runs, ran, (answers t runs ran _ _ _ (by decide)).mp seen⟩

end ConntrackCm
