import ConntrackCm.Opening

/-!
# A connection the peer opens

The peer's REQ enters the flow under its remote key, and only the host's REP, which is looked up
by the local id first, joins the local id to it. A lookup creates what it does not find: an RTU
that comes before the first REP leaves an idle flow under the local id, the REP then finds that
flow instead of the one with the REQ, and the two never come together (`ghost`). Words without
such an RTU are read by an automaton that waits for each message in turn.
-/

namespace ConntrackCm

open Lib

/-- How far the handshake has come. A REP that comes first enters an idle flow under both ids
(`early`), and the handshake goes on with it. -/
inductive PassivePhase where
  | absent | reqRcvd | ghost | early | earlyReq | repSent | established
  deriving DecidableEq, Repr

/-- No RTU comes before the first REP. -/
def RepFirst (w : List Msg) : Prop := .rtu ∉ w.takeWhile (· ≠ .rep)

instance (w : List Msg) : Decidable (RepFirst w) := inferInstanceAs (Decidable (¬ _))

namespace PassivePhase

def next : PassivePhase → Msg → PassivePhase
  | .absent, .req => .reqRcvd
  | .absent, .rep => .early
  | .absent, .rtu | .reqRcvd, .rtu => .ghost
  | .reqRcvd, .rep | .earlyReq, .rep => .repSent
  | .early, .req => .earlyReq
  | .repSent, .rtu => .established
  | p, _ => p

/-- The words that lead to an established connection. -/
def Accepts (w : List Msg) : PassivePhase → Prop
  | .absent => [.req, .rep, .rtu].Sublist w ∧ RepFirst w
  | .reqRcvd => [.rep, .rtu].Sublist w ∧ RepFirst w
  | .ghost => False
  | .early => [.req, .rep, .rtu].Sublist w
  | .earlyReq => [.rep, .rtu].Sublist w
  | .repSent => [.rtu].Sublist w
  | .established => True

theorem accepts_next (p : PassivePhase) (m : Msg) (w : List Msg) : p.Accepts (m :: w) ↔ (p.next m).Accepts w := by
  cases p <;> cases m <;> simp [Accepts, next, RepFirst, List.cons_sublist_cons']

theorem accepts (w : List Msg) (p : PassivePhase) : w.foldl next p = .established ↔ p.Accepts w := by
  induction w generalizing p with
  | nil => cases p <;> simp [Accepts]
  | cons m w ih => rw [List.foldl_cons, ih, accepts_next]

/-- The flow of a REQ that was received, under the local id `l` or, with 0, under none. -/
def reqFlow (l : IdT) (k : CmFlowKey) (rq : QpnT) : FlowState :=
  { state := .REQ_RCVD, localId := l, remoteId := k, remoteQpn := rq }

/-- The REQ has been received, and its flow is known by the remote key alone. -/
def Requested (k : CmFlowKey) (rq : QpnT) (t : Tracker) : Prop :=
  ∃ r, t.remoteMap.find k = some r ∧ t.flow r = reqFlow 0#32 k rq

/-- The tracker in each phase. -/
def At (l : IdT) (k : CmFlowKey) (lq rq : QpnT) (t : Tracker) : PassivePhase → Prop
  | .absent => t.localMap.find l = none ∧ t.remoteMap.find k = none ∧ t.qpnMap.find (k.addr, rq) = none
  | .reqRcvd => t.localMap.find l = none ∧ Requested k rq t ∧ t.qpnMap.find (k.addr, rq) = none
  | .ghost => (∃ s, t.localMap.find l = some s ∧ t.flow s = { localId := l }) ∧
      (t.remoteMap.find k = none ∨ Requested k rq t) ∧ t.qpnMap.find (k.addr, rq) = none
  | .early => ∃ s, Stands l k (k.addr, rq) t s { localId := l, remoteId := k } none
  | .earlyReq => ∃ s, Stands l k (k.addr, rq) t s (reqFlow l k rq) none
  | .repSent => ∃ s, Stands l k (k.addr, rq) t s
      { state := .REP_SENT, localId := l, remoteId := k, localQpn := lq, remoteQpn := rq } none
  | .established => ∃ s, Stands l k (k.addr, rq) t s
      { state := .ESTABLISHED, localId := l, remoteId := k, localQpn := lq, remoteQpn := rq, inQpnMap := true }
      (some lq)

end PassivePhase

/-- What the handlers read from the three packets. -/
def passiveEvent (l : IdT) (k : CmFlowKey) (lq rq : QpnT) : Msg → Event
  | .req => ⟨.reqReceived, 0#32, k, .ok rq⟩
  | .rep => ⟨.repSent, l, k, .ok lq⟩
  | .rtu => ⟨.rtuReceived, l, .null, .ok 0#32⟩

theorem passiveEvent_names (l : IdT) (k : CmFlowKey) (lq rq : QpnT) (m : Msg) :
    Names l k (passiveEvent l k lq rq m) := by
  cases m
  · exact ⟨Or.inl rfl, Or.inl rfl⟩
  · exact ⟨Or.inr rfl, Or.inl rfl⟩
  · exact ⟨Or.inr rfl, Or.inr CmFlowKey.not_isSet_null⟩

section Moves

open PassivePhase (reqFlow Requested)

variable {l : IdT} {k : CmFlowKey} {lq rq : QpnT} {t u : Tracker} {s r : Ref} {f : FlowState} {entry : Option QpnT}

/-! ## While the remote key alone is known -/

/-- A REQ for a key that is not known enters the flow under it. -/
theorem received_new (idx : Indexed t) (set : k.IsSet) (noRemote : t.remoteMap.find k = none) :
    Moves (k.addr, rq) t (passiveEvent l k lq rq .req)
      ((t.newFlow 0#32 k).modify t.flows.next fun f => Action.receiveReq.update rq f) := by
  have flow : (t.newFlow 0#32 k).flow t.flows.next = { localId := 0#32, remoteId := k } := by
    rw [Tracker.flow_newFlow, if_pos rfl, if_pos set]
  have created : Lookup t 0#32 k t.flows.next (t.newFlow 0#32 k) := .created (Or.inr set) idx.no_zero noRemote
  have act : action .reqReceived ((t.newFlow 0#32 k).flow t.flows.next).state = .receiveReq := by rw [flow]; rfl
  refine ⟨_, _, created, .receivedReq act rfl ?_, ?_⟩
  · intro received
    rw [flow] at received
    cases received
  · intro nonzero
    rw [flow] at nonzero
    exact absurd rfl nonzero

/-- A REQ for a flow that is idle or has this REQ already. -/
theorem received_known (set : k.IsSet) (there : t.remoteMap.find k = some r) (flow : t.flow r = f)
    (act : action .reqReceived f.state = .receiveReq) (same : f.state = .REQ_RCVD → f.remoteQpn = rq)
    (keyed : f.remoteQpn ≠ 0#32 → f.getFlowKey = (k.addr, rq)) :
    Moves (k.addr, rq) t (passiveEvent l k lq rq .req) (t.modify r fun f => Action.receiveReq.update rq f) := by
  refine ⟨_, _, .byRemote rfl set there, .receivedReq ?_ rfl ?_, ?_⟩ <;> rw [flow]
  · exact act
  · exact same
  · exact keyed

/-- After a REQ, first or repeated, its flow is known by the remote key, and what stands under
the local id is as before. -/
theorem Requested.received (l : IdT) (lq : QpnT) (idx : Indexed t) (set : k.IsSet)
    (known : t.remoteMap.find k = none ∨ Requested k rq t) :
    ∃ t', Moves (k.addr, rq) t (passiveEvent l k lq rq .req) t' ∧ Requested k rq t' ∧
      t'.localMap.find l = t.localMap.find l ∧ t'.qpnMap = t.qpnMap ∧
      ∀ s, s < t.flows.next → (t.flow s).remoteId ≠ k → t'.flow s = t.flow s := by
  rcases known with noRemote | ⟨r, there, flow⟩
  · refine ⟨_, received_new idx set noRemote, ⟨t.flows.next, ?_, ?_⟩, ?_, rfl, ?_⟩
    · rw [Tracker.remoteMap_modify, Tracker.find_remoteMap_newFlow, if_pos ⟨rfl, set⟩]
    · rw [Tracker.flow_modify_self, Tracker.flow_newFlow, if_pos rfl, if_pos set]
      rfl
    · rw [Tracker.localMap_modify, Tracker.find_localMap_newFlow, if_neg (fun h => h.2 rfl)]
    · intro s old _
      rw [Tracker.flow_modify_of_ne (Nat.ne_of_lt old), Tracker.flow_newFlow, if_neg (Nat.ne_of_lt old)]
  · refine ⟨_, received_known set there flow rfl (fun _ => rfl) (fun _ => rfl), ⟨r, there, ?_⟩, rfl, rfl, ?_⟩
    · rw [Tracker.flow_modify_self, flow]
      rfl
    · intro s _ other
      refine Tracker.flow_modify_of_ne ?_
      rintro rfl
      rw [flow] at other
      exact other rfl

/-- An RTU for a local id that is not known leaves an idle flow under it. -/
theorem rtu_new (idx : Indexed t) (id : l ≠ 0#32) (noLocal : t.localMap.find l = none) :
    Moves (k.addr, rq) t (passiveEvent l k lq rq .rtu) (t.newFlow l .null) := by
  have flow : (t.newFlow l .null).flow t.flows.next = { localId := l } := by
    rw [Tracker.flow_newFlow, if_pos rfl]
    rfl
  have created : Lookup t l .null t.flows.next (t.newFlow l .null) :=
    .created (Or.inl id) noLocal (idx.no_unset CmFlowKey.not_isSet_null)
  have act : action .rtuReceived ((t.newFlow l .null).flow t.flows.next).state = .unexpected := by rw [flow]; rfl
  refine ⟨_, _, created, .kept (Or.inl act), ?_⟩
  intro nonzero
  rw [flow] at nonzero
  exact absurd rfl nonzero

/-- From here on a ghost stands in the way of the REP. -/
theorem ghost_of_rtu (idx : Indexed t) (id : l ≠ 0#32) (noLocal : t.localMap.find l = none)
    (known : t.remoteMap.find k = none ∨ Requested k rq t) (vacant : t.qpnMap.find (k.addr, rq) = none) :
    ∃ t', Moves (k.addr, rq) t (passiveEvent l k lq rq .rtu) t' ∧ PassivePhase.At l k lq rq t' .ghost := by
  have remotes : (t.newFlow l .null).remoteMap.find k = t.remoteMap.find k := by
    rw [Tracker.find_remoteMap_newFlow, if_neg (fun h => CmFlowKey.not_isSet_null h.2)]
  refine ⟨_, rtu_new idx id noLocal, ⟨t.flows.next, ?_, ?_⟩, ?_, vacant⟩
  · rw [Tracker.find_localMap_newFlow, if_pos ⟨rfl, id⟩]
  · rw [Tracker.flow_newFlow, if_pos rfl]
    rfl
  · rcases known with noRemote | ⟨r, there, flow⟩
    · exact Or.inl (remotes.trans noRemote)
    · refine Or.inr ⟨r, remotes.trans there, ?_⟩
      rw [Tracker.flow_newFlow, if_neg (Nat.ne_of_lt (idx.remote_lt there)), flow]

/-! ## Once the REP has joined the local id -/

/-- The flow of the REQ takes the local id of the REP. -/
theorem Requested.bindLocal (there : t.remoteMap.find k = some r) (flow : t.flow r = reqFlow 0#32 k rq)
    (vacant : t.qpnMap.find (k.addr, rq) = none) :
    Stands l k (k.addr, rq) (t.bindLocal r l) r (reqFlow l k rq) none := by
  refine ⟨?_, ?_, ?_, vacant⟩
  · rw [Tracker.localMap_bindLocal, Table.find_insert_self]
  · rw [Tracker.flow_bindLocal, if_pos rfl, flow]
    rfl
  · rw [Tracker.remoteMap_bindLocal, there]
    exact (if_pos rfl).symm

/-- The host's REP on a flow with the REQ. -/
theorem Stands.sentRep (found : Lookup t l k s u)
    (stands : Stands l k (k.addr, rq) u s (reqFlow l k rq) none) :
    ∃ t', Moves (k.addr, rq) t (passiveEvent l k lq rq .rep) t' ∧
      Stands l k (k.addr, rq) t' s
        { state := .REP_SENT, localId := l, remoteId := k, localQpn := lq, remoteQpn := rq } none := by
  have stored : k.IsSet → u.remoteMap.find k = some s := by
    intro _
    rw [stands.remote]
    exact if_pos rfl
  have act : action .repSent (u.flow s).state = .sendRep := by rw [stands.flow]; rfl
  refine ⟨_, ⟨s, u, found, .replied act (Or.inl rfl) rfl stored, ?_⟩, stands.modify _ rfl⟩
  rw [stands.flow]
  exact fun _ => rfl

/-- A REQ that a flow under the remote key does not expect. -/
theorem Stands.received_kept (stands : Stands l k (k.addr, rq) t s f entry) (set : k.IsSet) (own : f.remoteId = k)
    (act : action .reqReceived f.state = .unexpected) (keyed : f.getFlowKey = (k.addr, rq)) :
    Moves (k.addr, rq) t (passiveEvent l k lq rq .req) t := by
  have there : t.remoteMap.find k = some s := by rw [stands.remote, if_pos own]
  refine ⟨_, _, .byRemote rfl set there, .kept (Or.inl ?_), ?_⟩ <;> rw [stands.flow]
  · exact act
  · exact fun _ => keyed

/-! ## The automaton -/

theorem PassivePhase.absent_moves (id : l ≠ 0#32) (set : k.IsSet) (idx : Indexed t)
    (here : PassivePhase.At l k lq rq t .absent) (m : Msg) :
    ∃ t', Moves (k.addr, rq) t (passiveEvent l k lq rq m) t' ∧
      PassivePhase.At l k lq rq t' (PassivePhase.next .absent m) := by
  obtain ⟨noLocal, noRemote, vacant⟩ := here
  cases m with
  | req =>
    have known : t.remoteMap.find k = none ∨ Requested k rq t := Or.inl noRemote
    obtain ⟨t', moved, requested, locals, qpns, _⟩ := Requested.received l lq idx set known
    exact ⟨t', moved, locals.trans noLocal, requested, qpns ▸ vacant⟩
  | rep =>
    have stands : Stands l k (k.addr, rq) (t.newFlow l k) t.flows.next { localId := l, remoteId := k } none := by
      have created := Stands.newFlow id set noRemote vacant (Or.inl rfl)
      rwa [if_pos set] at created
    have created : Lookup t l k t.flows.next (t.newFlow l k) := .created (Or.inl id) noLocal noRemote
    have act : action .repSent ((t.newFlow l k).flow t.flows.next).state = .unexpected := by rw [stands.flow]; rfl
    refine ⟨_, ⟨_, _, created, .kept (Or.inl act), ?_⟩, _, stands⟩
    rw [stands.flow]
    exact fun nonzero => absurd rfl nonzero
  | rtu => exact ghost_of_rtu idx id noLocal (Or.inl noRemote) vacant

theorem PassivePhase.reqRcvd_moves (id : l ≠ 0#32) (set : k.IsSet) (idx : Indexed t)
    (here : PassivePhase.At l k lq rq t .reqRcvd) (m : Msg) :
    ∃ t', Moves (k.addr, rq) t (passiveEvent l k lq rq m) t' ∧
      PassivePhase.At l k lq rq t' (PassivePhase.next .reqRcvd m) := by
  obtain ⟨noLocal, requested, vacant⟩ := here
  cases m with
  | req =>
    obtain ⟨t', moved, requested, locals, qpns, _⟩ := Requested.received l lq idx set (Or.inr requested)
    exact ⟨t', moved, locals.trans noLocal, requested, qpns ▸ vacant⟩
  | rep =>
    obtain ⟨r, there, flow⟩ := requested
    have bound : Lookup t l k r (t.bindLocal r l) := .bound id noLocal there (by rw [flow]; rfl)
    obtain ⟨t', moved, after⟩ := Stands.sentRep bound (Requested.bindLocal there flow vacant)
    exact ⟨t', moved, r, after⟩
  | rtu => exact ghost_of_rtu idx id noLocal (Or.inr requested) vacant

/-- The ghost stays: the REP and the RTU are looked up by the local id and find it idle. -/
theorem PassivePhase.ghost_moves (id : l ≠ 0#32) (set : k.IsSet) (idx : Indexed t)
    (here : PassivePhase.At l k lq rq t .ghost) (m : Msg) :
    ∃ t', Moves (k.addr, rq) t (passiveEvent l k lq rq m) t' ∧ PassivePhase.At l k lq rq t' .ghost := by
  obtain ⟨⟨s, held, idle⟩, known, vacant⟩ := here
  have keyed : (t.flow s).remoteQpn ≠ 0#32 → (t.flow s).getFlowKey = (k.addr, rq) := by
    rw [idle]
    exact fun nonzero => absurd rfl nonzero
  cases m with
  | req =>
    obtain ⟨t', moved, requested, locals, qpns, others⟩ := Requested.received l lq idx set known
    have unbound : (t.flow s).remoteId ≠ k := by
      rw [idle]
      rintro rfl
      exact CmFlowKey.not_isSet_null set
    have kept : t'.flow s = { localId := l } := (others s (idx.local_lt held) unbound).trans idle
    exact ⟨t', moved, ⟨s, locals.trans held, kept⟩, Or.inr requested, qpns ▸ vacant⟩
  | rep =>
    have act : action .repSent (t.flow s).state = .unexpected := by rw [idle]; rfl
    exact ⟨t, ⟨s, t, .byLocal id held, .kept (Or.inl act), keyed⟩, ⟨s, held, idle⟩, known, vacant⟩
  | rtu =>
    have act : action .rtuReceived (t.flow s).state = .unexpected := by rw [idle]; rfl
    exact ⟨t, ⟨s, t, .byLocal id held, .kept (Or.inl act), keyed⟩, ⟨s, held, idle⟩, known, vacant⟩

theorem PassivePhase.moves (id : l ≠ 0#32) (set : k.IsSet) (lq_ne : lq ≠ 0#32) (rq_ne : rq ≠ 0#32)
    (p : PassivePhase) (t : Tracker) (m : Msg) (idx : Indexed t) (here : PassivePhase.At l k lq rq t p) :
    ∃ t', Moves (k.addr, rq) t (passiveEvent l k lq rq m) t' ∧ PassivePhase.At l k lq rq t' (p.next m) := by
  cases p with
  | absent => exact PassivePhase.absent_moves id set idx here m
  | reqRcvd => exact PassivePhase.reqRcvd_moves id set idx here m
  | ghost =>
    obtain ⟨t', moved, there⟩ := PassivePhase.ghost_moves id set idx here m
    exact ⟨t', moved, by cases m <;> exact there⟩
  | early =>
    obtain ⟨s, stands⟩ := here
    have keyed : (0#32 : QpnT) ≠ 0#32 → (k.addr, (0#32 : QpnT)) = (k.addr, rq) := fun h => absurd rfl h
    cases m with
    | req =>
      have there : t.remoteMap.find k = some s := by rw [stands.remote, if_pos rfl]
      exact ⟨_, received_known set there stands.flow rfl nofun keyed, s, stands.modify _ rfl⟩
    | rep => exact ⟨t, stands.kept id keyed rfl (Or.inl rfl), s, stands⟩
    | rtu => exact ⟨t, stands.kept id keyed rfl (Or.inl rfl), s, stands⟩
  | earlyReq =>
    obtain ⟨s, stands⟩ := here
    cases m with
    | req =>
      have there : t.remoteMap.find k = some s := by rw [stands.remote]; exact if_pos rfl
      exact ⟨_, received_known set there stands.flow rfl (fun _ => rfl) (fun _ => rfl), s, stands.modify _ rfl⟩
    | rep =>
      obtain ⟨t', moved, after⟩ := Stands.sentRep (stands.lookup id) stands
      exact ⟨t', moved, s, after⟩
    | rtu => exact ⟨t, stands.kept id (fun _ => rfl) rfl (Or.inl rfl), s, stands⟩
  | repSent =>
    obtain ⟨s, stands⟩ := here
    cases m with
    | req => exact ⟨t, stands.received_kept set rfl rfl rfl, s, stands⟩
    | rep => exact ⟨t, stands.kept id (fun _ => rfl) rfl (Or.inr rfl), s, stands⟩
    | rtu =>
      refine ⟨_, ⟨s, t, stands.lookup id, .established (by rw [stands.flow]; rfl), ?_⟩, s,
        (stands.modify _ rfl).onEstablished rfl lq_ne rq_ne⟩
      rw [stands.flow]
      exact fun _ => rfl
  | established =>
    obtain ⟨s, stands⟩ := here
    cases m with
    | req => exact ⟨t, stands.received_kept set rfl rfl rfl, s, stands⟩
    | rep => exact ⟨t, stands.kept id (fun _ => rfl) rfl (Or.inl rfl), s, stands⟩
    | rtu => exact ⟨t, stands.kept id (fun _ => rfl) rfl (Or.inl rfl), s, stands⟩

end Moves

theorem PassivePhase.At.query {l : IdT} {k : CmFlowKey} {lq rq : QpnT} {t : Tracker} {p : PassivePhase}
    (here : PassivePhase.At l k lq rq t p) :
    t.getSourceQpn (k.addr, rq) = if p = .established then lq else 0#32 := by
  cases p with
  | absent => rw [Tracker.getSourceQpn, here.2.2]; rfl
  | reqRcvd => rw [Tracker.getSourceQpn, here.2.2]; rfl
  | ghost => rw [Tracker.getSourceQpn, here.2.2]; rfl
  | early => obtain ⟨s, stands⟩ := here; exact stands.query
  | earlyReq => obtain ⟨s, stands⟩ := here; exact stands.query
  | repSent => obtain ⟨s, stands⟩ := here; exact stands.query
  | established => obtain ⟨s, stands⟩ := here; exact stands.query

/-- **Passive open.** From any reachable state that does not know the connection, a word over its
three packets fails no assertion. A word without the handshake is never answered; a word with it
is answered by `lq` exactly when no RTU comes before the first REP. -/
theorem passive_open {S : Tracker} (reached : Tracked S) {l r : IdT} {ip : InAddrT} {lq rq : QpnT}
    (noLocal : S.localMap.find l = none) (noRemote : S.remoteMap.find ⟨ip, r⟩ = none)
    (noEntry : S.qpnMap.find (ip, rq) = none) (l_ne : l ≠ 0#32) (r_ne : r ≠ 0#32) (ip_ne : ip ≠ 0#32)
    (lq_ne : lq ≠ 0#32) (rq_ne : rq ≠ 0#32) {msg : Msg → Packet} (req : NetReq ip r rq (msg .req))
    (rep : HostRep ip l r lq (msg .rep)) (rtu : NetRtu l (msg .rtu)) (w : List Msg) :
    ∃ t, run Tracker.feed S (w.map msg) = .ok t ∧
      (t.getSourceQpn (ip, rq) = (if [.req, .rep, .rtu].Sublist w then lq else 0#32) ↔
        ([.req, .rep, .rtu].Sublist w → RepFirst w)) := by
  have reads : ∀ m, Reads (msg m) (passiveEvent l ⟨ip, r⟩ lq rq m) := by
    intro m
    cases m with
    | req => exact netReq_iff.mp req
    | rep => exact hostRep_iff.mp rep
    | rtu => exact netRtu_iff.mp rtu
  obtain ⟨t, ran, _, _, last⟩ := word_run reads (passiveEvent_names l ⟨ip, r⟩ lq rq)
    (PassivePhase.moves l_ne ⟨ip_ne, r_ne⟩ lq_ne rq_ne) reached.indexed reached.indexed (Frame.refl noLocal noRemote)
    (p := .absent) ⟨noLocal, noRemote, noEntry⟩ w
  refine ⟨t, ran, ?_⟩
  rw [last.query]
  simp only [PassivePhase.accepts, PassivePhase.Accepts]
  by_cases whole : [.req, .rep, .rtu].Sublist w <;> by_cases first : RepFirst w <;>
    simp [whole, first, Ne.symm lq_ne]

/-- The packets of a passive open from `10.0.0.2`. -/
def passiveMsg : Msg → Packet
  | .req => fromNet cmReqAttrId 0x0200000a#32 0#32 2#32 0x22#32
  | .rep => fromHost cmRepAttrId 0x0200000a#32 1#32 2#32 0x11#32
  | .rtu => fromNet cmRtuAttrId 0x0200000a#32 1#32 2#32 0#32

/-- A REP that comes too early does no harm. -/
theorem passive_open_early_rep : ∃ t,
    run Tracker.feed Tracker.init ([.rep, .rtu, .req, .rep, .req, .rtu].map passiveMsg) = .ok t ∧
      t.getSourceQpn (0x0200000a#32, 0x22#32) = 0x11#32 := by
  have req : NetReq 0x0200000a#32 2#32 0x22#32 (passiveMsg .req) :=
    ⟨⟨rfl, by decide +kernel, by decide +kernel⟩, by decide +kernel⟩
  have rep : HostRep 0x0200000a#32 1#32 2#32 0x11#32 (passiveMsg .rep) :=
    ⟨⟨rfl, by decide +kernel, by decide +kernel⟩, by decide +kernel⟩
  have rtu : NetRtu 1#32 (passiveMsg .rtu) := ⟨rfl, by decide +kernel, by decide +kernel⟩
  obtain ⟨t, ran, answer⟩ := passive_open (S := Tracker.init) ⟨[], rfl⟩ rfl rfl rfl (by decide) (by decide) (by decide)
    (by decide) (by decide) req rep rtu [.rep, .rtu, .req, .rep, .req, .rtu]
  exact ⟨t, ran, answer.mpr (fun _ => by decide)⟩

/-- After an early RTU a whole handshake leaves the connection unknown. -/
theorem passive_open_early_rtu : NetReq 0x0200000a#32 2#32 0x22#32 (passiveMsg .req) ∧
    HostRep 0x0200000a#32 1#32 2#32 0x11#32 (passiveMsg .rep) ∧ NetRtu 1#32 (passiveMsg .rtu) ∧
    [.req, .rep, .rtu].Sublist [Msg.rtu, .req, .rep, .rtu] ∧ ∃ t,
    run Tracker.feed Tracker.init ([.rtu, .req, .rep, .rtu].map passiveMsg) = .ok t ∧
      t.getSourceQpn (0x0200000a#32, 0x22#32) = 0#32 := by
  refine ⟨⟨⟨rfl, by decide +kernel, by decide +kernel⟩, by decide +kernel⟩,
    ⟨⟨rfl, by decide +kernel, by decide +kernel⟩, by decide +kernel⟩, ⟨rfl, by decide +kernel, by decide +kernel⟩,
    by decide, ?_⟩
  have answer : (run Tracker.feed Tracker.init ([.rtu, .req, .rep, .rtu].map passiveMsg)).map
      (fun t => t.getSourceQpn (0x0200000a#32, 0x22#32)) = .ok 0#32 := by decide +kernel
  exact map_ok answer

end ConntrackCm
