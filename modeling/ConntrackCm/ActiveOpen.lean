import ConntrackCm.Opening

/-!
# A connection the host opens

The host's REQ, the peer's REP and the host's RTU carry the same local id, and every lookup goes
by it: one flow object stands for the connection from the first packet on. Whatever letter comes
first creates it, idle if it is not the REQ, so words over the three packets are read by an
automaton that waits for each message in turn.
-/

namespace ConntrackCm

open Lib

/-- How far the handshake has come. -/
inductive ActivePhase where
  | absent | idle | reqSent | repRcvd | established
  deriving DecidableEq, Repr

namespace ActivePhase

def next : ActivePhase → Msg → ActivePhase
  | .absent, .req | .idle, .req => .reqSent
  | .absent, .rep | .absent, .rtu => .idle
  | .reqSent, .rep => .repRcvd
  | .repRcvd, .rtu => .established
  | p, _ => p

/-- The messages that are still to come. -/
def rest : ActivePhase → List Msg
  | .absent | .idle => [.req, .rep, .rtu]
  | .reqSent => [.rep, .rtu]
  | .repRcvd => [.rtu]
  | .established => []

theorem rest_next (p : ActivePhase) (m : Msg) (w : List Msg) :
    p.rest.Sublist (m :: w) ↔ (p.next m).rest.Sublist w := by
  cases p <;> cases m <;> simp [rest, next, List.cons_sublist_cons']

/-- The automaton accepts the words that contain what is to come. -/
theorem accepts (w : List Msg) (p : ActivePhase) : w.foldl next p = .established ↔ p.rest.Sublist w := by
  induction w generalizing p with
  | nil => cases p <;> simp [rest]
  | cons m w ih => rw [List.foldl_cons, ih, rest_next]

/-- The tracker in each phase: the flow under `l`, its contents and its entry. -/
def At (l : IdT) (k : CmFlowKey) (lq rq : QpnT) (t : Tracker) : ActivePhase → Prop
  | .absent => t.localMap.find l = none ∧ t.remoteMap.find k = none ∧ t.qpnMap.find (k.addr, rq) = none
  | .idle => ∃ s, Stands l k (k.addr, rq) t s { localId := l } none
  | .reqSent => ∃ s, Stands l k (k.addr, rq) t s { state := .REQ_SENT, localId := l, localQpn := lq } none
  | .repRcvd => ∃ s, Stands l k (k.addr, rq) t s
      { state := .REP_RCVD, localId := l, remoteId := k, localQpn := lq, remoteQpn := rq } none
  | .established => ∃ s, Stands l k (k.addr, rq) t s
      { state := .ESTABLISHED, localId := l, remoteId := k, localQpn := lq, remoteQpn := rq, inQpnMap := true }
      (some lq)

end ActivePhase

/-- What the handlers read from the three packets. -/
def activeEvent (l : IdT) (k : CmFlowKey) (lq rq : QpnT) : Msg → Event
  | .req => ⟨.reqSent, l, .null, .ok lq⟩
  | .rep => ⟨.repReceived, l, k, .ok rq⟩
  | .rtu => ⟨.rtuSent, l, .null, .ok 0#32⟩

theorem activeEvent_names (l : IdT) (k : CmFlowKey) (lq rq : QpnT) (m : Msg) :
    Names l k (activeEvent l k lq rq m) := by
  cases m
  · exact ⟨Or.inr rfl, Or.inr CmFlowKey.not_isSet_null⟩
  · exact ⟨Or.inr rfl, Or.inl rfl⟩
  · exact ⟨Or.inr rfl, Or.inr CmFlowKey.not_isSet_null⟩

section Moves

variable {l : IdT} {k : CmFlowKey} {lq rq : QpnT} {t : Tracker}

/-- The first packet creates the flow. -/
theorem ActivePhase.absent_moves (id : l ≠ 0#32) (set : k.IsSet) (idx : Indexed t)
    (here : ActivePhase.At l k lq rq t .absent) (m : Msg) :
    ∃ t', Moves (k.addr, rq) t (activeEvent l k lq rq m) t' ∧
      ActivePhase.At l k lq rq t' (ActivePhase.next .absent m) := by
  obtain ⟨noLocal, noRemote, vacant⟩ := here
  have stands : Stands l k (k.addr, rq) (t.newFlow l .null) t.flows.next { localId := l } none :=
    Stands.newFlow id set noRemote vacant (Or.inr CmFlowKey.not_isSet_null)
  have created : Lookup t l .null t.flows.next (t.newFlow l .null) :=
    .created (Or.inl id) noLocal (idx.no_unset CmFlowKey.not_isSet_null)
  have keyed : ((t.newFlow l .null).flow t.flows.next).remoteQpn ≠ 0#32 →
      ((t.newFlow l .null).flow t.flows.next).getFlowKey = (k.addr, rq) := by
    rw [stands.flow]
    exact fun nonzero => absurd rfl nonzero
  cases m with
  | req =>
    have act : action .reqSent ((t.newFlow l .null).flow t.flows.next).state = .sendReq := by
      rw [stands.flow]; rfl
    exact ⟨_, ⟨_, _, created, .sentReq act rfl, keyed⟩, _, stands.modify _ rfl⟩
  | rep =>
    have act : action .repReceived ((t.newFlow l .null).flow t.flows.next).state = .unexpected := by
      rw [stands.flow]; rfl
    exact ⟨_, ⟨_, _, created, .kept (Or.inl act), keyed⟩, _, stands⟩
  | rtu =>
    have act : action .rtuSent ((t.newFlow l .null).flow t.flows.next).state = .unexpected := by
      rw [stands.flow]; rfl
    exact ⟨_, ⟨_, _, created, .kept (Or.inl act), keyed⟩, _, stands⟩

/-- A REQ, first or repeated. -/
theorem Stands.sentReq {s : Ref} {f : FlowState} (stands : Stands l k (k.addr, rq) t s f none) (id : l ≠ 0#32)
    (fresh : f.remoteQpn = 0#32) (act : action .reqSent f.state = .sendReq) :
    ∃ t', Moves (k.addr, rq) t (activeEvent l k lq rq .req) t' ∧
      Stands l k (k.addr, rq) t' s (Action.sendReq.update lq f) none := by
  refine ⟨_, ⟨s, t, stands.lookup id, .sentReq (by rw [stands.flow]; exact act) rfl, ?_⟩, stands.modify _ rfl⟩
  rw [stands.flow]
  exact fun nonzero => absurd fresh nonzero

theorem ActivePhase.moves (id : l ≠ 0#32) (set : k.IsSet) (lq_ne : lq ≠ 0#32) (rq_ne : rq ≠ 0#32)
    (p : ActivePhase) (t : Tracker) (m : Msg) (idx : Indexed t) (here : ActivePhase.At l k lq rq t p) :
    ∃ t', Moves (k.addr, rq) t (activeEvent l k lq rq m) t' ∧ ActivePhase.At l k lq rq t' (p.next m) := by
  cases p with
  | absent => exact ActivePhase.absent_moves id set idx here m
  | idle =>
    obtain ⟨s, stands⟩ := here
    have keyed : (0#32 : QpnT) ≠ 0#32 → ((CmFlowKey.null.addr, 0#32) : FlowKey) = (k.addr, rq) := fun h => absurd rfl h
    cases m with
    | req =>
      obtain ⟨t', moved, after⟩ := stands.sentReq id rfl rfl
      exact ⟨t', moved, s, after⟩
    | rep => exact ⟨t, stands.kept id keyed rfl (Or.inl rfl), s, stands⟩
    | rtu => exact ⟨t, stands.kept id keyed rfl (Or.inl rfl), s, stands⟩
  | reqSent =>
    obtain ⟨s, stands⟩ := here
    have keyed : (0#32 : QpnT) ≠ 0#32 → ((CmFlowKey.null.addr, 0#32) : FlowKey) = (k.addr, rq) := fun h => absurd rfl h
    cases m with
    | req =>
      obtain ⟨t', moved, after⟩ := stands.sentReq id rfl rfl
      exact ⟨t', moved, s, after⟩
    | rep =>
      have null : CmFlowKey.null ≠ k := by
        rintro rfl
        exact CmFlowKey.not_isSet_null set
      have noRemote : t.remoteMap.find k = none := by rw [stands.remote, if_neg null]
      have bound : Effect (activeEvent l k lq rq .rep) s t
          ((t.modify s fun f => Action.receiveRep.update rq f).bindRemote s k) := by
        refine .repliedBound (q := rq) ?_ (Or.inr rfl) rfl set noRemote ?_
        · rw [stands.flow]; rfl
        · rw [stands.flow]; exact CmFlowKey.not_isSet_null
      refine ⟨_, ⟨s, t, stands.lookup id, bound, ?_⟩, s, (stands.modify _ rfl).bindRemote⟩
      rw [stands.flow]
      exact keyed
    | rtu => exact ⟨t, stands.kept id keyed rfl (Or.inl rfl), s, stands⟩
  | repRcvd =>
    obtain ⟨s, stands⟩ := here
    cases m with
    | req => exact ⟨t, stands.kept id (fun _ => rfl) rfl (Or.inl rfl), s, stands⟩
    | rep => exact ⟨t, stands.kept id (fun _ => rfl) rfl (Or.inl rfl), s, stands⟩
    | rtu =>
      refine ⟨_, ⟨s, t, stands.lookup id, .established (by rw [stands.flow]; rfl), ?_⟩, s,
        (stands.modify _ rfl).onEstablished rfl lq_ne rq_ne⟩
      rw [stands.flow]
      exact fun _ => rfl
  | established =>
    obtain ⟨s, stands⟩ := here
    cases m <;> exact ⟨t, stands.kept id (fun _ => rfl) rfl (Or.inl rfl), s, stands⟩

end Moves

theorem ActivePhase.At.query {l : IdT} {k : CmFlowKey} {lq rq : QpnT} {t : Tracker} {p : ActivePhase}
    (here : ActivePhase.At l k lq rq t p) :
    t.getSourceQpn (k.addr, rq) = if p = .established then lq else 0#32 := by
  cases p with
  | absent => rw [Tracker.getSourceQpn, here.2.2]; rfl
  | idle => obtain ⟨s, stands⟩ := here; exact stands.query
  | reqSent => obtain ⟨s, stands⟩ := here; exact stands.query
  | repRcvd => obtain ⟨s, stands⟩ := here; exact stands.query
  | established => obtain ⟨s, stands⟩ := here; exact stands.query

/-- **Active open.** From any reachable state that does not know the connection, a word over its
three packets fails no assertion, is answered by `lq` exactly when it contains the handshake, and
changes nothing that belongs to another connection. -/
theorem active_open {S : Tracker} (reached : Tracked S) {l r : IdT} {ip : InAddrT} {lq rq : QpnT}
    (noLocal : S.localMap.find l = none) (noRemote : S.remoteMap.find ⟨ip, r⟩ = none)
    (noEntry : S.qpnMap.find (ip, rq) = none) (l_ne : l ≠ 0#32) (r_ne : r ≠ 0#32) (ip_ne : ip ≠ 0#32)
    (lq_ne : lq ≠ 0#32) (rq_ne : rq ≠ 0#32) {msg : Msg → Packet} (req : HostReq l lq (msg .req))
    (rep : NetRep ip l r rq (msg .rep)) (rtu : HostRtu l (msg .rtu)) (w : List Msg) :
    ∃ t, run Tracker.feed S (w.map msg) = .ok t ∧
      t.getSourceQpn (ip, rq) = (if [.req, .rep, .rtu].Sublist w then lq else 0#32) ∧
      (∀ key, key ≠ (ip, rq) → t.qpnMap.find key = S.qpnMap.find key) ∧
      (∀ l', l' ≠ l → t.localMap.find l' = S.localMap.find l' ∧
        ∀ s, S.localMap.find l' = some s → t.flow s = S.flow s) ∧
      (∀ k', k' ≠ ⟨ip, r⟩ → t.remoteMap.find k' = S.remoteMap.find k' ∧
        ∀ s, S.remoteMap.find k' = some s → t.flow s = S.flow s) := by
  have idx := reached.indexed
  have reads : ∀ m, Reads (msg m) (activeEvent l ⟨ip, r⟩ lq rq m) := by
    intro m
    cases m with
    | req => exact hostReq_iff.mp req
    | rep => exact netRep_iff.mp rep
    | rtu => exact hostRtu_iff.mp rtu
  obtain ⟨t, ran, _, frame, last⟩ := word_run reads (activeEvent_names l ⟨ip, r⟩ lq rq)
    (ActivePhase.moves l_ne ⟨ip_ne, r_ne⟩ lq_ne rq_ne) idx idx (Frame.refl noLocal noRemote) (p := .absent)
    ⟨noLocal, noRemote, noEntry⟩ w
  refine ⟨t, ran, ?_, frame.qpns, fun l' other => ⟨frame.locals l' other, ?_⟩,
    fun k' other => ⟨frame.remotes k' other, ?_⟩⟩
  · rw [last.query]
    simp only [ActivePhase.accepts, ActivePhase.rest]
  · exact fun s held => frame.flows s (idx.local_lt held)
  · exact fun s held => frame.flows s (idx.remote_lt held)

/-- The packets of an active open to `10.0.0.2`. -/
def activeMsg : Msg → Packet
  | .req => fromHost cmReqAttrId 0x0200000a#32 1#32 0#32 0x11#32
  | .rep => fromNet cmRepAttrId 0x0200000a#32 1#32 2#32 0x22#32
  | .rtu => fromHost cmRtuAttrId 0x0200000a#32 1#32 2#32 0#32

/-- An early RTU and a repeated REQ do no harm. -/
theorem active_open_stray : ∃ t,
    run Tracker.feed Tracker.init ([.rtu, .req, .rep, .req, .rtu].map activeMsg) = .ok t ∧
      t.getSourceQpn (0x0200000a#32, 0x22#32) = 0x11#32 := by
  have req : HostReq 1#32 0x11#32 (activeMsg .req) := ⟨rfl, by decide +kernel, by decide +kernel⟩
  have rep : NetRep 0x0200000a#32 1#32 2#32 0x22#32 (activeMsg .rep) :=
    ⟨⟨rfl, by decide +kernel, by decide +kernel⟩, by decide +kernel⟩
  have rtu : HostRtu 1#32 (activeMsg .rtu) := ⟨rfl, by decide +kernel, by decide +kernel⟩
  obtain ⟨t, ran, answer, _⟩ := active_open (S := Tracker.init) ⟨[], rfl⟩ rfl rfl rfl (by decide) (by decide)
    (by decide) (by decide) (by decide) req rep rtu [.rtu, .req, .rep, .req, .rtu]
  refine ⟨t, ran, ?_⟩
  rw [answer]
  decide

end ConntrackCm
