import ConntrackCm.ActiveOpen
import ConntrackCm.PassiveOpen

/-!
# From open to close

An established connection looks the same whichever side opened it, and late packets of its
handshake change nothing any more. The DREQs of either side move it on, and the DREP of either
side takes it out of the two indexes and out of the query table. What is left are the tables from
before the connection: nothing leaks, and its ids can be used again.
-/

namespace ConntrackCm

open Lib

/-- The side of the connection that the host is on. -/
inductive Role where
  | active | passive
  deriving DecidableEq, Repr

namespace Role

/-- The packets of the handshake. -/
def Handshake (ip : InAddrT) (l r : IdT) (lq rq : QpnT) (msg : Msg → Packet) : Role → Prop
  | .active => HostReq l lq (msg .req) ∧ NetRep ip l r rq (msg .rep) ∧ HostRtu l (msg .rtu)
  | .passive => NetReq ip r rq (msg .req) ∧ HostRep ip l r lq (msg .rep) ∧ NetRtu l (msg .rtu)

/-- The words that open the connection. -/
def Opens (w : List Msg) (role : Role) : Prop := [.req, .rep, .rtu].Sublist w ∧ (role = .passive → RepFirst w)

/-- What the handlers read from the packets of the handshake. -/
def event (l : IdT) (k : CmFlowKey) (lq rq : QpnT) : Role → Msg → Event
  | .active => activeEvent l k lq rq
  | .passive => passiveEvent l k lq rq

theorem event_names (role : Role) (l : IdT) (k : CmFlowKey) (lq rq : QpnT) (m : Msg) :
    Names l k (role.event l k lq rq m) := by
  cases role with
  | active => exact activeEvent_names l k lq rq m
  | passive => exact passiveEvent_names l k lq rq m

theorem Handshake.reads {role : Role} {ip : InAddrT} {l r : IdT} {lq rq : QpnT} {msg : Msg → Packet}
    (handshake : role.Handshake ip l r lq rq msg) (m : Msg) : Reads (msg m) (role.event l ⟨ip, r⟩ lq rq m) := by
  cases role with
  | active =>
    obtain ⟨req, rep, rtu⟩ := handshake
    cases m with
    | req => exact hostReq_iff.mp req
    | rep => exact netRep_iff.mp rep
    | rtu => exact hostRtu_iff.mp rtu
  | passive =>
    obtain ⟨req, rep, rtu⟩ := handshake
    cases m with
    | req => exact netReq_iff.mp req
    | rep => exact hostRep_iff.mp rep
    | rtu => exact netRtu_iff.mp rtu

end Role

/-- The flow of the connection from its RTU on. -/
def connected (l : IdT) (k : CmFlowKey) (lq rq : QpnT) (st : FlowSt) : FlowState :=
  { state := st, localId := l, remoteId := k, localQpn := lq, remoteQpn := rq, inQpnMap := true }

/-- The flow stands under both ids and is registered, in a state that `P` allows. -/
def Connected (l : IdT) (k : CmFlowKey) (lq rq : QpnT) (P : FlowSt → Prop) (t : Tracker) : Prop :=
  ∃ s st, P st ∧ Stands l k (k.addr, rq) t s (connected l k lq rq st) (some lq)

/-- Either side opens the connection with the same result. -/
theorem Role.Opens.run {role : Role} {w : List Msg} (opens : role.Opens w) {S : Tracker} (idx : Indexed S)
    {l : IdT} {k : CmFlowKey} {lq rq : QpnT} {msg : Msg → Packet} (noLocal : S.localMap.find l = none)
    (noRemote : S.remoteMap.find k = none) (noEntry : S.qpnMap.find (k.addr, rq) = none) (id : l ≠ 0#32) (set : k.IsSet)
    (lq_ne : lq ≠ 0#32) (rq_ne : rq ≠ 0#32) (reads : ∀ m, Reads (msg m) (role.event l k lq rq m)) :
    ∃ t, Lib.run Tracker.feed S (w.map msg) = .ok t ∧ Indexed t ∧ Frame l k (k.addr, rq) S t ∧
      Connected l k lq rq (· = .ESTABLISHED) t := by
  have frame : Frame l k (k.addr, rq) S S := Frame.refl noLocal noRemote
  cases role with
  | active =>
    obtain ⟨t, ran, idx', frame', last⟩ := word_run reads (activeEvent_names l k lq rq)
      (ActivePhase.moves id set lq_ne rq_ne) idx idx frame (p := .absent) ⟨noLocal, noRemote, noEntry⟩ w
    rw [(ActivePhase.accepts w .absent).mpr opens.1] at last
    obtain ⟨s, stands⟩ := last
    exact ⟨t, ran, idx', frame', s, _, rfl, stands⟩
  | passive =>
    obtain ⟨t, ran, idx', frame', last⟩ := word_run reads (passiveEvent_names l k lq rq)
      (PassivePhase.moves id set lq_ne rq_ne) idx idx frame (p := .absent) ⟨noLocal, noRemote, noEntry⟩ w
    rw [(PassivePhase.accepts w .absent).mpr ⟨opens.1, opens.2 rfl⟩] at last
    obtain ⟨s, stands⟩ := last
    exact ⟨t, ran, idx', frame', s, _, rfl, stands⟩

/-! ## Closing -/

/-- The states of a connection that is being closed. -/
def FlowSt.Closing (st : FlowSt) : Prop := st = .DREQ_SENT ∨ st = .DREQ_RCVD

/-- The letters of a close: DREQs of either side among late packets of the handshake. -/
abbrev CloseMsg := Msg ⊕ CtcmDirection

/-- What the handlers read from a DREQ. -/
def dreqEvent (l : IdT) : CtcmDirection → Event
  | .FROM_HOST => ⟨.dreqSent, l, .null, .ok 0#32⟩
  | .FROM_NET => ⟨.dreqReceived, l, .null, .ok 0#32⟩

/-- Whether a DREQ has been seen. -/
inductive ClosePhase where
  | established | closing
  deriving DecidableEq, Repr

namespace ClosePhase

def next : ClosePhase → CloseMsg → ClosePhase
  | _, .inr _ => .closing
  | p, .inl _ => p

def states : ClosePhase → FlowSt → Prop
  | .established => (· = .ESTABLISHED)
  | .closing => FlowSt.Closing

theorem foldl_closing (v : List CloseMsg) : v.foldl next .closing = .closing := by
  induction v with
  | nil => rfl
  | cons m v ih =>
    have step : next .closing m = .closing := by cases m <;> rfl
    rw [List.foldl_cons, step, ih]

/-- One DREQ is enough. -/
theorem foldl_dreq {v : List CloseMsg} {d : CtcmDirection} (dreq : .inr d ∈ v) (p : ClosePhase) :
    v.foldl next p = .closing := by
  induction v generalizing p with
  | nil => cases dreq
  | cons m v ih =>
    rw [List.foldl_cons]
    rcases List.mem_cons.mp dreq with rfl | later
    · exact foldl_closing v
    · exact ih later _

end ClosePhase

section Closing

variable {l : IdT} {k : CmFlowKey} {lq rq : QpnT} {t : Tracker} {s : Ref} {st : FlowSt}

/-- A late packet of the handshake. -/
theorem Stands.late (stands : Stands l k (k.addr, rq) t s (connected l k lq rq st) (some lq)) (id : l ≠ 0#32)
    (set : k.IsSet) (past : st = .ESTABLISHED ∨ st.Closing) (role : Role) (m : Msg) :
    Moves (k.addr, rq) t (role.event l k lq rq m) t := by
  have keyed : (connected l k lq rq st).remoteQpn ≠ 0#32 → (connected l k lq rq st).getFlowKey = (k.addr, rq) :=
    fun _ => rfl
  have ignored : ∀ m, action (role.event l k lq rq m).op st = .unexpected := by
    intro m
    rcases past with rfl | rfl | rfl <;> cases role <;> cases m <;> rfl
  cases role with
  | active => cases m <;> exact stands.kept id keyed rfl (Or.inl (ignored _))
  | passive =>
    cases m with
    | req =>
      have kept : Moves (k.addr, rq) t (passiveEvent l k lq rq .req) t :=
        stands.received_kept set rfl (ignored .req) rfl
      exact kept
    | rep => exact stands.kept id keyed rfl (Or.inl (ignored .rep))
    | rtu => exact stands.kept id keyed rfl (Or.inl (ignored .rtu))

/-- A DREQ, first or repeated. -/
theorem Stands.dreq (stands : Stands l k (k.addr, rq) t s (connected l k lq rq st) (some lq)) (id : l ≠ 0#32)
    (past : st = .ESTABLISHED ∨ st.Closing) (d : CtcmDirection) :
    ∃ t', Moves (k.addr, rq) t (dreqEvent l d) t' ∧ Connected l k lq rq FlowSt.Closing t' := by
  have keyed : (t.flow s).remoteQpn ≠ 0#32 → (t.flow s).getFlowKey = (k.addr, rq) := by
    rw [stands.flow]
    exact fun _ => rfl
  cases d with
  | FROM_HOST =>
    have act : action .dreqSent (t.flow s).state = .disconnect .DREQ_SENT := by
      rw [stands.flow]
      rcases past with rfl | rfl | rfl <;> rfl
    exact ⟨_, ⟨s, t, stands.lookup id, .disconnected act, keyed⟩, s, _, Or.inl rfl, stands.modify _ rfl⟩
  | FROM_NET =>
    have act : action .dreqReceived (t.flow s).state = .disconnect .DREQ_RCVD := by
      rw [stands.flow]
      rcases past with rfl | rfl | rfl <;> rfl
    exact ⟨_, ⟨s, t, stands.lookup id, .disconnected act, keyed⟩, s, _, Or.inr rfl, stands.modify _ rfl⟩

theorem ClosePhase.moves (role : Role) (id : l ≠ 0#32) (set : k.IsSet) (p : ClosePhase) (t : Tracker) (m : CloseMsg)
    (_ : Indexed t) (here : Connected l k lq rq p.states t) :
    ∃ t', Moves (k.addr, rq) t (Sum.elim (role.event l k lq rq) (dreqEvent l) m) t' ∧
      Connected l k lq rq (p.next m).states t' := by
  obtain ⟨s, st, allowed, stands⟩ := here
  have past : st = .ESTABLISHED ∨ st.Closing := by
    cases p with
    | established => exact Or.inl allowed
    | closing => exact Or.inr allowed
  cases m with
  | inl m => exact ⟨t, stands.late id set past role m, s, st, allowed, stands⟩
  | inr d => exact stands.dreq id past d

/-- The DREP takes the entry of the flow out of the query table. -/
theorem Stands.dropFlow (stands : Stands l k (k.addr, rq) t s (connected l k lq rq st) (some lq)) (lq_ne : lq ≠ 0#32)
    (rq_ne : rq ≠ 0#32) : (t.dropFlow s l k).qpnMap = t.qpnMap.erase (k.addr, rq) := by
  have flagged : (t.flow s).inQpnMap = true := by rw [stands.flow]; rfl
  have key : (t.flow s).getFlowKey = (k.addr, rq) := by rw [stands.flow]; rfl
  have removed : (t.onDisconnected s).qpnMap = t.qpnMap.erase (k.addr, rq) := by
    rcases t.onDisconnected_cases s with ⟨_, zero | zero | absent⟩ | ⟨_, _, _, after⟩
    · rw [stands.flow] at zero; exact absurd zero lq_ne
    · rw [stands.flow] at zero; exact absurd zero rq_ne
    · rw [key, stands.qpn] at absent; cases absent
    · rw [after, Tracker.qpnMap_unregister, key]
  unfold Tracker.dropFlow
  rw [if_pos flagged]
  exact removed

/-- The DREP of either side. -/
theorem Connected.drep (here : Connected l k lq rq FlowSt.Closing t) (id : l ≠ 0#32) (lq_ne : lq ≠ 0#32)
    (rq_ne : rq ≠ 0#32) {op : CmOp} (drep : op = .drepSent ∨ op = .drepReceived) :
    ∃ t', Moves (k.addr, rq) t ⟨op, l, k, .ok 0#32⟩ t' ∧ t'.localMap.find l = none ∧ t'.remoteMap.find k = none ∧
      t'.qpnMap.find (k.addr, rq) = none := by
  obtain ⟨s, st, closing, stands⟩ := here
  have act : action op (t.flow s).state = .erase := by
    rw [stands.flow]
    rcases drep with rfl | rfl <;> rcases closing with rfl | rfl <;> rfl
  refine ⟨_, ⟨s, t, stands.lookup id, .erased act, ?_⟩, ?_, ?_, ?_⟩
  · rw [stands.flow]
    exact fun _ => rfl
  · rw [Tracker.localMap_dropFlow, Table.find_erase_self]
  · rw [Tracker.remoteMap_dropFlow, Table.find_erase_self]
  · rw [stands.dropFlow lq_ne rq_ne, Table.find_erase_self]

end Closing

/-- When the entries of a connection are gone, the tables are those from before it. -/
theorem Frame.restored {l : IdT} {k : CmFlowKey} {key : FlowKey} {S t : Tracker} (frame : Frame l k key S t)
    (locals : t.localMap.find l = S.localMap.find l) (remotes : t.remoteMap.find k = S.remoteMap.find k)
    (qpns : t.qpnMap.find key = S.qpnMap.find key) :
    t.localMap = S.localMap ∧ t.remoteMap = S.remoteMap ∧ t.qpnMap = S.qpnMap := by
  refine ⟨congrArg Table.mk (funext fun l' => ?_), congrArg Table.mk (funext fun k' => ?_),
    congrArg Table.mk (funext fun key' => ?_)⟩
  · by_cases same : l' = l
    · rw [same, locals]
    · exact frame.locals l' same
  · by_cases same : k' = k
    · rw [same, remotes]
    · exact frame.remotes k' same
  · by_cases same : key' = key
    · rw [same, qpns]
    · exact frame.qpns key' same

/-- **A full lifecycle leaves no trace.** From any reachable state that does not know the
connection, on either side of it: a word over the packets of its handshake that opens it, a word
over these and the two DREQs with at least one DREQ, and a DREP of either side fail no assertion
and leave the three tables as they were, with the same flows under every id. -/
theorem lifecycle_leaves_no_trace {S : Tracker} (reached : Tracked S) {l r : IdT} {ip : InAddrT} {lq rq : QpnT}
    (noLocal : S.localMap.find l = none) (noRemote : S.remoteMap.find ⟨ip, r⟩ = none)
    (noEntry : S.qpnMap.find (ip, rq) = none) (l_ne : l ≠ 0#32) (r_ne : r ≠ 0#32) (ip_ne : ip ≠ 0#32)
    (lq_ne : lq ≠ 0#32) (rq_ne : rq ≠ 0#32) {role : Role} {msg : Msg → Packet}
    (handshake : role.Handshake ip l r lq rq msg) {dreq : CtcmDirection → Packet}
    (hostDreq : HostDreq l (dreq .FROM_HOST)) (netDreq : NetDreq l (dreq .FROM_NET)) {drep : Packet}
    (drepIds : HostDrep ip l r drep ∨ NetDrep ip l r drep) {w : List Msg} (opens : role.Opens w) {v : List CloseMsg}
    (closes : ∃ d, .inr d ∈ v) :
    ∃ t, run Tracker.feed S (w.map msg ++ v.map (Sum.elim msg dreq) ++ [drep]) = .ok t ∧
      t.localMap = S.localMap ∧ t.remoteMap = S.remoteMap ∧ t.qpnMap = S.qpnMap ∧
      ∀ s, s < S.flows.next → t.flow s = S.flow s := by
  have start := reached.indexed
  have set : (⟨ip, r⟩ : CmFlowKey).IsSet := ⟨ip_ne, r_ne⟩
  obtain ⟨t₁, opened, idx₁, frame₁, here⟩ :=
    opens.run start noLocal noRemote noEntry l_ne set lq_ne rq_ne handshake.reads
  have reads : ∀ m, Reads (Sum.elim msg dreq m) (Sum.elim (role.event l ⟨ip, r⟩ lq rq) (dreqEvent l) m) := by
    intro m
    rcases m with m | _ | _
    · exact handshake.reads m
    · exact hostDreq_iff.mp hostDreq
    · exact netDreq_iff.mp netDreq
  have names : ∀ m, Names l ⟨ip, r⟩ (Sum.elim (role.event l ⟨ip, r⟩ lq rq) (dreqEvent l) m) := by
    intro m
    rcases m with m | _ | _
    · exact role.event_names l ⟨ip, r⟩ lq rq m
    · exact ⟨Or.inr rfl, Or.inr CmFlowKey.not_isSet_null⟩
    · exact ⟨Or.inr rfl, Or.inr CmFlowKey.not_isSet_null⟩
  obtain ⟨t₂, closed, idx₂, frame₂, there⟩ := word_run reads names (ClosePhase.moves role l_ne set) start idx₁ frame₁
    (p := .established) here v
  obtain ⟨d, dreqs⟩ := closes
  rw [ClosePhase.foldl_dreq dreqs] at there
  obtain ⟨op, side, read⟩ : ∃ op, (op = .drepSent ∨ op = .drepReceived) ∧ Reads drep ⟨op, l, ⟨ip, r⟩, .ok 0#32⟩ := by
    rcases drepIds with host | net
    · exact ⟨.drepSent, Or.inl rfl, hostDrep_iff.mp host⟩
    · exact ⟨.drepReceived, Or.inr rfl, netDrep_iff.mp net⟩
  obtain ⟨t₃, ⟨s, u, found, effect, keyed⟩, noLocal', noRemote', noEntry'⟩ := there.drep l_ne lq_ne rq_ne side
  have stepped := (step_iff idx₂).mpr ⟨s, u, found, effect⟩
  have frame₃ : Frame l ⟨ip, r⟩ (ip, rq) S t₃ :=
    frame₂.step idx₂ start ⟨Or.inr rfl, Or.inl rfl⟩ found effect keyed
  obtain ⟨locals, remotes, qpns⟩ := frame₃.restored (noLocal'.trans noLocal.symm) (noRemote'.trans noRemote.symm)
    (noEntry'.trans noEntry.symm)
  refine ⟨t₃, ?_, locals, remotes, qpns, frame₃.flows⟩
  rw [run_append, run_append, bind_of_ok opened, bind_of_ok closed, run_cons, feed_of_event read, bind_of_ok stepped]
  rfl

/-- The DREQs of the connection of `passiveMsg`. -/
def passiveDreq : CtcmDirection → Packet
  | .FROM_HOST => fromHost cmDreqAttrId 0x0200000a#32 1#32 2#32 0#32
  | .FROM_NET => fromNet cmDreqAttrId 0x0200000a#32 1#32 2#32 0#32

/-- A passive connection with retransmissions, closed by both sides. -/
theorem lifecycle_passive :
    ∃ t, run Tracker.feed Tracker.init ([.req, .req, .rep, .rtu].map passiveMsg ++
        ([.inl .rtu, .inr .FROM_HOST, .inl .rep, .inr .FROM_NET] : List CloseMsg).map (Sum.elim passiveMsg passiveDreq) ++
        [fromHost cmDrepAttrId 0x0200000a#32 1#32 2#32 0#32]) = .ok t ∧
      t.localMap = .empty ∧ t.remoteMap = .empty ∧ t.qpnMap = .empty := by
  have req : NetReq 0x0200000a#32 2#32 0x22#32 (passiveMsg .req) :=
    ⟨⟨rfl, by decide +kernel, by decide +kernel⟩, by decide +kernel⟩
  have rep : HostRep 0x0200000a#32 1#32 2#32 0x11#32 (passiveMsg .rep) :=
    ⟨⟨rfl, by decide +kernel, by decide +kernel⟩, by decide +kernel⟩
  have rtu : NetRtu 1#32 (passiveMsg .rtu) := ⟨rfl, by decide +kernel, by decide +kernel⟩
  have handshake : Role.passive.Handshake 0x0200000a#32 1#32 2#32 0x11#32 0x22#32 passiveMsg := ⟨req, rep, rtu⟩
  have hostDreq : HostDreq 1#32 (passiveDreq .FROM_HOST) := ⟨rfl, by decide +kernel, by decide +kernel⟩
  have netDreq : NetDreq 1#32 (passiveDreq .FROM_NET) := ⟨rfl, by decide +kernel, by decide +kernel⟩
  have drep : HostDrep 0x0200000a#32 1#32 2#32 (fromHost cmDrepAttrId 0x0200000a#32 1#32 2#32 0#32) :=
    ⟨⟨rfl, by decide +kernel, by decide +kernel⟩, by decide +kernel⟩
  have opens : Role.passive.Opens [.req, .req, .rep, .rtu] := ⟨by decide, fun _ => by decide⟩
  have closes : ∃ d, .inr d ∈ ([.inl .rtu, .inr .FROM_HOST, .inl .rep, .inr .FROM_NET] : List CloseMsg) :=
    ⟨.FROM_HOST, by simp⟩
  obtain ⟨t, ran, locals, remotes, qpns, _⟩ := lifecycle_leaves_no_trace (S := Tracker.init) ⟨[], rfl⟩ rfl rfl rfl
    (by decide) (by decide) (by decide) (by decide) (by decide) handshake hostDreq netDreq (Or.inl drep) opens closes
  exact ⟨t, ran, locals, remotes, qpns⟩

end ConntrackCm
