import ConntrackCm.Tracker

/-!
# The tracker as a state machine

The twelve handlers do the same three things: read ids out of the message, look a flow up
(creating it when it is missing), and act on it depending on its state. Here they are one
machine: `CmOp` is the handler, `Event` what it read, `action` the whole transition table
and `Tracker.step` the one transition function. `process_eq` says that `process` is this
machine behind the packet readers, so every later proof is about `step`.
-/

namespace ConntrackCm

open Lib

/-- The message handlers. -/
inductive CmOp where
  | reqSent | rejSent | repSent | rtuSent | dreqSent | drepSent
  | reqReceived | rejReceived | repReceived | rtuReceived | dreqReceived | drepReceived
  deriving DecidableEq, Repr

/-- What a handler does with the flow it found. -/
inductive Action where
  /-- The default branch. -/
  | unexpected
  /-- A repeated REP of the host. -/
  | duplicate
  | sendReq
  | receiveReq
  | sendRep
  | receiveRep
  | establish
  | disconnect (next : FlowSt)
  | erase
  deriving DecidableEq, Repr

/-- The switch of every handler. -/
def action : CmOp → FlowSt → Action
  | .reqSent, .IDLE | .reqSent, .REQ_SENT => .sendReq
  | .reqReceived, .REQ_RCVD | .reqReceived, .IDLE => .receiveReq
  | .rejSent, .IDLE | .rejSent, .REQ_RCVD | .rejSent, .REQ_SENT | .rejSent, .MRA_REQ_RCVD
  | .rejSent, .MRA_REQ_SENT | .rejSent, .REP_RCVD | .rejSent, .MRA_REP_SENT | .rejSent, .REP_SENT
  | .rejSent, .MRA_REP_RCVD => .erase
  | .rejReceived, .IDLE | .rejReceived, .REQ_SENT | .rejReceived, .MRA_REQ_RCVD | .rejReceived, .REP_SENT
  | .rejReceived, .MRA_REP_RCVD | .rejReceived, .MRA_REQ_SENT | .rejReceived, .DREQ_SENT
  | .rejReceived, .REP_RCVD | .rejReceived, .MRA_REP_SENT | .rejReceived, .ESTABLISHED => .erase
  | .repSent, .REQ_RCVD | .repSent, .MRA_REQ_SENT => .sendRep
  | .repSent, .REP_SENT => .duplicate
  | .repReceived, .REQ_SENT | .repReceived, .MRA_REQ_RCVD => .receiveRep
  | .rtuSent, .REP_RCVD | .rtuSent, .MRA_REP_SENT => .establish
  | .rtuReceived, .REP_SENT | .rtuReceived, .MRA_REP_RCVD => .establish
  | .dreqSent, .IDLE | .dreqSent, .ESTABLISHED | .dreqSent, .DREQ_SENT | .dreqSent, .DREQ_RCVD =>
    .disconnect .DREQ_SENT
  | .dreqReceived, .REP_SENT | .dreqReceived, .DREQ_SENT | .dreqReceived, .ESTABLISHED
  | .dreqReceived, .MRA_REP_RCVD | .dreqReceived, .TIMEWAIT | .dreqReceived, .DREQ_RCVD =>
    .disconnect .DREQ_RCVD
  | .drepSent, .DREQ_SENT | .drepSent, .DREQ_RCVD => .erase
  | .drepReceived, .DREQ_SENT | .drepReceived, .DREQ_RCVD => .erase
  | _, _ => .unexpected

/-! The table read backwards. -/

theorem action_sendReq {op : CmOp} {st : FlowSt} (act : action op st = .sendReq) :
    op = .reqSent ∧ (st = .IDLE ∨ st = .REQ_SENT) := by
  cases op <;> cases st <;> simp [action] at act ⊢

theorem action_receiveReq {op : CmOp} {st : FlowSt} (act : action op st = .receiveReq) :
    op = .reqReceived ∧ (st = .IDLE ∨ st = .REQ_RCVD) := by
  cases op <;> cases st <;> simp [action] at act ⊢

theorem action_sendRep {op : CmOp} {st : FlowSt} (act : action op st = .sendRep) :
    op = .repSent ∧ (st = .REQ_RCVD ∨ st = .MRA_REQ_SENT) := by
  cases op <;> cases st <;> simp [action] at act ⊢

theorem action_receiveRep {op : CmOp} {st : FlowSt} (act : action op st = .receiveRep) :
    op = .repReceived ∧ (st = .REQ_SENT ∨ st = .MRA_REQ_RCVD) := by
  cases op <;> cases st <;> simp [action] at act ⊢

theorem action_establish {op : CmOp} {st : FlowSt} (act : action op st = .establish) :
    (op = .rtuSent ∧ (st = .REP_RCVD ∨ st = .MRA_REP_SENT)) ∨
      (op = .rtuReceived ∧ (st = .REP_SENT ∨ st = .MRA_REP_RCVD)) := by
  cases op <;> cases st <;> simp [action] at act ⊢

theorem action_disconnect {op : CmOp} {st next : FlowSt} (act : action op st = .disconnect next) :
    (op = .dreqSent ∧ next = .DREQ_SENT) ∨ (op = .dreqReceived ∧ next = .DREQ_RCVD) := by
  cases op <;> cases st <;> simp [action] at act <;> simp [act]

/-- What a handler reads from its packet. The QPN is read only on the branches that use it,
so it stays a read that may fault. -/
structure Event where
  op : CmOp
  /-- The id on our side, 0 for a received REQ. -/
  localId : IdT
  /-- The key of the peer, null in handlers that compute none. -/
  remoteId : CmFlowKey
  qpn : Except Fault QpnT

/-- The key passed to `get_flow`; most handlers look up by the local id alone. -/
def Event.lookupKey (e : Event) : CmFlowKey :=
  match e.op with
  | .reqReceived | .rejSent | .rejReceived | .repSent => e.remoteId
  | _ => .null

/-- Field assignments of an action, `qpn` being the QPN in the message. -/
def Action.update (qpn : QpnT) (f : FlowState) : Action → FlowState
  | .sendReq => { f with state := .REQ_SENT, localQpn := qpn }
  | .receiveReq => { f with state := .REQ_RCVD, remoteQpn := qpn }
  | .sendRep => { f with state := .REP_SENT, localQpn := qpn }
  | .receiveRep => { f with state := .REP_RCVD, remoteQpn := qpn }
  | .establish => { f with state := .ESTABLISHED }
  | .disconnect next => { f with state := next }
  | .unexpected | .duplicate | .erase => f

namespace Tracker

/-- Act on the flow `s`. -/
def perform (t : Tracker) (s : Ref) (e : Event) : Action → Except Fault Tracker
  | .unexpected | .duplicate => .ok t
  | .sendReq => do
    let qpn ← e.qpn
    return t.modify s fun f => Action.sendReq.update qpn f
  | .receiveReq => do
    let qpn ← e.qpn
    check ((t.flow s).state = .REQ_RCVD → (t.flow s).remoteQpn = qpn) (.assertion .reqReceivedQpn)
    return t.modify s fun f => Action.receiveReq.update qpn f
  | .sendRep => do
    let t := t.modify s fun f => { f with state := .REP_SENT }
    let (_, t) ← t.addNewFlow e.localId e.remoteId
    let qpn ← e.qpn
    return t.modify s fun f => { f with localQpn := qpn }
  | .receiveRep => do
    let qpn ← e.qpn
    let t := t.modify s fun f => Action.receiveRep.update qpn f
    let (_, t) ← t.addNewFlow e.localId e.remoteId
    return t
  | .establish => .ok ((t.modify s fun f => Action.establish.update 0#32 f).onEstablished s)
  | .disconnect next => .ok (t.modify s fun f => (Action.disconnect next).update 0#32 f)
  | .erase => t.eraseFlow e.localId e.remoteId

/-- One transition: look the flow up, then act on it. -/
def step (t : Tracker) (e : Event) : Except Fault Tracker := do
  let (s, t) ← t.getFlow e.localId e.lookupKey
  t.perform s e (action e.op (t.flow s).state)

end Tracker

/-! ## Reading events -/

namespace CmOp

def dir : CmOp → CtcmDirection
  | .reqSent | .rejSent | .repSent | .rtuSent | .dreqSent | .drepSent => .FROM_HOST
  | _ => .FROM_NET

def attrId : CmOp → BitVec 16
  | .reqSent | .reqReceived => cmReqAttrId
  | .rejSent | .rejReceived => cmRejAttrId
  | .repSent | .repReceived => cmRepAttrId
  | .rtuSent | .rtuReceived => cmRtuAttrId
  | .dreqSent | .dreqReceived => cmDreqAttrId
  | .drepSent | .drepReceived => cmDrepAttrId

/-- Where a handler finds the id on our side: the sender's own id in its LOCAL_COMM_ID, so
ours is the LOCAL one from the host and the REMOTE one from the network. -/
def localField : CmOp → Option IbaField
  | .reqSent => some cmReqLocalCommId
  | .rejSent => some cmRejLocalCommId
  | .repSent => some cmRepLocalCommId
  | .rtuSent => some cmRtuLocalCommId
  | .dreqSent => some cmDreqLocalCommId
  | .drepSent => some cmDrepLocalCommId
  | .reqReceived => none
  | .rejReceived => some cmRejRemoteCommId
  | .repReceived => some cmRepRemoteCommId
  | .rtuReceived => some cmRtuRemoteCommId
  | .dreqReceived => some cmDreqRemoteCommId
  | .drepReceived => some cmDrepRemoteCommId

/-- Where a handler finds the peer's id, when it uses one. -/
def remoteField : CmOp → Option IbaField
  | .rejSent => some cmRejRemoteCommId
  | .repSent => some cmRepRemoteCommId
  | .drepSent => some cmDrepRemoteCommId
  | .reqReceived => some cmReqLocalCommId
  | .rejReceived => some cmRejLocalCommId
  | .repReceived => some cmRepLocalCommId
  | .drepReceived => some cmDrepLocalCommId
  | _ => none

def qpnField : CmOp → Option IbaField
  | .reqSent | .reqReceived => some cmReqLocalQpn
  | .repSent | .repReceived => some cmRepLocalQpn
  | _ => none

/-- The peer is the destination of a host packet and the source of a network packet. -/
def peerKey (op : CmOp) (p : RteMbuf) (id : IdT) : Except Fault CmFlowKey :=
  match op.dir with
  | .FROM_HOST => CmFlowKey.fromDest p id
  | .FROM_NET => CmFlowKey.fromSrc p id

def readLocalId (op : CmOp) (p : RteMbuf) (msg : Option Nat) : Except Fault IdT :=
  match op.localField with
  | some field => ibaGet field p msg
  | none => pure 0#32

def readRemoteId (op : CmOp) (p : RteMbuf) (msg : Option Nat) : Except Fault CmFlowKey :=
  match op.remoteField with
  | some field => do op.peerKey p (← ibaGet field p msg)
  | none => pure .null

def readQpn (op : CmOp) (p : RteMbuf) (msg : Option Nat) : Except Fault QpnT :=
  match op.qpnField with
  | some field => ibaGet field p msg
  | none => pure 0#32

/-- The reads of a handler. -/
def read (op : CmOp) (p : RteMbuf) : Except Fault Event := do
  let msg ← mbufMad p
  let localId ← op.readLocalId p msg
  let remoteId ← op.readRemoteId p msg
  return ⟨op, localId, remoteId, op.readQpn p msg⟩

/-- The source's handler. -/
def handler : CmOp → Tracker.Handler
  | .reqSent => Tracker.reqSent
  | .rejSent => Tracker.rejSent
  | .repSent => Tracker.repSent
  | .rtuSent => Tracker.rtuSent
  | .dreqSent => Tracker.dreqSent
  | .drepSent => Tracker.drepSent
  | .reqReceived => Tracker.reqReceived
  | .rejReceived => Tracker.rejReceived
  | .repReceived => Tracker.repReceived
  | .rtuReceived => Tracker.rtuReceived
  | .dreqReceived => Tracker.dreqReceived
  | .drepReceived => Tracker.drepReceived

/-- The handler a packet is dispatched to. -/
def ofPacket (dir : CtcmDirection) (attrId : BitVec 16) : Option CmOp :=
  match dir with
  | .FROM_HOST =>
    if attrId = cmReqAttrId then some .reqSent
    else if attrId = cmRejAttrId then some .rejSent
    else if attrId = cmRepAttrId then some .repSent
    else if attrId = cmRtuAttrId then some .rtuSent
    else if attrId = cmDreqAttrId then some .dreqSent
    else if attrId = cmDrepAttrId then some .drepSent
    else none
  | .FROM_NET =>
    if attrId = cmReqAttrId then some .reqReceived
    else if attrId = cmRejAttrId then some .rejReceived
    else if attrId = cmRepAttrId then some .repReceived
    else if attrId = cmRtuAttrId then some .rtuReceived
    else if attrId = cmDreqAttrId then some .dreqReceived
    else if attrId = cmDrepAttrId then some .drepReceived
    else none

end CmOp

/-- The event of a packet, none for an attribute without a handler. -/
def readEvent (p : RteMbuf) (dir : CtcmDirection) : Except Fault (Option Event) := do
  match CmOp.ofPacket dir (← getAttrId p) with
  | none =>
    logUnknown p
    return none
  | some op => return some (← op.read p)

/-! ## The handlers are the machine -/

theorem modify_modify (t : Tracker) (s : Ref) (g h : FlowState → FlowState) :
    (t.modify s g).modify s h = t.modify s fun f => h (g f) := by
  simp only [Tracker.modify, Heap.modify_modify]

/-- Each handler reads its event and takes the machine's step on it. -/
theorem handler_eq (op : CmOp) (t : Tracker) (p : RteMbuf) :
    op.handler t p = op.read p >>= fun e => t.step e := by
  -- the reads come in the same order on both sides, so peel them off and compare the switches
  cases op <;>
    simp only [CmOp.handler, CmOp.read, CmOp.readLocalId, CmOp.readRemoteId, CmOp.readQpn, CmOp.localField,
      CmOp.remoteField, CmOp.qpnField, CmOp.peerKey, CmOp.dir, bind_assoc, pure_bind]
  case reqSent =>
    refine bind_congr fun msg => bind_congr fun localId => bind_congr fun ⟨s, u⟩ => ?_
    dsimp only [Tracker.Handler]
    cases (u.flow s).state <;> first | rfl | (simp only [modify_modify]; rfl)
  case reqReceived =>
    refine bind_congr fun msg => bind_congr fun remoteId => bind_congr fun key => bind_congr fun ⟨s, u⟩ => ?_
    dsimp only [Tracker.Handler]
    cases current : (u.flow s).state <;> try rfl
    case IDLE =>
      refine bind_congr fun qpn => ?_
      have first : (u.flow s).state = .REQ_RCVD → (u.flow s).remoteQpn = qpn := by
        intro repeated
        rw [current] at repeated
        cases repeated
      rw [bind_of_ok (check_pos first)]
      rfl
    case REQ_RCVD =>
      refine bind_congr fun qpn => ?_
      simp only [current, forall_const]
      rfl
  case repReceived =>
    refine bind_congr fun msg => bind_congr fun localId => bind_congr fun remoteId =>
      bind_congr fun key => bind_congr fun ⟨s, u⟩ => ?_
    dsimp only [Tracker.Handler]
    cases (u.flow s).state <;> first | rfl | (simp only [modify_modify]; rfl)
  case rtuSent | rtuReceived | dreqSent | dreqReceived =>
    refine bind_congr fun msg => bind_congr fun localId => bind_congr fun ⟨s, u⟩ => ?_
    dsimp only [Tracker.Handler]
    cases (u.flow s).state <;> rfl
  case rejSent | rejReceived | repSent | drepSent | drepReceived =>
    refine bind_congr fun msg => bind_congr fun localId => bind_congr fun remoteId =>
      bind_congr fun key => bind_congr fun ⟨s, u⟩ => ?_
    dsimp only [Tracker.Handler]
    cases (u.flow s).state <;> rfl

/-- The dispatch tables hold the handler of each message kind and nothing else. -/
theorem handlers_eq (dir : CtcmDirection) (attrId : BitVec 16) :
    (if attrId < cmMaxAttrId then
      (match dir with
        | .FROM_HOST => Tracker.hostHandlers
        | .FROM_NET => Tracker.netHandlers) attrId else none) =
      (CmOp.ofPacket dir attrId).map CmOp.handler := by
  by_cases small : attrId < cmMaxAttrId
  · rw [if_pos small]
    cases dir <;> simp only [Tracker.hostHandlers, Tracker.netHandlers, CmOp.ofPacket] <;>
      split_ifs <;> rfl
  · rw [if_neg small]
    have none_of_large : CmOp.ofPacket dir attrId = none := by
      have large : ∀ id : BitVec 16, id < cmMaxAttrId → attrId ≠ id := fun id lt same => small (same ▸ lt)
      cases dir <;> simp only [CmOp.ofPacket, if_neg (large cmReqAttrId (by decide)), if_neg (large cmRejAttrId (by decide)),
        if_neg (large cmRepAttrId (by decide)), if_neg (large cmRtuAttrId (by decide)),
        if_neg (large cmDreqAttrId (by decide)), if_neg (large cmDrepAttrId (by decide))]
    rw [none_of_large]
    rfl

theorem processPacket_eq (t : Tracker) (handlers : BitVec 16 → Option Tracker.Handler) (p : RteMbuf) :
    t.processPacket handlers p = getAttrId p >>= fun attrId =>
      (if attrId < cmMaxAttrId then handlers attrId else none).elim (logUnknown p >>= fun _ => .ok t) fun h => h t p := by
  unfold Tracker.processPacket
  refine bind_congr fun attrId => ?_
  cases (if attrId < cmMaxAttrId then handlers attrId else none) <;> rfl

/-- **`process` is the machine behind the packet readers.** -/
theorem process_eq (t : Tracker) (p : RteMbuf) (dir : CtcmDirection) :
    t.process p dir = readEvent p dir >>= fun
      | none => .ok t
      | some e => t.step e := by
  have dispatch : t.process p dir = getAttrId p >>= fun attrId =>
      ((CmOp.ofPacket dir attrId).map CmOp.handler).elim (logUnknown p >>= fun _ => .ok t) fun h => h t p := by
    cases dir <;> simp only [← handlers_eq] <;> exact processPacket_eq t _ p
  rw [dispatch, readEvent, bind_assoc]
  refine bind_congr fun attrId => ?_
  cases CmOp.ofPacket dir attrId with
  | none => simp only [Option.map_none, Option.elim_none, bind_assoc, pure_bind]
  | some op =>
    simp only [Option.map_some, Option.elim_some, handler_eq, bind_assoc, pure_bind]

/-- A packet that is processed either has no handler, and changes nothing, or is one step. -/
theorem process_ok {t t' : Tracker} {p : RteMbuf} {dir : CtcmDirection} (h : t.process p dir = .ok t') :
    (readEvent p dir = .ok none ∧ t' = t) ∨ ∃ e, readEvent p dir = .ok (some e) ∧ t.step e = .ok t' := by
  rw [process_eq] at h
  obtain ⟨o, read, now⟩ := bind_ok h
  cases o with
  | none => cases now; exact Or.inl ⟨read, rfl⟩
  | some e => exact Or.inr ⟨e, read, now⟩

end ConntrackCm
