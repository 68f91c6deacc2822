import ConntrackCm.Lib.Store
import ConntrackCm.Wire

/-!
# The connection tracker

`cm_connection_tracker` as state passing. Flow objects are shared pointers in the source:
both indexes hold references into one heap, `state->x = v` is `Tracker.modify`, and two
pointers are equal when their references are. A failed `assert` ends the run with the
assertion's name; log output is left out.
-/

namespace ConntrackCm

open Lib

abbrev IdT := BitVec 32
abbrev QpnT := BitVec 32
abbrev InAddrT := BitVec 32

/-- `flow_key`: destination address and destination QPN. -/
abbrev FlowKey := InAddrT × QpnT

/-- `FLOW_STATES`. -/
inductive FlowSt where
  | IDLE | REQ_SENT | REQ_RCVD | MRA_REQ_RCVD | MRA_REQ_SENT | MRA_REP_SENT | MRA_REP_RCVD
  | REP_SENT | REP_RCVD | ESTABLISHED | DREQ_SENT | DREQ_RCVD | TIMEWAIT
  deriving DecidableEq, Repr

/-- `cm_flow_key`: peer address and the peer's communication id. -/
structure CmFlowKey where
  addr : InAddrT
  id : IdT
  deriving DecidableEq, Repr

namespace CmFlowKey

/-- `cm_flow_key()`. -/
def null : CmFlowKey := ⟨0#32, 0#32⟩

/-- `operator bool`. -/
def IsSet (k : CmFlowKey) : Prop := k.addr ≠ 0#32 ∧ k.id ≠ 0#32

instance (k : CmFlowKey) : Decidable k.IsSet := inferInstanceAs (Decidable (_ ∧ _))

/-- `from_dest`. -/
def fromDest (p : RteMbuf) (remoteId : IdT) : Except Fault CmFlowKey := do
  return ⟨← daddr p, remoteId⟩

/-- `from_src`. -/
def fromSrc (p : RteMbuf) (remoteId : IdT) : Except Fault CmFlowKey := do
  return ⟨← saddr p, remoteId⟩

@[simp] theorem not_isSet_null : ¬ null.IsSet := by decide

end CmFlowKey

/-- `flow_state`. -/
structure FlowState where
  state : FlowSt := .IDLE
  localId : IdT := 0#32
  remoteId : CmFlowKey := .null
  localQpn : QpnT := 0#32
  remoteQpn : QpnT := 0#32
  inQpnMap : Bool := false
  deriving DecidableEq, Repr

/-- `get_flow_key`. -/
def FlowState.getFlowKey (f : FlowState) : FlowKey := (f.remoteId.addr, f.remoteQpn)

/-- `cm_connection_tracker`: the two indexes, the query table and the flow objects. -/
structure Tracker where
  localMap : Table IdT Ref
  remoteMap : Table CmFlowKey Ref
  qpnMap : Table FlowKey QpnT
  flows : Heap FlowState

namespace Tracker

/-- A fresh tracker. -/
def init : Tracker := ⟨.empty, .empty, .empty, .empty {}⟩

/-- The object behind a flow pointer. -/
def flow (t : Tracker) (s : Ref) : FlowState := t.flows.get s

/-- Assignment to fields of a flow object. -/
def modify (t : Tracker) (s : Ref) (g : FlowState → FlowState) : Tracker :=
  { t with flows := t.flows.modify s g }

/-- `get_source_qpn`. -/
def getSourceQpn (t : Tracker) (flow : FlowKey) : QpnT :=
  match t.qpnMap.find flow with
  | some qpn => qpn
  | none => 0#32

/-- `on_established`: `unordered_map::insert` keeps an entry that is already there. -/
def onEstablished (t : Tracker) (s : Ref) : Tracker :=
  let f := t.flow s
  if f.localQpn = 0#32 ∨ f.remoteQpn = 0#32 then t
  else match t.qpnMap.find f.getFlowKey with
    | some _ => t
    | none =>
      { t with qpnMap := t.qpnMap.insert f.getFlowKey f.localQpn }.modify s
        fun f => { f with inQpnMap := true }

/-- `on_disconnected`. -/
def onDisconnected (t : Tracker) (s : Ref) : Tracker :=
  let f := t.flow s
  if f.localQpn = 0#32 ∨ f.remoteQpn = 0#32 then t
  else match t.qpnMap.find f.getFlowKey with
    | none => t
    | some _ =>
      { t with qpnMap := t.qpnMap.erase f.getFlowKey }.modify s fun f => { f with inQpnMap := false }

/-! ## The indexes -/

/-- `std::make_shared<flow_state>()`. -/
def makeShared (t : Tracker) : Ref × Tracker := (t.flows.next, { t with flows := t.flows.alloc {} })

/-- `state->local_id = local_id; local_map[local_id] = state`. -/
def bindLocal (t : Tracker) (s : Ref) (localId : IdT) : Tracker :=
  { t.modify s (fun f => { f with localId := localId }) with localMap := t.localMap.insert localId s }

/-- `state->remote_id = remote_id; remote_map[remote_id] = state`. -/
def bindRemote (t : Tracker) (s : Ref) (remoteId : CmFlowKey) : Tracker :=
  { t.modify s (fun f => { f with remoteId := remoteId }) with remoteMap := t.remoteMap.insert remoteId s }

/-- The end of `add_new_flow`: enter the picked flow under the ids it is not stored under. -/
def bindIds (t : Tracker) (state : Option Ref) (localIt remoteIt : Option Ref)
    (localId : IdT) (remoteId : CmFlowKey) : Except Fault (Ref × Tracker) :=
  match state with
  | none => .error (.assertion .addNewFlowState)
  | some s => do
    let t ← if localIt = none ∧ localId ≠ 0#32 then do
        check ((t.flow s).localId = 0#32) (.assertion .addNewFlowLocalId)
        pure (t.bindLocal s localId)
      else pure t
    let t ← if remoteIt = none ∧ remoteId.IsSet then do
        check (¬ (t.flow s).remoteId.IsSet) (.assertion .addNewFlowRemoteId)
        pure (t.bindRemote s remoteId)
      else pure t
    return (s, t)

/-- `add_new_flow`. -/
def addNewFlow (t : Tracker) (localId : IdT) (remoteId : CmFlowKey) : Except Fault (Ref × Tracker) :=
  let localIt := t.localMap.find localId
  let remoteIt := t.remoteMap.find remoteId
  match localIt, remoteIt with
  | some s, some r => do
    check (s = r) (.assertion .addNewFlowSame)
    check ((t.flow s).localId = localId ∧ (t.flow s).remoteId = remoteId) (.assertion .addNewFlowOwnIds)
    return (s, t)
  | none, none => do
    check (localId ≠ 0#32 ∨ remoteId.IsSet) (.assertion .addNewFlowIds)
    let (s, t) := t.makeShared
    bindIds t (some s) localIt remoteIt localId remoteId
  | some s, none => bindIds t (some s) localIt remoteIt localId remoteId
  | none, some s => bindIds t (some s) localIt remoteIt localId remoteId

/-- `get_flow`: look the flow up by its local id, or by the remote key when the local id is
0, and create it when it is not there. -/
def getFlow (t : Tracker) (localId : IdT) (remoteId : CmFlowKey) : Except Fault (Ref × Tracker) := do
  check (localId ≠ 0#32 ∨ remoteId.IsSet) (.assertion .getFlowIds)
  let state := if localId ≠ 0#32 then t.localMap.find localId else t.remoteMap.find remoteId
  match state with
  | none => t.addNewFlow localId remoteId
  | some s => return (s, t)

/-- The flow `s` found by `erase_flow` leaves the tables. The entries that go are those of
the ids passed in, whatever ids `s` carries. -/
def dropFlow (t : Tracker) (s : Ref) (localId : IdT) (remoteId : CmFlowKey) : Tracker :=
  let t := if (t.flow s).inQpnMap then t.onDisconnected s else t
  { t with localMap := t.localMap.erase localId, remoteMap := t.remoteMap.erase remoteId }

/-- `erase_flow`. -/
def eraseFlow (t : Tracker) (localId : IdT) (remoteId : CmFlowKey) : Except Fault Tracker := do
  check (localId ≠ 0#32 ∨ remoteId.IsSet) (.assertion .eraseFlowIds)
  match if localId ≠ 0#32 then t.localMap.find localId else t.remoteMap.find remoteId with
  | none => return t
  | some s => return t.dropFlow s localId remoteId

/-! ## Messages from the host -/

/-- `req_sent`. -/
def reqSent (t : Tracker) (p : RteMbuf) : Except Fault Tracker := do
  let msg ← mbufMad p
  let localId ← ibaGet cmReqLocalCommId p msg
  let (s, t) ← t.getFlow localId .null
  match (t.flow s).state with
  | .IDLE | .REQ_SENT =>
    let t := t.modify s fun f => { f with state := .REQ_SENT }
    let qpn ← ibaGet cmReqLocalQpn p msg
    return t.modify s fun f => { f with localQpn := qpn }
  | _ => return t

/-- `rej_sent`. -/
def rejSent (t : Tracker) (p : RteMbuf) : Except Fault Tracker := do
  let msg ← mbufMad p
  let localId ← ibaGet cmRejLocalCommId p msg
  let remoteId ← ibaGet cmRejRemoteCommId p msg
  let remoteFlow ← CmFlowKey.fromDest p remoteId
  let (s, t) ← t.getFlow localId remoteFlow
  match (t.flow s).state with
  | .IDLE | .REQ_RCVD | .REQ_SENT | .MRA_REQ_RCVD | .MRA_REQ_SENT | .REP_RCVD | .MRA_REP_SENT =>
    t.eraseFlow localId remoteFlow
  | .REP_SENT | .MRA_REP_RCVD => t.eraseFlow localId remoteFlow
  | _ => return t

/-- `rep_sent`. -/
def repSent (t : Tracker) (p : RteMbuf) : Except Fault Tracker := do
  let msg ← mbufMad p
  let localId ← ibaGet cmRepLocalCommId p msg
  let remoteId ← ibaGet cmRepRemoteCommId p msg
  let remoteFlow ← CmFlowKey.fromDest p remoteId
  let (s, t) ← t.getFlow localId remoteFlow
  match (t.flow s).state with
  | .REQ_RCVD | .MRA_REQ_SENT =>
    let t := t.modify s fun f => { f with state := .REP_SENT }
    let (_, t) ← t.addNewFlow localId remoteFlow
    let qpn ← ibaGet cmRepLocalQpn p msg
    return t.modify s fun f => { f with localQpn := qpn }
  | .REP_SENT => return t
  | _ => return t

/-- `rtu_sent`. -/
def rtuSent (t : Tracker) (p : RteMbuf) : Except Fault Tracker := do
  let msg ← mbufMad p
  let localId ← ibaGet cmRtuLocalCommId p msg
  let (s, t) ← t.getFlow localId .null
  match (t.flow s).state with
  | .REP_RCVD | .MRA_REP_SENT =>
    return (t.modify s fun f => { f with state := .ESTABLISHED }).onEstablished s
  | _ => return t

/-- `dreq_sent`. -/
def dreqSent (t : Tracker) (p : RteMbuf) : Except Fault Tracker := do
  let msg ← mbufMad p
  let localId ← ibaGet cmDreqLocalCommId p msg
  let (s, t) ← t.getFlow localId .null
  match (t.flow s).state with
  | .IDLE | .ESTABLISHED | .DREQ_SENT | .DREQ_RCVD =>
    return t.modify s fun f => { f with state := .DREQ_SENT }
  | _ => return t

/-- `drep_sent`. -/
def drepSent (t : Tracker) (p : RteMbuf) : Except Fault Tracker := do
  let msg ← mbufMad p
  let localId ← ibaGet cmDrepLocalCommId p msg
  let remoteId ← ibaGet cmDrepRemoteCommId p msg
  let remoteFlow ← CmFlowKey.fromDest p remoteId
  let (s, t) ← t.getFlow localId .null
  match (t.flow s).state with
  | .DREQ_SENT | .DREQ_RCVD => t.eraseFlow localId remoteFlow
  | _ => return t

/-! ## Messages from the network -/

/-- `req_received`. -/
def reqReceived (t : Tracker) (p : RteMbuf) : Except Fault Tracker := do
  let msg ← mbufMad p
  let remoteId ← ibaGet cmReqLocalCommId p msg
  let remoteFlow ← CmFlowKey.fromSrc p remoteId
  let (s, t) ← t.getFlow 0#32 remoteFlow
  match (t.flow s).state with
  | .REQ_RCVD =>
    let qpn ← ibaGet cmReqLocalQpn p msg
    check ((t.flow s).remoteQpn = qpn) (.assertion .reqReceivedQpn)
    return t.modify s fun f => { f with state := .REQ_RCVD, remoteQpn := qpn }
  | .IDLE =>
    let qpn ← ibaGet cmReqLocalQpn p msg
    return t.modify s fun f => { f with state := .REQ_RCVD, remoteQpn := qpn }
  | _ => return t

/-- `rej_received`. -/
def rejReceived (t : Tracker) (p : RteMbuf) : Except Fault Tracker := do
  let msg ← mbufMad p
  let localId ← ibaGet cmRejRemoteCommId p msg
  let remoteId ← ibaGet cmRejLocalCommId p msg
  let remoteFlow ← CmFlowKey.fromSrc p remoteId
  let (s, t) ← t.getFlow localId remoteFlow
  match (t.flow s).state with
  | .IDLE | .REQ_SENT | .MRA_REQ_RCVD | .REP_SENT | .MRA_REP_RCVD | .MRA_REQ_SENT =>
    t.eraseFlow localId remoteFlow
  | .DREQ_SENT | .REP_RCVD | .MRA_REP_SENT | .ESTABLISHED => t.eraseFlow localId remoteFlow
  | _ => return t

/-- `rep_received`. -/
def repReceived (t : Tracker) (p : RteMbuf) : Except Fault Tracker := do
  let msg ← mbufMad p
  let localId ← ibaGet cmRepRemoteCommId p msg
  let remoteId ← ibaGet cmRepLocalCommId p msg
  let remoteFlow ← CmFlowKey.fromSrc p remoteId
  let (s, t) ← t.getFlow localId .null
  match (t.flow s).state with
  | .REQ_SENT | .MRA_REQ_RCVD =>
    let t := t.modify s fun f => { f with state := .REP_RCVD }
    let qpn ← ibaGet cmRepLocalQpn p msg
    let t := t.modify s fun f => { f with remoteQpn := qpn }
    let (_, t) ← t.addNewFlow localId remoteFlow
    return t
  | _ => return t

/-- `rtu_received`. -/
def rtuReceived (t : Tracker) (p : RteMbuf) : Except Fault Tracker := do
  let msg ← mbufMad p
  let localId ← ibaGet cmRtuRemoteCommId p msg
  let (s, t) ← t.getFlow localId .null
  match (t.flow s).state with
  | .REP_SENT | .MRA_REP_RCVD =>
    return (t.modify s fun f => { f with state := .ESTABLISHED }).onEstablished s
  | _ => return t

/-- `dreq_received`. -/
def dreqReceived (t : Tracker) (p : RteMbuf) : Except Fault Tracker := do
  let msg ← mbufMad p
  let localId ← ibaGet cmDreqRemoteCommId p msg
  let (s, t) ← t.getFlow localId .null
  match (t.flow s).state with
  | .REP_SENT | .DREQ_SENT | .ESTABLISHED | .MRA_REP_RCVD | .TIMEWAIT | .DREQ_RCVD =>
    return t.modify s fun f => { f with state := .DREQ_RCVD }
  | _ => return t

/-- `drep_received`. -/
def drepReceived (t : Tracker) (p : RteMbuf) : Except Fault Tracker := do
  let msg ← mbufMad p
  let localId ← ibaGet cmDrepRemoteCommId p msg
  let remoteId ← ibaGet cmDrepLocalCommId p msg
  let remoteFlow ← CmFlowKey.fromSrc p remoteId
  let (s, t) ← t.getFlow localId .null
  match (t.flow s).state with
  | .DREQ_SENT | .DREQ_RCVD => t.eraseFlow localId remoteFlow
  | _ => return t

/-! ## Dispatch -/

abbrev Handler := Tracker → RteMbuf → Except Fault Tracker

/-- `host_handlers`, an empty slot being `none`. -/
def hostHandlers (attrId : BitVec 16) : Option Handler :=
  if attrId = cmReqAttrId then some reqSent
  else if attrId = cmRejAttrId then some rejSent
  else if attrId = cmRepAttrId then some repSent
  else if attrId = cmRtuAttrId then some rtuSent
  else if attrId = cmDreqAttrId then some dreqSent
  else if attrId = cmDrepAttrId then some drepSent
  else none

/-- `net_handlers`. -/
def netHandlers (attrId : BitVec 16) : Option Handler :=
  if attrId = cmReqAttrId then some reqReceived
  else if attrId = cmRejAttrId then some rejReceived
  else if attrId = cmRepAttrId then some repReceived
  else if attrId = cmRtuAttrId then some rtuReceived
  else if attrId = cmDreqAttrId then some dreqReceived
  else if attrId = cmDrepAttrId then some drepReceived
  else none

/-- `process_packet`. -/
def processPacket (t : Tracker) (handlers : BitVec 16 → Option Handler) (p : RteMbuf) : Except Fault Tracker := do
  let attrId ← getAttrId p
  let h := if attrId < cmMaxAttrId then handlers attrId else none
  match h with
  | some h => h t p
  | none =>
    logUnknown p
    return t

/-- `process`. -/
def process (t : Tracker) (p : RteMbuf) (dir : CtcmDirection) : Except Fault Tracker :=
  match dir with
  | .FROM_HOST => t.processPacket hostHandlers p
  | .FROM_NET => t.processPacket netHandlers p

end Tracker

/-- `ctcm_process_packet`: only packets with a MAD annotation reach the tracker. -/
def ctcmProcessPacket (t : Tracker) (dir : CtcmDirection) (p : RteMbuf) : Except Fault Tracker := do
  match ← mbufMad p with
  | some _ => t.process p dir
  | none => return t

/-- `ctcm_query_ipv4`. -/
def ctcmQueryIpv4 (t : Tracker) (destIp : InAddrT) (dqpn : QpnT) : QpnT := t.getSourceQpn (destIp, dqpn)

end ConntrackCm
