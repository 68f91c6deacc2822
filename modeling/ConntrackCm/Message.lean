import ConntrackCm.Machine

/-!
# Packets by their contents

What a packet says, in the terms of the CM protocol: its direction, its attribute and the
values of its fields. `reads_iff` links this to the event the tracker reads from it.
-/

namespace ConntrackCm

open Lib

/-- A packet together with the side it comes from. -/
abbrev Packet := RteMbuf × CtcmDirection

/-- A datagram of the host `10.0.0.1` to `peer`, with the host's and the peer's id. -/
def fromHost (attrId : BitVec 16) (peer : InAddrT) (localId remoteId : IdT) (qpn : QpnT) : Packet :=
  (cmMbuf attrId 0x0100000a#32 peer localId remoteId qpn, .FROM_HOST)

/-- A datagram of `peer` to the host. -/
def fromNet (attrId : BitVec 16) (peer : InAddrT) (localId remoteId : IdT) (qpn : QpnT) : Packet :=
  (cmMbuf attrId peer 0x0100000a#32 remoteId localId qpn, .FROM_NET)

/-- The packets of a connection that the host opens. -/
def activeOpen (peer : InAddrT) (localId remoteId : IdT) (localQpn remoteQpn : QpnT) : List Packet :=
  [fromHost cmReqAttrId peer localId 0#32 localQpn, fromNet cmRepAttrId peer localId remoteId remoteQpn,
    fromHost cmRtuAttrId peer localId remoteId 0#32]

/-- The packets of a connection that the peer opens. -/
def passiveOpen (peer : InAddrT) (localId remoteId : IdT) (localQpn remoteQpn : QpnT) : List Packet :=
  [fromNet cmReqAttrId peer 0#32 remoteId remoteQpn, fromHost cmRepAttrId peer localId remoteId localQpn,
    fromNet cmRtuAttrId peer localId remoteId 0#32]

/-- `IBA_GET` on the annotated message of a packet. -/
def getField (field : IbaField) (p : RteMbuf) : Except Fault (BitVec 32) := do
  ibaGet field p (← mbufMad p)

/-- The packet goes in direction `dir`, is of kind `attrId` and has these field values. -/
structure Carries (x : Packet) (dir : CtcmDirection) (attrId : BitVec 16) (fields : List (IbaField × BitVec 32)) :
    Prop where
  dir : x.2 = dir
  attrId : getAttrId x.1 = .ok attrId
  fields : ∀ f ∈ fields, getField f.1 x.1 = .ok f.2

/-! ## The handshake messages -/

def HostReq (localId : IdT) (localQpn : QpnT) (x : Packet) : Prop :=
  Carries x .FROM_HOST cmReqAttrId [(cmReqLocalCommId, localId), (cmReqLocalQpn, localQpn)]

def NetRep (ip : InAddrT) (localId remoteId : IdT) (remoteQpn : QpnT) (x : Packet) : Prop :=
  Carries x .FROM_NET cmRepAttrId
    [(cmRepRemoteCommId, localId), (cmRepLocalCommId, remoteId), (cmRepLocalQpn, remoteQpn)] ∧ saddr x.1 = .ok ip

def HostRtu (localId : IdT) (x : Packet) : Prop :=
  Carries x .FROM_HOST cmRtuAttrId [(cmRtuLocalCommId, localId)]

def NetReq (ip : InAddrT) (remoteId : IdT) (remoteQpn : QpnT) (x : Packet) : Prop :=
  Carries x .FROM_NET cmReqAttrId [(cmReqLocalCommId, remoteId), (cmReqLocalQpn, remoteQpn)] ∧ saddr x.1 = .ok ip

def HostRep (ip : InAddrT) (localId remoteId : IdT) (localQpn : QpnT) (x : Packet) : Prop :=
  Carries x .FROM_HOST cmRepAttrId
    [(cmRepLocalCommId, localId), (cmRepRemoteCommId, remoteId), (cmRepLocalQpn, localQpn)] ∧ daddr x.1 = .ok ip

def NetRtu (localId : IdT) (x : Packet) : Prop :=
  Carries x .FROM_NET cmRtuAttrId [(cmRtuRemoteCommId, localId)]

/-! ## The closing messages -/

def HostRej (ip : InAddrT) (localId remoteId : IdT) (x : Packet) : Prop :=
  Carries x .FROM_HOST cmRejAttrId [(cmRejLocalCommId, localId), (cmRejRemoteCommId, remoteId)] ∧ daddr x.1 = .ok ip

def NetRej (ip : InAddrT) (localId remoteId : IdT) (x : Packet) : Prop :=
  Carries x .FROM_NET cmRejAttrId [(cmRejRemoteCommId, localId), (cmRejLocalCommId, remoteId)] ∧ saddr x.1 = .ok ip

def HostDreq (localId : IdT) (x : Packet) : Prop :=
  Carries x .FROM_HOST cmDreqAttrId [(cmDreqLocalCommId, localId)]

def NetDreq (localId : IdT) (x : Packet) : Prop :=
  Carries x .FROM_NET cmDreqAttrId [(cmDreqRemoteCommId, localId)]

def HostDrep (ip : InAddrT) (localId remoteId : IdT) (x : Packet) : Prop :=
  Carries x .FROM_HOST cmDrepAttrId [(cmDrepLocalCommId, localId), (cmDrepRemoteCommId, remoteId)] ∧
    daddr x.1 = .ok ip

def NetDrep (ip : InAddrT) (localId remoteId : IdT) (x : Packet) : Prop :=
  Carries x .FROM_NET cmDrepAttrId [(cmDrepRemoteCommId, localId), (cmDrepLocalCommId, remoteId)] ∧
    saddr x.1 = .ok ip

/-! ## From packets to events -/

/-- The tracker reads the event `e` from the packet `x`. -/
def Reads (x : Packet) (e : Event) : Prop := readEvent x.1 x.2 = .ok (some e)

theorem ofPacket_iff {dir : CtcmDirection} {attrId : BitVec 16} {op : CmOp} :
    CmOp.ofPacket dir attrId = some op ↔ dir = op.dir ∧ attrId = op.attrId := by
  constructor
  · intro h
    cases dir <;> simp only [CmOp.ofPacket] at h <;> split_ifs at h <;> cases h <;>
      exact ⟨rfl, by assumption⟩
  · rintro ⟨rfl, rfl⟩
    cases op <;> rfl

/-- The fields behind an event. -/
structure ReadsFields (x : Packet) (e : Event) : Prop where
  dir : x.2 = e.op.dir
  attrId : getAttrId x.1 = .ok e.op.attrId
  localId : ∀ f, e.op.localField = some f → getField f x.1 = .ok e.localId
  noLocalId : e.op.localField = none → e.localId = 0#32
  remoteId : ∀ f, e.op.remoteField = some f → getField f x.1 = .ok e.remoteId.id ∧
    (match e.op.dir with
      | .FROM_HOST => daddr x.1
      | .FROM_NET => saddr x.1) = .ok e.remoteId.addr
  noRemoteId : e.op.remoteField = none → e.remoteId = .null
  qpn : ∀ f, e.op.qpnField = some f → e.qpn = getField f x.1
  noQpn : e.op.qpnField = none → e.qpn = .ok 0#32

theorem getField_of {p : RteMbuf} {msg : Option Nat} (mad : mbufMad p = .ok msg) (field : IbaField) :
    getField field p = ibaGet field p msg := by
  rw [getField, bind_of_ok mad]

theorem Reads.fields {x : Packet} {e : Event} (h : Reads x e) : ReadsFields x e := by
  obtain ⟨attrId, attr, h⟩ := bind_ok h
  cases dispatch : CmOp.ofPacket x.2 attrId with
  | none =>
    rw [dispatch] at h
    obtain ⟨_, _, silent⟩ := bind_ok h
    cases silent
  | some op =>
    rw [dispatch] at h
    obtain ⟨e', read, same⟩ := bind_ok h
    cases same
    obtain ⟨dir, rfl⟩ := ofPacket_iff.mp dispatch
    obtain ⟨msg, mad, read⟩ := bind_ok read
    obtain ⟨l, localRead, read⟩ := bind_ok read
    obtain ⟨k, remoteRead, read⟩ := bind_ok read
    cases read
    refine ⟨dir, attr, ?_, ?_, ?_, ?_, ?_, ?_⟩
    · intro f field
      rw [getField_of mad]
      simpa only [CmOp.readLocalId, field] using localRead
    · intro field
      simp only [CmOp.readLocalId, field] at localRead
      cases localRead
      rfl
    · intro f field
      simp only [CmOp.readRemoteId, field] at remoteRead
      obtain ⟨id, idRead, keyRead⟩ := bind_ok remoteRead
      rw [getField_of mad]
      unfold CmOp.peerKey at keyRead
      split at keyRead <;> rename_i side <;> obtain ⟨ip, addr, key⟩ := bind_ok keyRead <;> cases key <;>
        rw [side] <;> exact ⟨idRead, addr⟩
    · intro field
      simp only [CmOp.readRemoteId, field] at remoteRead
      cases remoteRead
      rfl
    · intro f field
      rw [getField_of mad]
      simp only [CmOp.readQpn, field]
    · intro field
      simp only [CmOp.readQpn, field]
      rfl

theorem mad_of_attrId {p : RteMbuf} {attrId : BitVec 16} (h : getAttrId p = .ok attrId) :
    ∃ msg, mbufMad p = .ok msg := by
  obtain ⟨msg, mad, _⟩ := bind_ok h
  exact ⟨msg, mad⟩

theorem ReadsFields.reads {x : Packet} {e : Event} (h : ReadsFields x e) : Reads x e := by
  obtain ⟨msg, mad⟩ := mad_of_attrId h.attrId
  have localRead : e.op.readLocalId x.1 msg = .ok e.localId := by
    unfold CmOp.readLocalId
    split
    · rename_i f field
      rw [← getField_of mad]
      exact h.localId f field
    · rename_i field
      rw [h.noLocalId field]
      rfl
  have remoteRead : e.op.readRemoteId x.1 msg = .ok e.remoteId := by
    unfold CmOp.readRemoteId
    split
    · rename_i f field
      obtain ⟨id, addr⟩ := h.remoteId f field
      rw [getField_of mad] at id
      rw [bind_of_ok id]
      unfold CmOp.peerKey
      split <;> rename_i side <;> rw [side] at addr
      · rw [CmFlowKey.fromDest, bind_of_ok addr]; rfl
      · rw [CmFlowKey.fromSrc, bind_of_ok addr]; rfl
    · rename_i field
      rw [h.noRemoteId field]
      rfl
  have qpnRead : e.op.readQpn x.1 msg = e.qpn := by
    unfold CmOp.readQpn
    split
    · rename_i f field
      rw [h.qpn f field, getField_of mad]
    · rename_i field
      rw [h.noQpn field]
      rfl
  have dispatch : CmOp.ofPacket x.2 e.op.attrId = some e.op := ofPacket_iff.mpr ⟨h.dir, rfl⟩
  rw [Reads, readEvent, bind_of_ok h.attrId, dispatch]
  simp only [CmOp.read, bind_of_ok mad, bind_of_ok localRead, bind_of_ok remoteRead, qpnRead]
  rfl

/-- An event is read from exactly the packets with its fields. -/
theorem reads_iff {x : Packet} {e : Event} : Reads x e ↔ ReadsFields x e :=
  ⟨Reads.fields, ReadsFields.reads⟩

section Messages

variable {x : Packet} {l : IdT} {k : CmFlowKey} {q : QpnT}

theorem hostReq_iff : HostReq l q x ↔ Reads x ⟨.reqSent, l, .null, .ok q⟩ := by
  rw [reads_iff]
  constructor
  · intro h
    have id := h.fields (cmReqLocalCommId, l) (by simp)
    have qpn := h.fields (cmReqLocalQpn, q) (by simp)
    exact ⟨h.dir, h.attrId, fun f field => by cases field; exact id, nofun, nofun, fun _ => rfl,
      fun f field => by cases field; exact qpn.symm, nofun⟩
  · intro h
    have id := h.localId _ rfl
    have qpn := h.qpn _ rfl
    exact ⟨h.dir, h.attrId, by simpa using ⟨id, qpn.symm⟩⟩

theorem netReq_iff : NetReq k.addr k.id q x ↔ Reads x ⟨.reqReceived, 0#32, k, .ok q⟩ := by
  rw [reads_iff]
  constructor
  · rintro ⟨h, addr⟩
    have id := h.fields (cmReqLocalCommId, k.id) (by simp)
    have qpn := h.fields (cmReqLocalQpn, q) (by simp)
    exact ⟨h.dir, h.attrId, nofun, fun _ => rfl, fun f field => by cases field; exact ⟨id, addr⟩, nofun,
      fun f field => by cases field; exact qpn.symm, nofun⟩
  · intro h
    obtain ⟨id, addr⟩ := h.remoteId _ rfl
    have qpn := h.qpn _ rfl
    exact ⟨⟨h.dir, h.attrId, by simpa using ⟨id, qpn.symm⟩⟩, addr⟩

theorem hostRep_iff : HostRep k.addr l k.id q x ↔ Reads x ⟨.repSent, l, k, .ok q⟩ := by
  rw [reads_iff]
  constructor
  · rintro ⟨h, addr⟩
    have id := h.fields (cmRepLocalCommId, l) (by simp)
    have peer := h.fields (cmRepRemoteCommId, k.id) (by simp)
    have qpn := h.fields (cmRepLocalQpn, q) (by simp)
    exact ⟨h.dir, h.attrId, fun f field => by cases field; exact id, nofun,
      fun f field => by cases field; exact ⟨peer, addr⟩, nofun, fun f field => by cases field; exact qpn.symm, nofun⟩
  · intro h
    have id := h.localId _ rfl
    obtain ⟨peer, addr⟩ := h.remoteId _ rfl
    have qpn := h.qpn _ rfl
    exact ⟨⟨h.dir, h.attrId, by simpa using ⟨id, peer, qpn.symm⟩⟩, addr⟩

theorem netRep_iff : NetRep k.addr l k.id q x ↔ Reads x ⟨.repReceived, l, k, .ok q⟩ := by
  rw [reads_iff]
  constructor
  · rintro ⟨h, addr⟩
    have id := h.fields (cmRepRemoteCommId, l) (by simp)
    have peer := h.fields (cmRepLocalCommId, k.id) (by simp)
    have qpn := h.fields (cmRepLocalQpn, q) (by simp)
    exact ⟨h.dir, h.attrId, fun f field => by cases field; exact id, nofun,
      fun f field => by cases field; exact ⟨peer, addr⟩, nofun, fun f field => by cases field; exact qpn.symm, nofun⟩
  · intro h
    have id := h.localId _ rfl
    obtain ⟨peer, addr⟩ := h.remoteId _ rfl
    have qpn := h.qpn _ rfl
    exact ⟨⟨h.dir, h.attrId, by simpa using ⟨id, peer, qpn.symm⟩⟩, addr⟩

/-- A message that is read for the id on our side only. -/
theorem reads_local_iff (op : CmOp) {f : IbaField} (field : op.localField = some f) (noKey : op.remoteField = none)
    (noQpn : op.qpnField = none) : Carries x op.dir op.attrId [(f, l)] ↔ Reads x ⟨op, l, .null, .ok 0#32⟩ := by
  rw [reads_iff]
  constructor
  · intro h
    have id := h.fields (f, l) (by simp)
    refine ⟨h.dir, h.attrId, ?_, ?_, ?_, fun _ => rfl, ?_, fun _ => rfl⟩
    · intro f' field'
      cases field.symm.trans field'
      exact id
    · intro none
      cases field.symm.trans none
    · intro f' field'
      cases noKey.symm.trans field'
    · intro f' field'
      cases noQpn.symm.trans field'
  · intro h
    have id := h.localId f field
    exact ⟨h.dir, h.attrId, by simpa using id⟩

/-- A message that is read for the ids of both sides. -/
theorem reads_ids_iff (op : CmOp) {f g : IbaField} (field : op.localField = some f) (key : op.remoteField = some g)
    (noQpn : op.qpnField = none) :
    (Carries x op.dir op.attrId [(f, l), (g, k.id)] ∧
      (match op.dir with
        | .FROM_HOST => daddr x.1
        | .FROM_NET => saddr x.1) = .ok k.addr) ↔ Reads x ⟨op, l, k, .ok 0#32⟩ := by
  rw [reads_iff]
  constructor
  · rintro ⟨h, addr⟩
    have id := h.fields (f, l) (by simp)
    have peer := h.fields (g, k.id) (by simp)
    refine ⟨h.dir, h.attrId, ?_, ?_, ?_, ?_, ?_, fun _ => rfl⟩
    · intro f' field'
      cases field.symm.trans field'
      exact id
    · intro none
      cases field.symm.trans none
    · intro f' field'
      cases key.symm.trans field'
      exact ⟨peer, addr⟩
    · intro none
      cases key.symm.trans none
    · intro f' field'
      cases noQpn.symm.trans field'
  · intro h
    have id := h.localId f field
    obtain ⟨peer, addr⟩ := h.remoteId g key
    exact ⟨⟨h.dir, h.attrId, by simpa using ⟨id, peer⟩⟩, addr⟩

theorem hostRtu_iff : HostRtu l x ↔ Reads x ⟨.rtuSent, l, .null, .ok 0#32⟩ := reads_local_iff .rtuSent rfl rfl rfl

theorem netRtu_iff : NetRtu l x ↔ Reads x ⟨.rtuReceived, l, .null, .ok 0#32⟩ := reads_local_iff .rtuReceived rfl rfl rfl

theorem hostDreq_iff : HostDreq l x ↔ Reads x ⟨.dreqSent, l, .null, .ok 0#32⟩ := reads_local_iff .dreqSent rfl rfl rfl

theorem netDreq_iff : NetDreq l x ↔ Reads x ⟨.dreqReceived, l, .null, .ok 0#32⟩ :=
  reads_local_iff .dreqReceived rfl rfl rfl

theorem hostRej_iff : HostRej k.addr l k.id x ↔ Reads x ⟨.rejSent, l, k, .ok 0#32⟩ := reads_ids_iff .rejSent rfl rfl rfl

theorem netRej_iff : NetRej k.addr l k.id x ↔ Reads x ⟨.rejReceived, l, k, .ok 0#32⟩ :=
  reads_ids_iff .rejReceived rfl rfl rfl

theorem hostDrep_iff : HostDrep k.addr l k.id x ↔ Reads x ⟨.drepSent, l, k, .ok 0#32⟩ :=
  reads_ids_iff .drepSent rfl rfl rfl

theorem netDrep_iff : NetDrep k.addr l k.id x ↔ Reads x ⟨.drepReceived, l, k, .ok 0#32⟩ :=
  reads_ids_iff .drepReceived rfl rfl rfl

end Messages

/-! ## Packets without null ids -/

/-- The communication id fields of a message: a REQ has one, the others two. -/
def commIdFields (attrId : BitVec 16) : List IbaField :=
  if attrId = cmReqAttrId then [cmReqLocalCommId]
  else if attrId = cmRejAttrId then [cmRejLocalCommId, cmRejRemoteCommId]
  else if attrId = cmRepAttrId then [cmRepLocalCommId, cmRepRemoteCommId]
  else if attrId = cmRtuAttrId then [cmRtuLocalCommId, cmRtuRemoteCommId]
  else if attrId = cmDreqAttrId then [cmDreqLocalCommId, cmDreqRemoteCommId]
  else if attrId = cmDrepAttrId then [cmDrepLocalCommId, cmDrepRemoteCommId]
  else []

/-- The addresses and communication ids of a packet are all non-zero. -/
structure NonZero (x : Packet) : Prop where
  saddr : ∀ a, saddr x.1 = .ok a → a ≠ 0#32
  daddr : ∀ a, daddr x.1 = .ok a → a ≠ 0#32
  commIds : ∀ attrId f v, getAttrId x.1 = .ok attrId → f ∈ commIdFields attrId → getField f x.1 = .ok v → v ≠ 0#32

/-- `NonZero` as a test. -/
def nonZero (x : Packet) : Bool :=
  allOk (· != 0#32) (saddr x.1) && allOk (· != 0#32) (daddr x.1) &&
    allOk (fun attrId => (commIdFields attrId).all fun f => allOk (· != 0#32) (getField f x.1)) (getAttrId x.1)

theorem nonZero_iff {x : Packet} : nonZero x = true ↔ NonZero x := by
  simp only [nonZero, Bool.and_eq_true, allOk_iff, List.all_eq_true, bne_iff_ne]
  constructor
  · rintro ⟨⟨src, dst⟩, ids⟩
    exact ⟨src, dst, fun attrId f v attr member get => ids attrId attr f member v get⟩
  · intro h
    exact ⟨⟨h.saddr, h.daddr⟩, fun attrId attr f member v get => h.commIds attrId f v attr member get⟩

instance (x : Packet) : Decidable (NonZero x) := decidable_of_iff _ nonZero_iff

theorem localField_mem {op : CmOp} {f : IbaField} (h : op.localField = some f) : f ∈ commIdFields op.attrId := by
  cases op <;> cases h <;> decide

theorem remoteField_mem {op : CmOp} {f : IbaField} (h : op.remoteField = some f) : f ∈ commIdFields op.attrId := by
  cases op <;> cases h <;> decide

/-- Handlers of such packets work with ids that are set. -/
theorem NonZero.localId {x : Packet} {e : Event} (nz : NonZero x) (read : Reads x e) (op : e.op ≠ .reqReceived) :
    e.localId ≠ 0#32 := by
  have fields := read.fields
  cases field : e.op.localField with
  | none =>
    cases h : e.op <;> rw [h] at field <;> first | exact absurd h op | cases field
  | some f => exact nz.commIds _ f _ fields.attrId (localField_mem field) (fields.localId f field)

theorem NonZero.remoteId {x : Packet} {e : Event} (nz : NonZero x) (read : Reads x e)
    (used : e.op.remoteField ≠ none) : e.remoteId.IsSet := by
  have fields := read.fields
  obtain ⟨f, field⟩ := Option.ne_none_iff_exists'.mp used
  obtain ⟨id, addr⟩ := fields.remoteId f field
  refine ⟨?_, nz.commIds _ f _ fields.attrId (remoteField_mem field) id⟩
  split at addr
  · exact nz.daddr _ addr
  · exact nz.saddr _ addr

end ConntrackCm
