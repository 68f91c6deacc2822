import ConntrackCm.Assertions
import ConntrackCm.History
import ConntrackCm.Agreement
import ConntrackCm.Independence
import ConntrackCm.Lifecycle
import ConntrackCm.Progress

/-!
# A network of hosts

Hosts with a tracker each, and connections between them. A message is one packet: the tracker of
the sender sees it from the host, and each delivery shows it to the tracker of the receiver from
the network. Deliveries come in any order, late, more than once or never, the messages of all
connections are interleaved, and an end may send a message when it should not. All that is asked
of the hosts is that they write their own ids and QPNs into their messages, and that only the end
that opens a connection sends its REQ and RTU and only the other one its REP.

Then no tracker fails an assertion, every answer is the pair of QPNs of one connection whose
handshake was sent, and the trackers at the two ends never contradict each other
(`network_sound`).
-/

namespace ConntrackCm

open Lib

/-! ## Messages -/

/-- The other side of the connection. -/
def Role.peer : Role → Role
  | .active => .passive
  | .passive => .active

/-- The kinds of messages that have handlers. -/
inductive CmMsg where
  | req | rej | rep | rtu | dreq | drep
  deriving DecidableEq, Repr

namespace CmMsg

/-- The handler at the sender. -/
def sent : CmMsg → CmOp
  | .req => .reqSent
  | .rej => .rejSent
  | .rep => .repSent
  | .rtu => .rtuSent
  | .dreq => .dreqSent
  | .drep => .drepSent

/-- The handler at the receiver. -/
def received : CmMsg → CmOp
  | .req => .reqReceived
  | .rej => .rejReceived
  | .rep => .repReceived
  | .rtu => .rtuReceived
  | .dreq => .dreqReceived
  | .drep => .drepReceived

/-- The sides that send it. -/
def SentBy : CmMsg → Role → Prop
  | .req, side | .rtu, side => side = .active
  | .rep, side => side = .passive
  | _, _ => True

/-! The two handlers read the same fields, each the sender's as the other's peer. -/

theorem sent_dir (m : CmMsg) : m.sent.dir = .FROM_HOST := by
  cases m <;> rfl

theorem received_dir (m : CmMsg) : m.received.dir = .FROM_NET := by
  cases m <;> rfl

theorem received_attrId (m : CmMsg) : m.received.attrId = m.sent.attrId := by
  cases m <;> rfl

theorem sent_remoteField {m : CmMsg} {f : IbaField} (field : m.sent.remoteField = some f) :
    m.received.localField = some f := by
  cases m <;> first | exact field | cases field

theorem received_remoteField {m : CmMsg} {f : IbaField} (field : m.received.remoteField = some f) :
    m.sent.localField = some f := by
  cases m <;> first | exact field | cases field

theorem received_qpnField (m : CmMsg) : m.received.qpnField = m.sent.qpnField := by
  cases m <;> rfl

end CmMsg

/-- The sides that run the handler. -/
def CmOp.RunsAt : CmOp → Role → Prop
  | .reqSent, side | .repReceived, side | .rtuSent, side => side = .active
  | .reqReceived, side | .repSent, side | .rtuReceived, side => side = .passive
  | _, _ => True

theorem CmMsg.runsAt_received {m : CmMsg} {role : Role} (sentBy : m.SentBy role) : m.received.RunsAt role.peer := by
  cases m <;> cases role <;> trivial

/-- One end of one connection. -/
structure Side (κ : Type) where
  conn : κ
  role : Role
  deriving DecidableEq

/-- The end it is connected to. -/
def Side.peer {κ : Type} (x : Side κ) : Side κ := ⟨x.conn, x.role.peer⟩

@[simp] theorem Side.peer_peer {κ : Type} (x : Side κ) : x.peer.peer = x := by
  obtain ⟨c, role⟩ := x
  cases role <;> rfl

theorem Side.peer_inj {κ : Type} {x y : Side κ} (same : x.peer = y.peer) : x = y := by
  rw [← x.peer_peer, ← y.peer_peer, same]

/-- Hosts with their addresses, and for each end of a connection its host, its communication id
and its QPN. Addresses are those of one host, and ids those of one end at each host; none is null. -/
structure Fabric (η κ : Type) where
  addr : η → InAddrT
  host : Side κ → η
  id : Side κ → IdT
  qpn : Side κ → QpnT
  addr_ne : ∀ h, addr h ≠ 0#32
  addr_inj : Function.Injective addr
  id_ne : ∀ x, id x ≠ 0#32
  id_inj : ∀ x y, host x = host y → id x = id y → x = y

/-- A message on its way. -/
structure Letter (κ : Type) where
  sender : Side κ
  msg : CmMsg
  packet : RteMbuf

/-- What happens in the network. -/
inductive NetEvent (κ : Type) where
  | send (a : Letter κ)
  | deliver (a : Letter κ)

namespace NetEvent

variable {κ : Type}

def letter : NetEvent κ → Letter κ
  | .send a | .deliver a => a

/-- The end at which it happens. -/
def side : NetEvent κ → Side κ
  | .send a => a.sender
  | .deliver a => a.sender.peer

/-- The packet as the tracker there sees it. -/
def packet : NetEvent κ → Packet
  | .send a => (a.packet, .FROM_HOST)
  | .deliver a => (a.packet, .FROM_NET)

def op : NetEvent κ → CmOp
  | .send a => a.msg.sent
  | .deliver a => a.msg.received

theorem msg_eq {ev : NetEvent κ} {m : CmMsg} (kind : ev.op = m.sent ∨ ev.op = m.received) : ev.letter.msg = m := by
  cases ev with
  | send a =>
    obtain ⟨x, msg, p⟩ := a
    cases m <;> cases msg <;> first | rfl | (rcases kind with kind | kind <;> cases kind)
  | deliver a =>
    obtain ⟨x, msg, p⟩ := a
    cases m <;> cases msg <;> first | rfl | (rcases kind with kind | kind <;> cases kind)

theorem conn_eq (ev : NetEvent κ) : ev.side.conn = ev.letter.sender.conn := by
  cases ev <;> rfl

end NetEvent

namespace Fabric

variable {η κ : Type} (net : Fabric η κ)

/-- The peer of an end, as its tracker knows it. -/
def key (x : Side κ) : CmFlowKey := ⟨net.addr (net.host x.peer), net.id x.peer⟩

/-- The packet says what the sender means: its kind, the addresses, the sender's id and, where the
message has a field for it, the receiver's id and the sender's QPN. -/
structure Genuine (a : Letter κ) : Prop where
  sentBy : a.msg.SentBy a.sender.role
  attrId : getAttrId a.packet = .ok a.msg.sent.attrId
  saddr : saddr a.packet = .ok (net.addr (net.host a.sender))
  daddr : daddr a.packet = .ok (net.addr (net.host a.sender.peer))
  localId : ∀ f, a.msg.sent.localField = some f → getField f a.packet = .ok (net.id a.sender)
  remoteId : ∀ f, a.msg.received.localField = some f → getField f a.packet = .ok (net.id a.sender.peer)
  qpn : ∀ f, a.msg.sent.qpnField = some f → getField f a.packet = .ok (net.qpn a.sender)

/-- What can happen: an end sends a message when `rule` allows it after what happened so far, or a
message that was sent is delivered. -/
inductive Schedule (rule : List (NetEvent κ) → Letter κ → Prop) : List (NetEvent κ) → Prop where
  | nil : Schedule rule []
  | send {es : List (NetEvent κ)} {a : Letter κ} (before : Schedule rule es) (genuine : net.Genuine a)
      (allowed : rule es a) : Schedule rule (es ++ [.send a])
  | deliver {es : List (NetEvent κ)} {a : Letter κ} (before : Schedule rule es) (sent : .send a ∈ es) :
      Schedule rule (es ++ [.deliver a])

/-- The tracker of the host where it happens processes the packet. -/
def step [DecidableEq η] : (η → Tracker) → NetEvent κ → Except Fault (η → Tracker) :=
  stepAt Tracker.feed (fun ev => net.host ev.side) NetEvent.packet

/-- The trackers before the first message. -/
def init : η → Tracker := fun _ => Tracker.init

/-! ## What the trackers read -/

/-- The reads of the handler `op` in a message of the connection of `x`, at the end `x`. -/
def event (x : Side κ) (op : CmOp) : Event :=
  ⟨op, if op.localField = none then 0#32 else net.id x, if op.remoteField = none then .null else net.key x,
    .ok (if op.qpnField = none then 0#32 else
      match op.dir with
      | .FROM_HOST => net.qpn x
      | .FROM_NET => net.qpn x.peer)⟩

variable {net}

theorem Genuine.runsAt {ev : NetEvent κ} (genuine : net.Genuine ev.letter) : ev.op.RunsAt ev.side.role := by
  have by_side := genuine.sentBy
  cases ev with
  | send a =>
    obtain ⟨x, msg, p⟩ := a
    cases msg <;> exact by_side
  | deliver a =>
    exact CmMsg.runsAt_received by_side

theorem event_localId {x : Side κ} {op : CmOp} (field : op.localField ≠ none) : (net.event x op).localId = net.id x :=
  if_neg field

theorem event_remoteId {x : Side κ} {op : CmOp} (field : op.remoteField ≠ none) :
    (net.event x op).remoteId = net.key x :=
  if_neg field

theorem event_qpn {x : Side κ} {op : CmOp} (field : op.qpnField ≠ none) :
    (net.event x op).qpn = .ok (match op.dir with
      | .FROM_HOST => net.qpn x
      | .FROM_NET => net.qpn x.peer) :=
  congrArg Except.ok (if_neg field)

/-- A packet with the ids and the QPN of the connection, in the fields of the handler. -/
theorem reads_event {x : Side κ} {op : CmOp} {y : Packet} (dir : y.2 = op.dir) (attrId : getAttrId y.1 = .ok op.attrId)
    (localId : ∀ f, op.localField = some f → getField f y.1 = .ok (net.id x))
    (remoteId : ∀ f, op.remoteField = some f → getField f y.1 = .ok (net.id x.peer))
    (addr : (match op.dir with
      | .FROM_HOST => daddr y.1
      | .FROM_NET => saddr y.1) = .ok (net.addr (net.host x.peer)))
    (qpn : ∀ f, op.qpnField = some f → getField f y.1 = .ok (match op.dir with
      | .FROM_HOST => net.qpn x
      | .FROM_NET => net.qpn x.peer)) : Reads y (net.event x op) := by
  rw [reads_iff]
  refine ⟨dir, attrId, ?_, ?_, ?_, ?_, ?_, ?_⟩
  · intro f field
    have known : op.localField ≠ none := fun none => nomatch none.symm.trans field
    rw [event_localId known]
    exact localId f field
  · intro none
    exact if_pos none
  · intro f field
    have known : op.remoteField ≠ none := fun none => nomatch none.symm.trans field
    rw [event_remoteId known]
    exact ⟨remoteId f field, addr⟩
  · intro none
    exact if_pos none
  · intro f field
    have known : op.qpnField ≠ none := fun none => nomatch none.symm.trans field
    rw [event_qpn known]
    exact (qpn f field).symm
  · intro none
    exact congrArg Except.ok (if_pos none)

/-- The tracker at either end reads the message it is shown. -/
theorem Genuine.reads {ev : NetEvent κ} (genuine : net.Genuine ev.letter) :
    Reads ev.packet (net.event ev.side ev.op) := by
  cases ev with
  | send a =>
    have dir : a.msg.sent.dir = .FROM_HOST := a.msg.sent_dir
    refine reads_event dir.symm genuine.attrId genuine.localId ?_ ?_ ?_
    · intro f field
      exact genuine.remoteId f (CmMsg.sent_remoteField field)
    · simp only [NetEvent.op, dir]
      exact genuine.daddr
    · simp only [NetEvent.op, dir]
      exact genuine.qpn
  | deliver a =>
    have dir : a.msg.received.dir = .FROM_NET := a.msg.received_dir
    refine reads_event dir.symm ?_ genuine.remoteId ?_ ?_ ?_
    · rw [NetEvent.op, a.msg.received_attrId]
      exact genuine.attrId
    · intro f field
      rw [NetEvent.side, Side.peer_peer]
      exact genuine.localId f (CmMsg.received_remoteField field)
    · simp only [NetEvent.op, dir, NetEvent.side, Side.peer_peer]
      exact genuine.saddr
    · simp only [NetEvent.op, dir, NetEvent.side, Side.peer_peer]
      intro f field
      exact genuine.qpn f (a.msg.received_qpnField ▸ field)

theorem Genuine.nonZero {ev : NetEvent κ} (genuine : net.Genuine ev.letter) : NonZero ev.packet := by
  have packet : ev.packet.1 = ev.letter.packet := by cases ev <;> rfl
  constructor
  · intro a read
    rw [packet, genuine.saddr] at read
    cases read
    exact net.addr_ne _
  · intro a read
    rw [packet, genuine.daddr] at read
    cases read
    exact net.addr_ne _
  · intro attrId f v attr field read
    rw [packet] at attr read
    cases genuine.attrId.symm.trans attr
    have known : ev.letter.msg.sent.localField = some f ∨ ev.letter.msg.received.localField = some f := by
      cases kind : ev.letter.msg <;> rw [kind] at field <;>
        simpa [commIdFields, CmMsg.sent, CmOp.attrId, CmMsg.received, CmOp.localField, cmReqAttrId, cmRejAttrId, cmRepAttrId,
          cmRtuAttrId, cmDreqAttrId, cmDrepAttrId, eq_comm] using field
    rcases known with own | peer
    · cases (genuine.localId f own).symm.trans read
      exact net.id_ne _
    · cases (genuine.remoteId f peer).symm.trans read
      exact net.id_ne _

/-! ## One host -/

variable (net)

/-- The ends at a host. -/
abbrev Ends (h : η) := { x : Side κ // net.host x = h }

/-- The connections of a host are told apart by the ids of either side. -/
def family (h : η) : Family (net.Ends h) where
  localId x := net.id x.1
  remoteId x := net.key x.1
  localId_ne x := net.id_ne x.1
  remoteId_set x := ⟨net.addr_ne _, net.id_ne _⟩
  localId_inj x y same := Subtype.ext (net.id_inj x.1 y.1 (x.2.trans y.2.symm) same)
  remoteId_inj x y same := by
    obtain ⟨addr, id⟩ := CmFlowKey.mk.inj same
    exact Subtype.ext (Side.peer_inj (net.id_inj _ _ (net.addr_inj addr) id))

/-- The QPN that the peer of an end shows. -/
def Shown (h : η) (x : net.Ends h) (q : QpnT) : Prop := q = net.qpn x.1.peer

/-- The packet is a message that an end at the host sends or receives. -/
def Sees (h : η) (y : Packet) : Prop :=
  NonZero y ∧ ∃ (x : net.Ends h) (op : CmOp), op.RunsAt x.1.role ∧ Reads y (net.event x.1 op)

variable {net}

theorem eventOf {h : η} (x : net.Ends h) (op : CmOp) : (net.family h).EventOf (net.Shown h) x (net.event x.1 op) := by
  refine ⟨⟨?_, ?_⟩, ?_⟩
  · by_cases field : op.localField = none
    · exact Or.inl (if_pos field)
    · exact Or.inr (event_localId field)
  · by_cases field : op.remoteField = none
    · have null : (net.event x.1 op).remoteId = .null := if_pos field
      refine Or.inr ⟨null ▸ CmFlowKey.not_isSet_null, ?_, ?_⟩
      · rintro rfl
        cases field
      · rintro rfl
        cases field
    · exact Or.inl (event_remoteId field)
  · rintro q (rfl | rfl) read
    · exact (Except.ok.inj read).symm
    · exact (Except.ok.inj read).symm

/-- What is true of the tracker at a host. A flow of an end that opens its connection has its local
id from the start, since the REQ of such an end is sent and not received. -/
structure Fits (net : Fabric η κ) (h : η) (t : Tracker) : Prop extends Indexed t, Agree t where
  partitioned : (net.family h).Partitioned (net.Shown h) t
  seated : ∀ s (x : net.Ends h), x.1.role = .active → (t.flow s).remoteId = net.key x.1 → (t.flow s).localId ≠ 0#32

theorem Fits.init (h : η) : net.Fits h Tracker.init := by
  refine ⟨Indexed.init, Agree.init, Family.Partitioned.init, ?_⟩
  intro s x _ key
  exact absurd key.symm ((net.family h).remoteId_ne x)

section Host

variable {h : η} {t u t' : Tracker} {s : Ref} {x : net.Ends h} {op : CmOp}

theorem flow_dropFlow_ids (t : Tracker) (s : Ref) (l : IdT) (k : CmFlowKey) (r : Ref) :
    ((t.dropFlow s l k).flow r).localId = (t.flow r).localId ∧
      ((t.dropFlow s l k).flow r).remoteId = (t.flow r).remoteId := by
  by_cases here : r = s
  · obtain ⟨flag, after, _⟩ := t.flow_dropFlow_self s l k
    rw [here, after]
    exact ⟨rfl, rfl⟩
  · rw [Tracker.flow_dropFlow_of_ne here]
    exact ⟨rfl, rfl⟩

/-- The two entries that an erasure takes out are of one connection, so it leaves no flow of another
with one entry; and what is left of its own flows has none. -/
theorem agree_dropFlow (idx : Indexed t) (agree : Agree t) (part : (net.family h).Partitioned (net.Shown h) t)
    (x : net.Ends h) (s : Ref) : Agree (t.dropFlow s (net.id x.1) (net.key x.1)) := by
  constructor
  · intro l r held set
    rw [(flow_dropFlow_ids t s _ _ r).2] at set ⊢
    rw [Tracker.localMap_dropFlow, Table.find_erase] at held
    split_ifs at held with here
    have other : (t.flow r).remoteId ≠ net.key x.1 := by
      intro key
      obtain ⟨id, own⟩ := idx.local_own held
      rcases (part r x (Or.inr key)).localId with zero | mine
      · exact id (own.symm.trans zero)
      · exact here (own.symm.trans mine)
    rw [Tracker.remoteMap_dropFlow, Table.find_erase, if_neg other]
    exact agree.toRemote held set
  · intro k r held id
    rw [(flow_dropFlow_ids t s _ _ r).1] at id ⊢
    rw [Tracker.remoteMap_dropFlow, Table.find_erase] at held
    split_ifs at held with here
    have other : (t.flow r).localId ≠ net.id x.1 := by
      intro own
      obtain ⟨set, key⟩ := idx.remote_own held
      rcases (part r x (Or.inl own)).remoteId with null | mine
      · exact CmFlowKey.not_isSet_null (null ▸ key ▸ set)
      · exact here (key.symm.trans mine)
    rw [Tracker.localMap_dropFlow, Table.find_erase, if_neg other]
    exact agree.toLocal held id

theorem erase_fields {op : CmOp} {st : FlowSt} (act : action op st = .erase) :
    op.localField ≠ none ∧ op.remoteField ≠ none := by
  cases op <;> simp [CmOp.localField, CmOp.remoteField] <;> cases st <;> cases act

theorem active_localField {op : CmOp} (runs : op.RunsAt .active) : op.localField ≠ none := by
  cases op <;> simp [CmOp.localField]
  cases runs

/-- A message of one of its connections leaves the tracker of the host so. -/
theorem Fits.step (fits : net.Fits h t) (tracked : Tracked t) (runs : op.RunsAt x.1.role)
    (stepped : t.step (net.event x.1 op) = .ok t') : net.Fits h t' := by
  have idx := fits.toIndexed
  obtain ⟨s, u, found, effect⟩ := (step_iff idx).mp stepped
  have idx' := found.indexed idx
  have mine := fits.partitioned.lookup idx (eventOf x op) found
  have after := mine.effect idx' (eventOf x op) effect
  refine ⟨idx.step stepped, ?_, fits.partitioned.step idx (eventOf x op) found effect, ?_⟩
  · have agree := fits.toAgree.lookup idx found
    by_cases act : action op (u.flow s).state = .erase
    · cases Except.ok.inj (stepped.symm.trans (found.step_erase act))
      obtain ⟨localField, remoteField⟩ := erase_fields act
      rw [event_localId localField, event_remoteId remoteField]
      exact agree_dropFlow idx' agree (fits.partitioned.update (fun r other => found.flow_of_ne other) mine) x s
    · exact agree.effect idx' found effect fun erases => absurd erases act
  · intro r y active key
    by_cases here : r = s
    · subst here
      -- the flow acted on has one owner, and all messages of an active end carry its local id
      cases after.owner (Or.inr key)
      have field := active_localField (active ▸ runs)
      have id : (u.flow r).localId = net.id x.1 := by
        have own := found.localId_eq idx' (by rw [event_localId field]; exact net.id_ne x.1)
        rwa [event_localId field] at own
      have kept := (effect.advances (found.entered tracked.entered)).localId (id ▸ net.id_ne x.1)
      rw [kept, id]
      exact net.id_ne x.1
    · rw [effect.flow_of_ne here, found.flow_of_ne here] at key ⊢
      exact fits.seated r y active key

variable {xs : List Packet}

/-- Two readings of one packet. -/
theorem event_eq {y : Packet} {e : Event} (reads : Reads y (net.event x.1 op)) (reads' : Reads y e) :
    e = net.event x.1 op :=
  Option.some.inj (Except.ok.inj (reads'.symm.trans reads))

/-- A flow that received a REQ has the key and the QPN of its peer. -/
theorem requested {f : FlowState} (sees : ∀ y ∈ xs, net.Sees h y) (past : History xs f) (st : f.state = .REQ_RCVD) :
    ∃ x : net.Ends h, f.remoteId = net.key x.1 ∧ f.remoteQpn = net.qpn x.1.peer := by
  simp only [History, st] at past
  obtain ⟨y, mem, req⟩ := past.2.exists_mem List.mem_cons_self
  obtain ⟨_, x, op, _, reads⟩ := sees y mem
  have same := event_eq reads (netReq_iff.mp req)
  have received : op = .reqReceived := (congrArg Event.op same).symm
  subst received
  exact ⟨x, congrArg Event.remoteId same, Except.ok.inj (congrArg Event.qpn same)⟩

/-- The ids that a message carries are of one end at the host. -/
theorem ends_eq {y : net.Ends h} (op : CmOp)
    (ids : (net.event y.1 op).localId = net.id x.1 ∨ (net.event y.1 op).remoteId = net.key x.1) : y = x := by
  have of := eventOf y op
  rcases ids with id | key
  · refine (net.family h).localId_inj ((of.localId.resolve_left ?_).symm.trans id)
    exact fun zero => net.id_ne x.1 (id.symm.trans zero)
  · refine (net.family h).remoteId_inj ((of.remoteId.resolve_right ?_).symm.trans key)
    exact fun unset => unset.1 (key ▸ (net.family h).remoteId_set x)

end Host

/-! ## The whole network -/

/-- The message of the connection has been sent. -/
def Posted (es : List (NetEvent κ)) (c : κ) (m : CmMsg) : Prop :=
  ∃ a, .send a ∈ es ∧ a.sender.conn = c ∧ a.msg = m

section Schedule

variable {rule : List (NetEvent κ) → Letter κ → Prop} {es : List (NetEvent κ)} {ev : NetEvent κ}

/-- Only what was sent is delivered. -/
theorem Schedule.sent (sched : net.Schedule rule es) (mem : ev ∈ es) : .send ev.letter ∈ es := by
  induction sched with
  | nil => cases mem
  | send before _ _ ih =>
    rcases List.mem_append.mp mem with old | new
    · exact List.mem_append_left _ (ih old)
    · rw [List.mem_singleton.mp new]
      simp [NetEvent.letter]
  | deliver before sent ih =>
    rcases List.mem_append.mp mem with old | new
    · exact List.mem_append_left _ (ih old)
    · rw [List.mem_singleton.mp new]
      exact List.mem_append_left _ sent

theorem Schedule.genuine (sched : net.Schedule rule es) {a : Letter κ} (mem : .send a ∈ es) : net.Genuine a := by
  induction sched with
  | nil => cases mem
  | send before genuine _ ih =>
    rcases List.mem_append.mp mem with old | new
    · exact ih old
    · cases List.mem_singleton.mp new
      exact genuine
  | deliver before sent ih =>
    rcases List.mem_append.mp mem with old | new
    · exact ih old
    · cases List.mem_singleton.mp new

variable [DecidableEq η] {h : η}

theorem Schedule.sees (sched : net.Schedule rule es) :
    ∀ y ∈ partAt (fun ev => net.host ev.side) NetEvent.packet h es, net.Sees h y := by
  intro y mem
  obtain ⟨ev, here, place, rfl⟩ := mem_partAt.mp mem
  have genuine := sched.genuine (sched.sent here)
  exact ⟨genuine.nonZero, ⟨ev.side, place⟩, ev.op, genuine.runsAt, genuine.reads⟩

/-- What the tracker of a host has seen of a connection was sent. -/
theorem Schedule.posted (sched : net.Schedule rule es) {x : net.Ends h} {y : Packet} {e : Event} {m : CmMsg}
    (mem : y ∈ partAt (fun ev => net.host ev.side) NetEvent.packet h es) (reads : Reads y e)
    (kind : e.op = m.sent ∨ e.op = m.received) (ids : e.localId = net.id x.1 ∨ e.remoteId = net.key x.1) :
    Posted es x.1.conn m := by
  obtain ⟨ev, here, place, rfl⟩ := mem_partAt.mp mem
  have posted := sched.sent here
  cases event_eq (x := ⟨ev.side, place⟩) (sched.genuine posted).reads reads
  cases ends_eq ev.op ids
  exact ⟨ev.letter, posted, ev.conn_eq.symm, NetEvent.msg_eq kind⟩

end Schedule

end Fabric

end ConntrackCm
