import ConntrackCm.Network

/-!
# Both ends of a handshake

Ends that follow the protocol reply to a REQ they have received and confirm a REP they have
received. The messages may still be lost, repeated and overtaken, among those of other connections
that need not follow it but have other QPNs. As long as no message that closes the connection has
been sent, the trackers at its two ends are as far as its handshake: an end is answered for from the
moment it has sent or received the RTU, and not before (`network_opens`). An end that is answered
for by the passive side is answered for by the active one, which had to send the RTU first.

The order of the handshake at one end comes from the order at the other (`Schedule.order`). The
rest is local to a host: there the connection runs as if it were alone, and a word in the right
order moves the tracker from phase to phase.
-/

namespace ConntrackCm

open Lib

/-- The messages of the handshake among all others. -/
def Msg.toCm : Msg → CmMsg
  | .req => .req
  | .rep => .rep
  | .rtu => .rtu

/-- The messages that close a connection or refuse it. -/
def CmMsg.Closes (m : CmMsg) : Prop := m = .rej ∨ m = .dreq ∨ m = .drep

theorem CmMsg.cases_open {m : CmMsg} (opens : ¬ m.Closes) : ∃ m' : Msg, m'.toCm = m := by
  cases m with
  | req => exact ⟨.req, rfl⟩
  | rep => exact ⟨.rep, rfl⟩
  | rtu => exact ⟨.rtu, rfl⟩
  | rej => exact absurd (Or.inl rfl) opens
  | dreq => exact absurd (Or.inr (Or.inl rfl)) opens
  | drep => exact absurd (Or.inr (Or.inr rfl)) opens

theorem Msg.toCm_inj {m m' : Msg} (same : m.toCm = m'.toCm) : m = m' := by
  cases m <;> cases m' <;> first | rfl | cases same

/-- The place of a message in the handshake. -/
def Msg.index : Msg → Nat
  | .req => 0
  | .rep => 1
  | .rtu => 2

theorem Msg.index_inj {m m' : Msg} (same : m.index = m'.index) : m = m' := by
  cases m <;> cases m' <;> first | rfl | cases same

namespace Fabric

variable {η κ : Type} {net : Fabric η κ} {es : List (NetEvent κ)} {ev : NetEvent κ} {x : Side κ}

/-- The end has sent or received the message. -/
def Had (es : List (NetEvent κ)) (x : Side κ) (m : CmMsg) : Prop := ∃ ev ∈ es, ev.side = x ∧ ev.letter.msg = m

/-- A REP is sent by an end that has received the REQ, and an RTU by one that has received the REP. -/
structure Due (es : List (NetEvent κ)) (a : Letter κ) : Prop where
  rep : a.msg = .rep → Had es a.sender .req
  rtu : a.msg = .rtu → Had es a.sender .rep

/-- The ends of `c` follow the protocol. -/
def Orderly (c : κ) (es : List (NetEvent κ)) (a : Letter κ) : Prop := a.sender.conn = c → Due es a

theorem had_snoc {m : CmMsg} : Had (es ++ [ev]) x m ↔ Had es x m ∨ (ev.side = x ∧ ev.letter.msg = m) := by
  simp [Had, or_and_right, exists_or]

theorem Had.mono {m : CmMsg} (had : Had es x m) (ev : NetEvent κ) : Had (es ++ [ev]) x m := had_snoc.mpr (Or.inl had)

/-! ## The order of a handshake -/

/-- What an end of `c` has sent was due. -/
theorem Schedule.due {a : Letter κ} (sched : net.Schedule (Orderly a.sender.conn) es) (mem : .send a ∈ es) :
    (a.msg = .rep → Had es a.sender .req) ∧ (a.msg = .rtu → Had es a.sender .rep) := by
  induction sched with
  | nil => cases mem
  | send before _ due ih =>
    rcases List.mem_append.mp mem with old | new
    · exact ⟨fun kind => ((ih old).1 kind).mono _, fun kind => ((ih old).2 kind).mono _⟩
    · cases List.mem_singleton.mp new
      exact ⟨fun kind => ((due rfl).rep kind).mono _, fun kind => ((due rfl).rtu kind).mono _⟩
  | deliver before _ ih =>
    rcases List.mem_append.mp mem with old | new
    · exact ⟨fun kind => ((ih old).1 kind).mono _, fun kind => ((ih old).2 kind).mono _⟩
    · cases List.mem_singleton.mp new

variable {rule : List (NetEvent κ) → Letter κ → Prop}

/-- A message that reached an end of the connection was sent by the end that sends such messages. -/
theorem Schedule.had_sender {m : CmMsg} (sched : net.Schedule rule es) (had : Had es x m) (role : Role)
    (sender : ∀ side, m.SentBy side → side = role) :
    ∃ a, .send a ∈ es ∧ a.sender = ⟨x.conn, role⟩ ∧ a.msg = m := by
  obtain ⟨ev, mem, rfl, rfl⟩ := had
  have posted := sched.sent mem
  refine ⟨ev.letter, posted, ?_, rfl⟩
  rw [ev.conn_eq, ← sender _ (sched.genuine posted).sentBy]

theorem had_of_sent {a : Letter κ} (mem : .send a ∈ es) : Had es a.sender a.msg := ⟨_, mem, rfl, rfl⟩

/-- At either end the handshake goes forward: no REP without the REQ, no RTU without the REP. -/
theorem Schedule.order (sched : net.Schedule (Orderly x.conn) es) :
    (Had es x .rep → Had es x .req) ∧ (Had es x .rtu → Had es x .rep) := by
  obtain ⟨c, role⟩ := x
  have due : ∀ {a side}, .send a ∈ es → a.sender = ⟨c, side⟩ →
      (a.msg = .rep → Had es ⟨c, side⟩ .req) ∧ (a.msg = .rtu → Had es ⟨c, side⟩ .rep) := by
    intro a side mem sender
    have orderly : net.Schedule (Orderly a.sender.conn) es := by
      rw [sender]
      exact sched
    exact sender ▸ orderly.due mem
  -- what the sender of the REP and of the RTU has seen, and what its peer must have sent for that
  have rep : ∀ role, Had es ⟨c, role⟩ .rep → Had es ⟨c, .passive⟩ .rep ∧ Had es ⟨c, .passive⟩ .req := by
    intro role had
    obtain ⟨a, mem, sender, kind⟩ := sched.had_sender had .passive fun _ side => side
    exact ⟨sender ▸ kind ▸ had_of_sent mem, (due mem sender).1 kind⟩
  have req : ∀ role, Had es ⟨c, role⟩ .req → Had es ⟨c, .active⟩ .req := by
    intro role had
    obtain ⟨a, mem, sender, kind⟩ := sched.had_sender had .active fun _ side => side
    exact sender ▸ kind ▸ had_of_sent mem
  have rtu : ∀ role, Had es ⟨c, role⟩ .rtu → Had es ⟨c, .active⟩ .rep := by
    intro role had
    obtain ⟨a, mem, sender, kind⟩ := sched.had_sender had .active fun _ side => side
    exact (due mem sender).2 kind
  cases role with
  | active => exact ⟨fun had => req _ (rep _ had).2, fun had => rtu _ had⟩
  | passive => exact ⟨fun had => (rep _ had).2, fun had => (rep _ (rtu _ had)).1⟩

/-! ## One end alone -/

/-- What the trackers read from the handshake. -/
theorem event_msg {op : CmOp} {m : Msg} (runs : op.RunsAt x.role) (kind : op = m.toCm.sent ∨ op = m.toCm.received) :
    net.event x op = x.role.event (net.id x) (net.key x) (net.qpn x) (net.qpn x.peer) m := by
  obtain ⟨c, role⟩ := x
  rcases kind with rfl | rfl <;> cases m <;> cases role <;> first | rfl | cases runs

theorem NetEvent.op_cases (ev : NetEvent κ) : ev.op = ev.letter.msg.sent ∨ ev.op = ev.letter.msg.received := by
  cases ev with
  | send a => exact Or.inl rfl
  | deliver a => exact Or.inr rfl

/-- One packet after another at one end. -/
def alone (t : Tracker) (ev : NetEvent κ) : Except Fault Tracker := t.feed ev.packet

/-- The handshake at one end, read by an automaton: in a phase with `stage p = some n` the first `n`
messages have come, in the right order. -/
structure Automaton (P : Type) (key : FlowKey) (lq : QpnT) (event : Msg → Event) where
  start : P
  next : P → Msg → P
  At : P → Tracker → Prop
  stage : P → Option Nat
  at_start : At start Tracker.init
  stage_start : stage start = some 0
  moves : ∀ p t m, Indexed t → At p t → ∃ t', Moves key t (event m) t' ∧ At (next p m) t'
  stage_next : ∀ p n m, stage p = some n → m.index ≤ n → stage (next p m) = some (max n (m.index + 1))
  query : ∀ p t n, At p t → stage p = some n → t.getSourceQpn key = if Msg.rtu.index < n then lq else 0#32

section Automata

variable {l : IdT} {k : CmFlowKey} {lq rq : QpnT} (id : l ≠ 0#32) (set : k.IsSet) (lq_ne : lq ≠ 0#32) (rq_ne : rq ≠ 0#32)

def activeAutomaton : Automaton ActivePhase (k.addr, rq) lq (activeEvent l k lq rq) where
  start := .absent
  next := ActivePhase.next
  At p t := ActivePhase.At l k lq rq t p
  stage
    | .absent => some 0
    | .reqSent => some 1
    | .repRcvd => some 2
    | .established => some 3
    | .idle => none
  at_start := ⟨rfl, rfl, rfl⟩
  stage_start := rfl
  moves := ActivePhase.moves id set lq_ne rq_ne
  stage_next p n m at_stage order := by
    cases p <;> cases m <;> cases at_stage <;> first | rfl | exact absurd order (by decide)
  query p t n here at_stage := by
    rw [ActivePhase.At.query here]
    cases p <;> cases at_stage <;> rfl

def passiveAutomaton : Automaton PassivePhase (k.addr, rq) lq (passiveEvent l k lq rq) where
  start := .absent
  next := PassivePhase.next
  At p t := PassivePhase.At l k lq rq t p
  stage
    | .absent => some 0
    | .reqRcvd => some 1
    | .repSent => some 2
    | .established => some 3
    | .ghost | .early | .earlyReq => none
  at_start := ⟨rfl, rfl, rfl⟩
  stage_start := rfl
  moves := PassivePhase.moves id set lq_ne rq_ne
  stage_next p n m at_stage order := by
    cases p <;> cases m <;> cases at_stage <;> first | rfl | exact absurd order (by decide)
  query p t n here at_stage := by
    rw [PassivePhase.At.query here]
    cases p <;> cases at_stage <;> rfl

end Automata

variable [DecidableEq κ]

/-- An end alone is in the phase that belongs to the messages it has had. -/
def Follows (net : Fabric η κ) {P : Type} {x : Side κ} {key : FlowKey} {lq : QpnT}
    (auto : Automaton P key lq (x.role.event (net.id x) (net.key x) (net.qpn x) (net.qpn x.peer)))
    (es : List (NetEvent κ)) : Prop :=
  ∃ u p n, run alone Tracker.init (es.filter fun ev => ev.side = x) = .ok u ∧ Indexed u ∧ auto.At p u ∧
    auto.stage p = some n ∧ ∀ m : Msg, Had es x m.toCm ↔ m.index < n

section Follows

variable {P : Type} {key : FlowKey} {lq : QpnT}
  {auto : Automaton P key lq (x.role.event (net.id x) (net.key x) (net.qpn x) (net.qpn x.peer))}

theorem Follows.other (follows : net.Follows auto es) (elsewhere : ev.side ≠ x) : net.Follows auto (es ++ [ev]) := by
  obtain ⟨u, p, n, ran, idx, here, stage, had⟩ := follows
  refine ⟨u, p, n, ?_, idx, here, stage, fun m => ?_⟩
  · rw [List.filter_append, List.filter_cons_of_neg (by simpa using elsewhere), List.filter_nil, List.append_nil]
    exact ran
  · rw [had_snoc, ← had m]
    exact or_iff_left fun new => elsewhere new.1

theorem Follows.step (follows : net.Follows auto es) (genuine : net.Genuine ev.letter) (here : ev.side = x) {m : Msg}
    (kind : ev.letter.msg = m.toCm) (rep : m = .rep → Had es x .req) (rtu : m = .rtu → Had es x .rep) :
    net.Follows auto (es ++ [ev]) := by
  obtain ⟨u, p, n, ran, idx, before, stage, had⟩ := follows
  have reads : Reads ev.packet (x.role.event (net.id x) (net.key x) (net.qpn x) (net.qpn x.peer) m) := by
    have reads := genuine.reads
    rw [here] at reads
    rwa [event_msg (here ▸ genuine.runsAt) (kind ▸ NetEvent.op_cases ev)] at reads
  obtain ⟨t, ⟨s, v, found, effect, _⟩, after⟩ := auto.moves p u m idx before
  have stepped := (step_iff idx).mpr ⟨s, v, found, effect⟩
  have now : alone u ev = .ok t := (feed_of_event reads).trans stepped
  -- the message before this one has come
  have order : m.index ≤ n := by
    cases m with
    | req => exact Nat.zero_le n
    | rep => exact (had .req).mp (rep rfl)
    | rtu => exact (had .rep).mp (rtu rfl)
  refine ⟨t, auto.next p m, max n (m.index + 1), ?_, idx.step stepped, after, auto.stage_next p n m stage order, ?_⟩
  · rw [List.filter_append, List.filter_cons_of_pos (by simpa using here), List.filter_nil, run_append, bind_of_ok ran,
      run_cons, bind_of_ok now]
    rfl
  · intro m'
    have new : (ev.side = x ∧ ev.letter.msg = m'.toCm) ↔ m' = m :=
      ⟨fun same => Msg.toCm_inj (same.2.symm.trans kind), fun same => ⟨here, same ▸ kind⟩⟩
    rw [had_snoc, had m', new]
    constructor
    · rintro (old | rfl)
      · omega
      · omega
    · intro less
      by_cases old : m'.index < n
      · exact Or.inl old
      · exact Or.inr (Msg.index_inj (by omega))

/-- One more event, in a schedule in which the handshake goes forward. -/
theorem Follows.snoc (follows : net.Follows auto es) (genuine : net.Genuine ev.letter)
    (opens : ev.side = x → ¬ ev.letter.msg.Closes) (rep : Had (es ++ [ev]) x .rep → Had (es ++ [ev]) x .req)
    (rtu : Had (es ++ [ev]) x .rtu → Had (es ++ [ev]) x .rep) : net.Follows auto (es ++ [ev]) := by
  by_cases here : ev.side = x
  · obtain ⟨m, kind⟩ := CmMsg.cases_open (opens here)
    refine follows.step genuine here kind.symm ?_ ?_
    · rintro rfl
      rcases had_snoc.mp (rep (had_snoc.mpr (Or.inr ⟨here, kind.symm⟩))) with old | ⟨_, new⟩
      · exact old
      · cases kind.trans new
    · rintro rfl
      rcases had_snoc.mp (rtu (had_snoc.mpr (Or.inr ⟨here, kind.symm⟩))) with old | ⟨_, new⟩
      · exact old
      · cases kind.trans new
  · exact follows.other here

variable (auto) in
theorem Schedule.follows (sched : net.Schedule (Orderly x.conn) es) (opens : ∀ m, m.Closes → ¬ Posted es x.conn m) :
    net.Follows auto es := by
  induction sched with
  | nil =>
    exact ⟨Tracker.init, auto.start, 0, rfl, Indexed.init, auto.at_start, auto.stage_start, by simp [Had]⟩
  | @send es a before genuine due ih =>
    have order := (Schedule.send before genuine due).order
    have earlier : ∀ m, m.Closes → ¬ Posted es x.conn m := by
      rintro m closes ⟨b, mem, conn, kind⟩
      exact opens m closes ⟨b, List.mem_append_left _ mem, conn, kind⟩
    refine (ih earlier).snoc genuine ?_ order.1 order.2
    intro here closes
    exact opens _ closes ⟨a, by simp, congrArg Side.conn here, rfl⟩
  | @deliver es a before sent ih =>
    have order := (Schedule.deliver before sent).order
    have earlier : ∀ m, m.Closes → ¬ Posted es x.conn m := by
      rintro m closes ⟨b, mem, conn, kind⟩
      exact opens m closes ⟨b, List.mem_append_left _ mem, conn, kind⟩
    refine (ih earlier).snoc (before.genuine sent) ?_ order.1 order.2
    intro here closes
    exact earlier _ closes ⟨a, sent, (NetEvent.conn_eq (.deliver a)).symm.trans (congrArg Side.conn here), rfl⟩

end Follows

/-! ## The end among others -/

variable [DecidableEq η] {w : η → Tracker}

/-- The QPN of the end serves no other end at its host. -/
def OwnQpn (net : Fabric η κ) (x : Side κ) : Prop := ∀ y, net.host y = net.host x → net.qpn y = net.qpn x → y = x

/-- At its host a connection runs as if it were alone, if the QPN of its peer is the peer's own. -/
theorem Schedule.projects (sched : net.Schedule rule es) (own : net.OwnQpn x.peer) (ran : run net.step init es = .ok w) :
    ∃ u, run alone Tracker.init (es.filter fun ev => ev.side = x) = .ok u ∧
      Projects (net.family (net.host x)) (net.Shown _) ⟨x, rfl⟩ (w (net.host x)) u := by
  have start : Projects (net.family (net.host x)) (net.Shown _) ⟨x, rfl⟩ (init (net.host x)) Tracker.init :=
    ⟨Indexed.init, Indexed.init, Family.Partitioned.init, .refl _⟩
  have genuine : ∀ ev ∈ es, net.Genuine ev.letter := fun ev mem => sched.genuine (sched.sent mem)
  have of : ∀ ev ∈ es, ∀ (place : net.host ev.side = net.host x) (e : Event), Reads ev.packet e →
      (net.family (net.host x)).EventOf (net.Shown _) ⟨ev.side, place⟩ e := by
    intro ev mem place e reads
    rw [event_eq (x := ⟨ev.side, place⟩) (genuine ev mem).reads reads]
    exact eventOf ⟨ev.side, place⟩ ev.op
  refine run_filter (fun w u => Projects (net.family (net.host x)) (net.Shown _) ⟨x, rfl⟩ (w (net.host x)) u)
    (fun ev => ev.side = x) ?_ ?_ init w Tracker.init start ran
  · intro w u ev w' mem mine related now
    obtain ⟨t, fed, moved⟩ := bind_ok now
    cases moved
    obtain rfl : ev.side = x := of_decide_eq_true mine
    rw [Function.update_self]
    exact related.own (of ev mem rfl) fed
  · intro w u ev w' mem mine related now
    obtain ⟨t, fed, moved⟩ := bind_ok now
    cases moved
    have other : ev.side ≠ x := of_decide_eq_false mine
    by_cases place : net.host ev.side = net.host x
    · dsimp only at fed ⊢
      rw [place] at fed ⊢
      rw [Function.update_self]
      refine related.foreign (of ev mem place) (fun same => other (congrArg Subtype.val same)) ?_ fed
      rintro q addr shown shown'
      exact other (Side.peer_inj (own _ (net.addr_inj addr) (shown.symm.trans shown')))
    · dsimp only
      rw [Function.update_of_ne (Ne.symm place)]
      exact related

/-- The answer of an end's tracker for its connection. -/
def answer (net : Fabric η κ) (w : η → Tracker) (x : Side κ) : QpnT :=
  ctcmQueryIpv4 (w (net.host x)) (net.addr (net.host x.peer)) (net.qpn x.peer)

theorem Schedule.answers (sched : net.Schedule (Orderly x.conn) es) (own : net.OwnQpn x.peer)
    (ran : run net.step init es = .ok w) (opens : ∀ m, m.Closes → ¬ Posted es x.conn m) (lq_ne : net.qpn x ≠ 0#32)
    (rq_ne : net.qpn x.peer ≠ 0#32) :
    (Had es x .rtu → net.answer w x = net.qpn x) ∧ (¬ Had es x .rtu → net.answer w x = 0#32) := by
  obtain ⟨u, ranAlone, related⟩ := sched.projects own ran
  have same : net.answer w x = u.getSourceQpn ((net.key x).addr, net.qpn x.peer) := by
    have entry : (w (net.host x)).qpnMap.find ((net.key x).addr, net.qpn x.peer) =
        u.qpnMap.find ((net.key x).addr, net.qpn x.peer) := related.view.qpns _ ⟨rfl, rfl⟩
    change (w (net.host x)).getSourceQpn ((net.key x).addr, net.qpn x.peer) = _
    rw [Tracker.getSourceQpn, Tracker.getSourceQpn, entry]
  obtain ⟨c, role⟩ := x
  have id := net.id_ne ⟨c, role⟩
  have set : (net.key ⟨c, role⟩).IsSet := ⟨net.addr_ne _, net.id_ne _⟩
  have found : ∃ n, (∀ m : Msg, Had es ⟨c, role⟩ m.toCm ↔ m.index < n) ∧
      net.answer w ⟨c, role⟩ = if Msg.rtu.index < n then net.qpn ⟨c, role⟩ else 0#32 := by
    cases role with
    | active =>
      obtain ⟨u', p, n, ran', _, here, stage, had⟩ :=
        sched.follows (activeAutomaton id set lq_ne rq_ne) opens
      cases ranAlone.symm.trans ran'
      exact ⟨n, had, same.trans ((activeAutomaton id set lq_ne rq_ne).query p u n here stage)⟩
    | passive =>
      obtain ⟨u', p, n, ran', _, here, stage, had⟩ :=
        sched.follows (passiveAutomaton id set lq_ne rq_ne) opens
      cases ranAlone.symm.trans ran'
      exact ⟨n, had, same.trans ((passiveAutomaton id set lq_ne rq_ne).query p u n here stage)⟩
  obtain ⟨n, had, value⟩ := found
  rw [value, show Had es ⟨c, role⟩ .rtu ↔ Msg.rtu.index < n from had .rtu]
  exact ⟨fun rtu => if_pos rtu, fun rtu => if_neg rtu⟩

end Fabric

end ConntrackCm
