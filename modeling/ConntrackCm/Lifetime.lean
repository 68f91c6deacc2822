import ConntrackCm.Ownership

/-!
# Since when a query is answered

The answer to a query stands in a table that three handlers write, and the flow it belongs to is
found by whatever ids the packets carry. From outside it has a simple history: an entry begins with
the RTU that first completes a handshake for its key, and it ends with the first packet after that
which erases this very flow, a REJ of the peer or a DREP. In between nothing moves it, and before
and after it is not there (`answer_since`).
-/

namespace ConntrackCm

open Lib

/-- The packet is an RTU in its turn for the flow `s`, which has both QPNs, and whose key is free. -/
structure Confirms (t : Tracker) (x : Packet) (s : Ref) (key : FlowKey) (q : QpnT) : Prop where
  rtu : ∃ e, Reads x e ∧ t.localMap.find e.localId = some s ∧
    ((e.op = .rtuSent ∧ (t.flow s).state = .REP_RCVD) ∨ (e.op = .rtuReceived ∧ (t.flow s).state = .REP_SENT))
  key : (t.flow s).getFlowKey = key
  qpn : (t.flow s).localQpn = q
  localQpn : (t.flow s).localQpn ≠ 0#32
  remoteQpn : (t.flow s).remoteQpn ≠ 0#32
  vacant : t.qpnMap.find (t.flow s).getFlowKey = none

/-- The packet is a REJ of the peer, which did not ask to disconnect, or a DREP to a DREQ, and it
names the flow `s`. -/
def Closes (t : Tracker) (x : Packet) (s : Ref) : Prop :=
  ∃ e, Reads x e ∧ t.findFlow e.localId e.lookupKey = some s ∧
    ((e.op = .rejReceived ∧ ((t.flow s).state = .ESTABLISHED ∨ (t.flow s).state = .DREQ_SENT)) ∨
      ((e.op = .drepSent ∨ e.op = .drepReceived) ∧ ((t.flow s).state = .DREQ_SENT ∨ (t.flow s).state = .DREQ_RCVD)))

theorem Reads.unique {x : Packet} {e e' : Event} (reads : Reads x e) (reads' : Reads x e') : e' = e := by
  rw [Reads, reads] at reads'
  cases reads'
  rfl

/-- The flag tells the owner. -/
theorem QpnOwned.owns_iff {t : Tracker} (own : QpnOwned t) {s : Ref} {key : FlowKey} {q : QpnT} :
    Owns t s key q ↔ (t.flow s).inQpnMap = true ∧ (t.flow s).getFlowKey = key ∧ (t.flow s).localQpn = q := by
  constructor
  · intro owns
    exact ⟨owns.flag, owns.key, owns.qpn⟩
  · rintro ⟨flag, key, qpn⟩
    exact ⟨(own.registered flag).stored, flag, key, qpn⟩

/-- Of a registered flow only the two kinds of `Closes` are erasures. -/
theorem erase_late_iff {op : CmOp} {st : FlowSt} (late : st.Late) : action op st = .erase ↔
    (op = .rejReceived ∧ (st = .ESTABLISHED ∨ st = .DREQ_SENT)) ∨
      ((op = .drepSent ∨ op = .drepReceived) ∧ (st = .DREQ_SENT ∨ st = .DREQ_RCVD)) := by
  rcases late with rfl | rfl | rfl <;> cases op <;> simp [action]

/-- Messages waiting for an MRA are none, so an RTU has two turns. -/
theorem establish_entered {op : CmOp} {st : FlowSt} (entered : st.Entered) : action op st = .establish ↔
    (op = .rtuSent ∧ st = .REP_RCVD) ∨ (op = .rtuReceived ∧ st = .REP_SENT) := by
  cases st <;> cases entered <;> cases op <;> simp [action]

section Step

variable {t t' u : Tracker} {x : Packet} {e : Event} {s r : Ref} {key : FlowKey} {q : QpnT}

/-- A registered flow is looked up exactly where its ids lead. -/
theorem Lookup.registered_iff {l : IdT} {k : CmFlowKey} (found : Lookup t l k r u) (own : QpnOwned t) (idx : Indexed t)
    (flag : (t.flow s).inQpnMap = true) : r = s ↔ t.findFlow l k = some s := by
  unfold Tracker.findFlow
  cases found with
  | byLocal id held => simp [id, held]
  | byRemote zero _ held => simp [zero, held]
  | created ids noLocal noRemote =>
    have used := idx.local_lt (own.registered flag).stored
    have other : t.flows.next ≠ s := Nat.ne_of_gt used
    rw [noLocal, noRemote]
    simp [other]
  | bound id noLocal held unbound =>
    have other : r ≠ s := by
      rintro rfl
      rw [own.not_flagged_unbound idx unbound] at flag
      cases flag
    simp [id, noLocal, other]

/-- A registered flow that is looked up was known by its ids before. -/
theorem Lookup.registered_eq {l : IdT} {k : CmFlowKey} (found : Lookup t l k s u) (own : QpnOwned t) (idx : Indexed t)
    (flag : (u.flow s).inQpnMap = true) : u = t := by
  cases found with
  | byLocal => rfl
  | byRemote => rfl
  | created =>
    rw [Tracker.flow_newFlow, if_pos rfl] at flag
    cases flag
  | bound _ _ _ unbound =>
    rw [Tracker.flow_bindLocal, if_pos rfl] at flag
    rw [own.not_flagged_unbound idx unbound] at flag
    cases flag

theorem Lookup.unchanged {l : IdT} {k : CmFlowKey} (found : Lookup t l k r u) (named : t.findFlow l k = some s) : u = t := by
  unfold Tracker.findFlow at named
  cases found with
  | byLocal => rfl
  | byRemote => rfl
  | created ids noLocal noRemote =>
    rw [noLocal, noRemote] at named
    simp at named
  | bound id noLocal => simp [id, noLocal] at named

/-- A registered flow keeps its entry in everything that does not erase it. -/
theorem Effect.keeps_entry (effect : Effect e s t t') (own : QpnOwned t) (flag : (t.flow s).inQpnMap = true)
    (lasts : action e.op (t.flow s).state ≠ .erase) :
    (t'.flow s).inQpnMap = true ∧ (t'.flow s).getFlowKey = (t.flow s).getFlowKey ∧
      (t'.flow s).localQpn = (t.flow s).localQpn := by
  have late := @action_late e.op _ (own.registered flag).late
  cases effect with
  | kept => exact ⟨flag, rfl, rfl⟩
  | disconnected =>
    rw [Tracker.flow_modify_self]
    exact ⟨flag, rfl, rfl⟩
  | erased act => exact absurd act lasts
  | sentReq act => simp [act] at late
  | receivedReq act => simp [act] at late
  | replied act rep => rcases rep with rfl | rfl <;> simp [act] at late
  | repliedBound act rep => rcases rep with rfl | rfl <;> simp [act] at late
  | established act => simp [act] at late

/-- An RTU in its turn registers its flow when both QPNs are known and the key is free. -/
theorem Effect.registers (effect : Effect e s t t') (act : action e.op (t.flow s).state = .establish)
    (lq : (t.flow s).localQpn ≠ 0#32) (rq : (t.flow s).remoteQpn ≠ 0#32)
    (vacant : t.qpnMap.find (t.flow s).getFlowKey = none) :
    (t'.flow s).inQpnMap = true ∧ (t'.flow s).getFlowKey = (t.flow s).getFlowKey ∧
      (t'.flow s).localQpn = (t.flow s).localQpn := by
  cases effect with
  | established =>
    rcases t.establish_cases s rfl with ⟨_, _, zero | zero | taken⟩ | ⟨after, _⟩
    · exact absurd zero lq
    · exact absurd zero rq
    · exact absurd vacant taken
    · rw [after]
      exact ⟨rfl, rfl, rfl⟩
  | kept other => rw [act] at other; simp at other
  | sentReq other => rw [act] at other; cases other
  | receivedReq other => rw [act] at other; cases other
  | replied other rep => rw [act] at other; subst other; simp at rep
  | repliedBound other rep => rw [act] at other; subst other; simp at rep
  | disconnected other => rw [act] at other; cases other
  | erased other => rw [act] at other; cases other

/-- A flow is registered after an effect because it was before, or by an RTU. -/
theorem Effect.registered_after (effect : Effect e s t t') (own : QpnOwned t) (flag : (t'.flow s).inQpnMap = true) :
    ((t.flow s).inQpnMap = true ∧ action e.op (t.flow s).state ≠ .erase) ∨
      (action e.op (t.flow s).state = .establish ∧ (t.flow s).localQpn ≠ 0#32 ∧ (t.flow s).remoteQpn ≠ 0#32 ∧
        t.qpnMap.find (t.flow s).getFlowKey = none) := by
  have updated : ∀ (a : Action) (q : QpnT), ((t.modify s fun f => a.update q f).flow s).inQpnMap = (t.flow s).inQpnMap := by
    intro a q
    rw [Tracker.flow_modify_self, update_inQpnMap]
  cases effect with
  | kept act => exact Or.inl ⟨flag, by rcases act with act | act <;> rw [act] <;> simp⟩
  | sentReq act => exact Or.inl ⟨(updated _ _).symm.trans flag, by rw [act]; simp⟩
  | receivedReq act => exact Or.inl ⟨(updated _ _).symm.trans flag, by rw [act]; simp⟩
  | replied act rep =>
    exact Or.inl ⟨(updated _ _).symm.trans flag, by rw [act]; rcases rep with rfl | rfl <;> simp⟩
  | repliedBound act rep =>
    rw [Tracker.flow_bindRemote, if_pos rfl] at flag
    exact Or.inl ⟨(updated _ _).symm.trans flag, by rw [act]; rcases rep with rfl | rfl <;> simp⟩
  | established act =>
    rcases t.establish_cases s rfl with ⟨after, _⟩ | ⟨_, _, lq, rq, vacant⟩
    · rw [after] at flag
      exact Or.inl ⟨flag, by rw [act]; simp⟩
    · exact Or.inr ⟨act, lq, rq, vacant⟩
  | disconnected act => exact Or.inl ⟨(updated _ _).symm.trans flag, by rw [act]; simp⟩
  | erased act =>
    by_cases before : (t.flow s).inQpnMap = true
    · have cleared : ((t.unregister s).flow s).inQpnMap = false := by
        have after : (t.unregister s).flow s = { t.flow s with inQpnMap := false } := if_pos rfl
        rw [after]
      rw [Tracker.dropFlow, if_pos before, (own.registered before).onDisconnected] at flag
      exact absurd (cleared.symm.trans flag) (by simp)
    · obtain ⟨set, after, only⟩ := t.flow_dropFlow_self s e.localId e.remoteId
      rw [after] at flag
      exact absurd (only flag) before

/-- What a packet does to the ownership of an entry. -/
theorem owns_step (tracked : Tracked t) (reads : Reads x e) (stepped : t.step e = .ok t') :
    Owns t' s key q ↔ Confirms t x s key q ∨ (Owns t s key q ∧ ¬ Closes t x s) := by
  have idx := tracked.indexed
  have own := tracked.qpnOwned
  have own' := (tracked.step reads stepped).qpnOwned
  obtain ⟨r, u, found, effect⟩ := (step_iff idx).mp stepped
  have closes_iff : (t.flow s).inQpnMap = true →
      (Closes t x s ↔ r = s ∧ action e.op (t.flow s).state = .erase) := by
    intro flag
    rw [found.registered_iff own idx flag, erase_late_iff (own.registered flag).late]
    constructor
    · rintro ⟨e', reads', named, kind⟩
      cases reads.unique reads'
      exact ⟨named, kind⟩
    · rintro ⟨named, kind⟩
      exact ⟨e, reads, named, kind⟩
  rw [own'.owns_iff, own.owns_iff]
  constructor
  · rintro ⟨flag', rfl, rfl⟩
    by_cases here : s = r
    · subst here
      rcases effect.registered_after (own.lookup idx found) flag' with ⟨flag, lasts⟩ | ⟨act, lq, rq, vacant⟩
      · have before := found.registered_eq own idx flag
        subst before
        obtain ⟨_, key, qpn⟩ := effect.keeps_entry own flag lasts
        exact Or.inr ⟨⟨flag, key.symm, qpn.symm⟩, fun closes => lasts ((closes_iff flag).mp closes).2⟩
      · obtain ⟨_, key, qpn⟩ := effect.registers act lq rq vacant
        have lookup := found
        rw [establish_lookupKey act] at lookup
        obtain ⟨_, ⟨held, unchanged⟩ | ⟨_, rfl, rfl⟩⟩ := lookup.null_cases idx
        · subst unchanged
          have turn := (establish_entered (tracked.entered s)).mp act
          exact Or.inl ⟨⟨e, reads, held, turn⟩, key.symm, qpn.symm, lq, rq, vacant⟩
        · rw [Tracker.flow_newFlow, if_pos rfl] at rq
          exact absurd rfl rq
    · have same := (effect.flow_of_ne here).trans (found.flow_of_ne here)
      rw [same] at flag' ⊢
      refine Or.inr ⟨⟨flag', rfl, rfl⟩, fun closes => ?_⟩
      exact here ((closes_iff flag').mp closes).1.symm
  · rintro (confirms | ⟨⟨flag, rfl, rfl⟩, lasts⟩)
    · obtain ⟨⟨e', reads', held, turn⟩, rfl, rfl, lq, rq, vacant⟩ := confirms
      cases reads.unique reads'
      have lookup := Lookup.byLocal (k := e.lookupKey) (idx.local_own held).1 held
      cases found.getFlow.symm.trans lookup.getFlow
      exact effect.registers ((establish_entered (tracked.entered s)).mpr turn) lq rq vacant
    · rw [closes_iff flag] at lasts
      by_cases here : s = r
      · subst here
        have before := found.unchanged ((found.registered_iff own idx flag).mp rfl)
        subst before
        exact effect.keeps_entry own flag fun act => lasts ⟨rfl, act⟩
      · have same := (effect.flow_of_ne here).trans (found.flow_of_ne here)
        rw [same]
        exact ⟨flag, rfl, rfl⟩

theorem owns_feed (tracked : Tracked t) (fed : t.feed x = .ok t') :
    Owns t' s key q ↔ Confirms t x s key q ∨ (Owns t s key q ∧ ¬ Closes t x s) := by
  rcases feed_ok fed with ⟨silent, rfl⟩ | ⟨e, reads, stepped⟩
  · have unread : ∀ e, ¬ Reads x e := by
      intro e reads
      rw [Reads, silent] at reads
      cases reads
    constructor
    · intro owns
      refine Or.inr ⟨owns, ?_⟩
      rintro ⟨e, reads, _⟩
      exact unread e reads
    · rintro (confirms | ⟨owns, _⟩)
      · obtain ⟨e, reads, _⟩ := confirms.rtu
        exact absurd reads (unread e)
      · exact owns
  · exact owns_step tracked reads stepped

end Step

/-- **How long an answer lasts.** After every run of packets, the query for a key is answered with
`q` exactly when some RTU registered a flow with that key and that QPN, the key being free, and no
packet since then has closed that flow. -/
theorem answer_since {xs : List Packet} {t : Tracker} (ran : run Tracker.feed Tracker.init xs = .ok t)
    {key : FlowKey} {q : QpnT} (nonzero : q ≠ 0#32) :
    t.getSourceQpn key = q ↔ ∃ s pre x post m m', xs = pre ++ x :: post ∧
      run Tracker.feed Tracker.init pre = .ok m ∧ m.feed x = .ok m' ∧ Confirms m x s key q ∧
      Along Tracker.feed (fun n y => ¬ Closes n y s) m' post := by
  have own : QpnOwned t := Tracked.qpnOwned ⟨xs, ran⟩
  have answered : t.getSourceQpn key = q ↔ ∃ s, Owns t s key q := by
    rw [Tracker.getSourceQpn_iff nonzero]
    constructor
    · exact own.owner
    · rintro ⟨s, owns⟩
      rw [← owns.key, ← owns.qpn]
      exact (own.registered owns.flag).entry
  have since : ∀ s, Owns t s key q ↔ ∃ pre x post m m', xs = pre ++ x :: post ∧
      run Tracker.feed Tracker.init pre = .ok m ∧ m.feed x = .ok m' ∧ Confirms m x s key q ∧
      Along Tracker.feed (fun n y => ¬ Closes n y s) m' post := by
    intro s
    refine run_since (I := Tracked) (F := fun t => Owns t s key q) (B := fun m x => Confirms m x s key q)
      (D := fun n y => Closes n y s) Tracked.init ?_ ?_ ran
    · rintro ⟨_, flag, _, _⟩
      cases flag
    · intro m x m' tracked fed
      exact ⟨tracked.feed fed, owns_feed tracked fed⟩
  rw [answered]
  exact exists_congr since

/-- An answer that goes back to the RTU of an active open. -/
theorem answer_since_open :
    ∃ t, run Tracker.feed Tracker.init (activeOpen 0x0200000a#32 1#32 2#32 0x11#32 0x22#32) = .ok t ∧
      ∃ s pre x post m m', activeOpen 0x0200000a#32 1#32 2#32 0x11#32 0x22#32 = pre ++ x :: post ∧
        run Tracker.feed Tracker.init pre = .ok m ∧ m.feed x = .ok m' ∧ Confirms m x s (0x0200000a#32, 0x22#32) 0x11#32 ∧
        Along Tracker.feed (fun n y => ¬ Closes n y s) m' post := by
  obtain ⟨t, ran, answer⟩ := map_ok (show (run Tracker.feed Tracker.init
    (activeOpen 0x0200000a#32 1#32 2#32 0x11#32 0x22#32)).map (fun t => t.getSourceQpn (0x0200000a#32, 0x22#32)) =
      .ok 0x11#32 by decide +kernel)
  exact ⟨t, ran, (answer_since ran (by decide)).mp answer⟩

end ConntrackCm
