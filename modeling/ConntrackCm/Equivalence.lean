import ConntrackCm.Lib.Bisimulation
import ConntrackCm.Retransmission
import ConntrackCm.View

/-!
# What the tables determine

Flows are shared objects, and which object stands for a connection is nobody's business. Here the
tables with their contents and their sharing are all there is to know of a tracker: trackers with
the same tables take the same packets, and go on to have the same tables (`bisimulation`). What a
packet leaves as it is can therefore not be told from it later: copies of a packet that come right
after it are never noticed, in no run (`copies_unnoticed`).
-/

namespace ConntrackCm

open Lib

/-- To have the same tables is to agree when everything is shown. -/
theorem sameTables_iff {t u : Tracker} : SameTables t u ↔ SameView (fun _ => True) (fun _ => True) t u := by
  constructor
  · intro same
    exact ⟨same.flows, fun key _ => by rw [same.qpns]⟩
  · intro view
    have finds : u.qpnMap.find = t.qpnMap.find := funext fun key => (view.qpns key trivial).symm
    exact ⟨view.flows, congrArg Table.mk finds⟩

/-! ## Equivalent trackers -/

/-- Reachable trackers with the same tables. -/
structure Equivalent (t u : Tracker) : Prop where
  left : Tracked t
  right : Tracked u
  tables : SameTables t u

theorem Equivalent.feed {t u t' : Tracker} {x : Packet} (same : Equivalent t u) (fed : t.feed x = .ok t') :
    ∃ u', u.feed x = .ok u' ∧ Equivalent t' u' := by
  have left := same.left.feed fed
  rcases feed_ok fed with ⟨silent, rfl⟩ | ⟨e, reads, stepped⟩
  · exact ⟨u, feed_of_none silent, same⟩
  · have idx := same.left.indexed
    have idx' := same.right.indexed
    obtain ⟨s, t₁, found, effect⟩ := (step_iff idx).mp stepped
    have view := sameTables_iff.mp same.tables
    obtain ⟨r, u₁, found', looked, paired, alike⟩ := view.lookup idx idx' (Or.inr trivial) (Or.inr trivial) found
    obtain ⟨u', effect', after⟩ := looked.effect paired alike (fun _ _ => trivial) (fun _ _ => trivial) effect
    have stepped' := (step_iff idx').mpr ⟨r, u₁, found', effect'⟩
    exact ⟨u', (feed_of_event reads).trans stepped', left, same.right.step reads stepped', sameTables_iff.mpr after⟩

/-- Nothing but the tables counts. -/
theorem bisimulation : Bisimulation Tracker.feed Equivalent where
  symm same := ⟨same.right, same.left, same.tables.flows.symm, same.tables.qpns.symm⟩
  trans first second := ⟨first.left, second.right, first.tables.flows.trans second.tables.flows,
    second.tables.qpns.trans first.tables.qpns⟩
  forth same fed := same.feed fed

theorem SameTables.answer {t u : Tracker} (same : SameTables t u) (key : FlowKey) :
    u.getSourceQpn key = t.getSourceQpn key := by
  rw [Tracker.getSourceQpn, Tracker.getSourceQpn, same.qpns]

/-! ## Copies -/

def IsDrep (x : Packet) : Prop := getAttrId x.1 = .ok cmDrepAttrId

/-- Except for a DREP, a second copy right after the first one changes no table. -/
theorem feed_again {t t' : Tracker} {x : Packet} (tracked : Tracked t) (other : ¬ IsDrep x) (fed : t.feed x = .ok t') :
    ∃ t'', t'.feed x = .ok t'' ∧ Equivalent t' t'' := by
  have idx := tracked.indexed
  have tracked' := tracked.feed fed
  obtain ⟨t'', fed', same⟩ : ∃ t'', t'.feed x = .ok t'' ∧ SameTables t' t'' := by
    rcases feed_ok fed with ⟨silent, rfl⟩ | ⟨e, reads, stepped⟩
    · exact ⟨t', feed_of_none silent, .refl t'⟩
    · obtain ⟨s, u, found, effect⟩ := (step_iff idx).mp stepped
      rw [feed_of_event reads]
      by_cases act : action e.op (u.flow s).state = .erase
      · refine step_rejected idx stepped found act ?_
        refine (action_erase act).resolve_right fun drep => other ?_
        rw [IsDrep, Reads.fields reads |>.attrId]
        rcases drep.1 with op | op <;> rw [op] <;> rfl
      · exact ⟨t', step_again idx stepped found effect act, .refl t'⟩
  exact ⟨t'', fed', tracked', tracked'.feed fed', same⟩

/-- **Copies on the spot are never noticed.** From every reachable state, whatever packets come and
whichever of them, DREPs apart, arrive several times in a row: the run with the copies reaches its
end exactly when the run without them does, and then with the same tables and the same answers. -/
theorem copies_unnoticed {t : Tracker} (tracked : Tracked t) {xs ys : List Packet}
    (copies : Repeats (fun x => ¬ IsDrep x) xs ys) :
    ((∃ u, run Tracker.feed t xs = .ok u) ↔ ∃ v, run Tracker.feed t ys = .ok v) ∧
    ∀ u v, run Tracker.feed t xs = .ok u → run Tracker.feed t ys = .ok v →
      SameTables u v ∧ ∀ key, v.getSourceQpn key = u.getSourceQpn key := by
  have agree : Corresponds Equivalent (run Tracker.feed t xs) (run Tracker.feed t ys) :=
    bisimulation.repeats (fun self other fed => feed_again self.left other fed) copies ⟨tracked, tracked, .refl t⟩
  refine ⟨agree.ok_iff, fun u v left right => ?_⟩
  have same := (agree.related left right).tables
  exact ⟨same, same.answer⟩

/-- An active open whose REQ and RTU are retransmitted. -/
theorem copies_unnoticed_open : ∃ u v,
    run Tracker.feed Tracker.init (activeOpen 0x0200000a#32 1#32 2#32 0x11#32 0x22#32) = .ok u ∧
    run Tracker.feed Tracker.init ([fromHost cmReqAttrId 0x0200000a#32 1#32 0#32 0x11#32] ++
      activeOpen 0x0200000a#32 1#32 2#32 0x11#32 0x22#32 ++ [fromHost cmRtuAttrId 0x0200000a#32 1#32 2#32 0#32]) = .ok v ∧
    SameTables u v := by
  have req : ¬ IsDrep (fromHost cmReqAttrId 0x0200000a#32 1#32 0#32 0x11#32) := by
    rw [IsDrep]
    decide +kernel
  have rtu : ¬ IsDrep (fromHost cmRtuAttrId 0x0200000a#32 1#32 2#32 0#32) := by
    rw [IsDrep]
    decide +kernel
  have repeated : Repeats (fun x => ¬ IsDrep x) (activeOpen 0x0200000a#32 1#32 2#32 0x11#32 0x22#32)
      ([fromHost cmReqAttrId 0x0200000a#32 1#32 0#32 0x11#32] ++ activeOpen 0x0200000a#32 1#32 2#32 0x11#32 0x22#32 ++
        [fromHost cmRtuAttrId 0x0200000a#32 1#32 2#32 0#32]) :=
    .again req (.next (.next (.again rtu (.next .nil))))
  have copies := copies_unnoticed Tracked.init repeated
  obtain ⟨u, ran, _⟩ := map_ok (show (run Tracker.feed Tracker.init
    (activeOpen 0x0200000a#32 1#32 2#32 0x11#32 0x22#32)).map (fun _ => ()) = .ok () by decide +kernel)
  obtain ⟨v, copied⟩ := copies.1.mp ⟨u, ran⟩
  exact ⟨u, v, ran, copied, (copies.2 u v ran copied).1⟩

end ConntrackCm
