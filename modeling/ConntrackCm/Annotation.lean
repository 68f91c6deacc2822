import ConntrackCm.Acceptance
import ConntrackCm.Tracker

/-!
# Annotations of a packet

The offsets of the BTH and the MAD header travel from the parser to the tracker in two 16-bit
fields of the mbuf, with 0 for none. A recycled mbuf holds whatever its last packet left there:
every path of the parser writes both fields, so what the tracker reads is what the last parse
found.
-/

namespace ConntrackCm

open Lib

namespace Mbuf

variable {p : Mbuf}

/-- The L2 and L3 lengths are short. -/
theorem udp_lt (p : Mbuf) : p.udp < 640 := by
  have l2 := p.l2Len.isLt
  have l3 := p.l3Len.isLt
  unfold udp
  omega

/-- Narrowing an offset of a header loses nothing. -/
theorem toNat_offset (p : Mbuf) {n : Nat} (header : n ≤ 28) : (BitVec.ofNat 16 (p.udp + n)).toNat = p.udp + n := by
  have small := p.udp_lt
  rw [BitVec.toNat_ofNat]
  omega

theorem toNat_bthOffset (p : Mbuf) : p.annotate.bthOffset.toNat = if p.HasBth then p.udp + 8 else 0 := by
  by_cases bth : p.HasBth
  · simp only [annotate, mark, if_pos bth]
    exact p.toNat_offset (by decide)
  · simp only [annotate, mark, if_neg bth]
    rfl

theorem toNat_madOffset (p : Mbuf) : p.annotate.madOffset.toNat = if p.Accepted then p.udp + 28 else 0 := by
  by_cases accepted : p.Accepted
  · simp only [annotate, mark, if_pos accepted]
    exact p.toNat_offset (by decide)
  · simp only [annotate, mark, if_neg accepted]
    rfl

/-- An annotation that is inside the packet reads back, 0 as none. -/
theorem getOffset_eq {offset : BitVec 16} {size : Nat} {a : Assertion} {found : Option Nat}
    (back : offset.toNat = found.getD 0) (inside : ∀ n, found = some n → 0 < n ∧ n < size) :
    (if offset ≠ 0 then do
      check (offset.toNat < size) (.assertion a)
      return some offset.toNat
    else
      return none : Except Fault (Option Nat)) = .ok found := by
  cases found with
  | none =>
    have zero : offset = 0 := BitVec.eq_of_toNat_eq back
    rw [if_neg (not_not_intro zero)]
    rfl
  | some n =>
    obtain ⟨positive, small⟩ := inside n rfl
    have same : offset.toNat = n := back
    have set : offset ≠ 0 := by
      rintro rfl
      exact absurd same (Nat.ne_of_lt positive)
    rw [if_pos set, bind_of_ok (check_pos (same ▸ small)), same]
    rfl

/-- The BTH annotation reads back. -/
theorem getBth_annotate (ins : p.Inspectable) :
    ctcmMbufGetBth p.annotate = .ok (if p.HasBth then some (p.udp + 8) else none) := by
  refine getOffset_eq ?_ ?_
  · rw [toNat_bthOffset]
    split_ifs <;> rfl
  · intro n found
    split_ifs at found with bth
    have last := (ins.bth bth).inside
    simp only [sizeofRxeBth] at last
    cases found
    exact ⟨by omega, Nat.lt_of_lt_of_le (by omega) last⟩

/-- The MAD annotation reads back. -/
theorem getMad_annotate (ins : p.Inspectable) :
    mbufMad p.annotate.toRteMbuf = .ok (if p.Accepted then some (p.udp + 28) else none) := by
  refine getOffset_eq ?_ ?_
  · rw [toNat_madOffset]
    split_ifs <;> rfl
  · intro n found
    split_ifs at found with accepted
    have last := (ins.mad accepted.toHasMad).inside
    cases found
    exact ⟨by omega, Nat.lt_of_lt_of_le (by omega) last⟩

end Mbuf

theorem ctcmParsePacket_eq {p : Mbuf} (udp : p.IsUdp) (ins : p.Inspectable) : ctcmParsePacket p = .ok p.annotate := by
  rw [ctcmParsePacket, bind_of_ok (parsePacket_eq udp ins)]
  rfl

/-- **Annotations are exact and never stale.** Whatever the two fields of a packet held before, the
parser leaves the offset of the BTH and the offset of the MAD header it returned, each exactly when
there is one; it changes nothing else, and parsing again changes nothing. The tracker is handed
the packet exactly when this parse accepted it. -/
theorem annotations_exact {p : Mbuf} (udp : p.IsUdp) (ins : p.Inspectable) :
    ∃ p' mad, ctcmParsePacket p = .ok p' ∧ parsePacket p = .ok (mad, p') ∧
      ctcmMbufGetBth p' = .ok (if p.HasBth then some (p.udp + 8) else none) ∧
      mbufMad p'.toRteMbuf = .ok mad ∧ (∀ offset, mad = some offset → offset = p.udp + 28) ∧
      (p'.madOffset ≠ 0 → p'.bthOffset ≠ 0) ∧
      p'.bthOffset.toNat = (if p.HasBth then p.udp + 8 else 0) ∧ p'.madOffset.toNat = mad.getD 0 ∧
      p' = { p with bthOffset := p'.bthOffset, madOffset := p'.madOffset } ∧
      ctcmParsePacket p' = .ok p' ∧
      ∀ t dir, ctcmProcessPacket t dir p'.toRteMbuf = if mad.isSome then t.process p'.toRteMbuf dir else .ok t := by
  have bthOffset := p.toNat_bthOffset
  have madOffset := p.toNat_madOffset
  have getMad := Mbuf.getMad_annotate ins
  refine ⟨p.annotate, _, ctcmParsePacket_eq udp ins, parsePacket_eq udp ins, Mbuf.getBth_annotate ins, getMad, ?_, ?_,
    bthOffset, ?_, rfl, ?_, ?_⟩
  · intro offset found
    split_ifs at found
    exact (Option.some.inj found).symm
  · intro set zero
    rw [zero] at bthOffset
    split_ifs at bthOffset with bth
    · exact absurd bthOffset (by simp)
    · rw [if_neg (fun accepted => bth accepted.toHasBth)] at madOffset
      exact set (BitVec.eq_of_toNat_eq madOffset)
  · rw [madOffset]
    split_ifs <;> rfl
  · have again := ctcmParsePacket_eq (p := p.annotate) udp.mark ins.mark
    rwa [Mbuf.annotate, Mbuf.annotate_mark] at again
  · intro t dir
    rw [ctcmProcessPacket, bind_of_ok getMad]
    by_cases accepted : p.Accepted
    · rw [if_pos accepted]
      rfl
    · rw [if_neg accepted]
      rfl

/-- A datagram in a recycled mbuf with annotations of another packet. -/
theorem annotations_exact_recycled :
    ∃ p', ctcmParsePacket ((roceMbuf 288).mark 14 99) = .ok p' ∧ ctcmMbufGetBth p' = .ok (some 42) ∧
      mbufMad p'.toRteMbuf = .ok (some 62) := by
  obtain ⟨p', mad, parsed, returned, bth, annotated, _⟩ := annotations_exact (p := (roceMbuf 288).mark 14 99)
    (roceMbuf_isUdp 288).mark (roceMbuf_inspectable 288).mark
  have accepted : ((roceMbuf 288).mark 14 99).Accepted := by decide +kernel
  have header : parsePacket ((roceMbuf 288).mark 14 99) = .ok (some 62, ((roceMbuf 288).mark 14 99).annotate) :=
    (parsePacket_some (roceMbuf_isUdp 288).mark (roceMbuf_inspectable 288).mark).mpr ⟨accepted, rfl, rfl⟩
  cases header.symm.trans returned
  rw [if_pos accepted.toHasBth] at bth
  exact ⟨_, parsed, bth, annotated⟩

end ConntrackCm
