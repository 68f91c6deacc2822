import ConntrackCm.Cnp

/-!
# The ICRC of a CNP and the re-use of its template

A caller fills a template once, edits what it likes in its 60 bytes and completes it for one QP
after the other. The ICRC of each CNP covers what RoCEv2 says it covers, and a completed CNP is
as good a template as the first one: only the bytes of the QP number and of the ICRC ever change,
and the ICRC is not part of what it is computed from. Both are written behind `l2_len` bytes, and
the template behind the data, so a CNP comes out of this only on packets that held `l2_len` bytes.
-/

namespace ConntrackCm

open Lib

/-! ## Prepared packets -/

/-- What a caller may do to the 60 bytes from `ip` on. -/
structure Mbuf.Edited (ip : Nat) (f e : Mbuf) : Prop where
  mbuf : e = { f with buf := e.buf }
  mapped : ∀ j, (e.buf j).isSome = (f.buf j).isSome
  outside : ∀ j, j < ip ∨ ip + 60 ≤ j → e.buf j = f.buf j

/-- `ctcm_fill_cnp_template` succeeded on `m`, and `e` is the template after some edits. -/
structure Prepared (append : Mbuf → Nat → Option (Nat × Mbuf)) (m e : Mbuf) : Prop where
  edited : ∃ f, ctcmFillCnpTemplate append m = .ok (0, f) ∧ f.Edited m.pktLen.toNat e

section Prepared

variable {append : Mbuf → Nat → Option (Nat × Mbuf)} (appends : Appends append) {m e : Mbuf}

include appends

theorem Prepared.template (prepared : Prepared append m e) :
    m.template.Edited m.pktLen.toNat e ∧ m.Mapped m.pktLen.toNat 60 := by
  obtain ⟨f, filled, edited⟩ := prepared.edited
  obtain ⟨rfl, room⟩ := ctcmFillCnpTemplate_ok appends filled
  exact ⟨edited, room⟩

theorem Prepared.isCnp (prepared : Prepared append m e) : e.IsCnp := by
  have mbuf := (prepared.template appends).1.mbuf
  rw [mbuf]
  exact ⟨(by decide : (rtePtypeL4Udp ||| rtePtypeL3Ipv4) &&& rtePtypeL3Ipv4 ≠ 0), rfl, rfl⟩

theorem Prepared.l2Len (prepared : Prepared append m e) : e.l2Len = m.l2Len := by
  rw [(prepared.template appends).1.mbuf]
  rfl

theorem Prepared.mapped (prepared : Prepared append m e) : e.Mapped m.pktLen.toNat 60 := by
  obtain ⟨edited, room⟩ := prepared.template appends
  intro j hj
  rw [edited.mapped]
  have there : ∀ k, k < cnpTemplate.length → (m.buf (m.pktLen.toNat + k)).isSome = true := room
  exact (isSome_overlay there _).trans (room j hj)

end Prepared

/-! ## The ICRC -/

namespace Mbuf

variable {p r : Mbuf} {ip ir : Nat} {crc : List (BitVec 8) → BitVec 32} {x y : BitVec 32} {q : BitVec 32}

theorem icrcInput_congr (same : ∀ i, i < 56 → i ∉ variantBytes → p.octet (ip + i) = r.octet (ir + i)) :
    p.icrcInput ip = r.icrcInput ir := by
  unfold icrcInput
  congr 1
  apply List.map_congr_left
  intro i hi
  by_cases variant : i ∈ variantBytes
  · rw [if_pos variant, if_pos variant]
  · rw [if_neg variant, if_neg variant, same i (List.mem_range.mp hi) variant]

/-- The ICRC is behind all that it covers. -/
theorem icrcInput_setIcrc : (p.setIcrc x).icrcInput p.l2Len.toNat = p.icrcInput p.l2Len.toNat := by
  apply icrcInput_congr
  intro i hi _
  exact octet_outside (by omega)

theorem load_setIcrc (there : p.Mapped (p.l2Len.toNat + 56) 4) :
    (p.setIcrc x).load (p.l2Len.toNat + 56) 4 = .ok (littleEndian 4 x) := by
  have size := length_littleEndian 4 x
  have stored : p.Mapped (p.l2Len.toNat + 56) (littleEndian 4 x).length := by
    rw [size]
    exact there
  have back := load_put stored
  rw [size] at back
  exact back

end Mbuf

/-- A CNP generated from a packet `m` that held `l2_len` bytes. -/
structure Generated (append : Mbuf → Nat → Option (Nat × Mbuf)) (crc : List (BitVec 8) → BitVec 32) (m g : Mbuf) : Prop where
  holds : m.pktLen.toNat = m.l2Len.toNat
  cnp : ∃ e q, Prepared append m e ∧ ctcmGenerateCnp crc e q = .ok g

section Icrc

variable {append : Mbuf → Nat → Option (Nat × Mbuf)} (appends : Appends append) (crc : List (BitVec 8) → BitVec 32)

include appends

theorem Prepared.generate {m e : Mbuf} (prepared : Prepared append m e) (holds : m.pktLen.toNat = m.l2Len.toNat)
    (q : BitVec 32) : ctcmGenerateCnp crc e q = .ok (e.cnpFor crc q) := by
  have there := prepared.mapped appends
  rw [holds, ← prepared.l2Len appends] at there
  exact ctcmGenerateCnp_eq crc (prepared.isCnp appends) there q

/-- The ICRC of a CNP that was generated. -/
theorem Generated.icrc {m g : Mbuf} (generated : Generated append crc m g) :
    g.load (m.pktLen.toNat + 56) 4 = .ok (littleEndian 4 (crc (g.icrcInput m.pktLen.toNat))) := by
  obtain ⟨holds, e, q, prepared, made⟩ := generated
  rw [prepared.generate appends crc holds q] at made
  cases made
  have l2Len : e.l2Len.toNat = m.pktLen.toNat := by rw [prepared.l2Len appends, holds]
  have there := prepared.mapped appends
  rw [← l2Len] at there ⊢
  have icrc : (e.setQpn q).Mapped ((e.setQpn q).l2Len.toNat + 56) 4 := by
    rw [Mbuf.mapped_setQpn (there.part (by decide))]
    exact there.part (by decide)
  have covered : (e.cnpFor crc q).icrcInput e.l2Len.toNat = (e.setQpn q).icrcInput e.l2Len.toNat := Mbuf.icrcInput_setIcrc
  rw [covered]
  exact Mbuf.load_setIcrc icrc

/-- **The ICRC of a CNP.** On every packet that held `l2_len` bytes when the template was filled
in, after every edit of the template and for every QP, the last four bytes hold the ICRC of the
CNP as it then is; the ICRC does not depend on the variant bytes. -/
theorem icrc_exact :
    (∀ m e q, m.pktLen.toNat = m.l2Len.toNat → Prepared append m e →
      ∃ g, ctcmGenerateCnp crc e q = .ok g ∧
        g.load (m.pktLen.toNat + 56) 4 = .ok (littleEndian 4 (crc (g.icrcInput m.pktLen.toNat)))) ∧
    ∀ m₁ g₁ m₂ g₂, Generated append crc m₁ g₁ → Generated append crc m₂ g₂ →
      (∀ i, i < 56 → i ∉ variantBytes → g₁.octet (m₁.pktLen.toNat + i) = g₂.octet (m₂.pktLen.toNat + i)) →
      g₁.load (m₁.pktLen.toNat + 56) 4 = g₂.load (m₂.pktLen.toNat + 56) 4 := by
  constructor
  · intro m e q holds prepared
    have made := prepared.generate appends crc holds q
    have generated : Generated append crc m (e.cnpFor crc q) := ⟨holds, e, q, prepared, made⟩
    exact ⟨_, made, generated.icrc appends⟩
  · intro m₁ g₁ m₂ g₂ first second same
    rw [first.icrc appends, second.icrc appends, Mbuf.icrcInput_congr same]

end Icrc

/-! The CNP of the unit test: a template edited to the addresses, the fields and the source port of
a captured packet, whose ICRC is known. -/

/-- `rte_pktmbuf_append` on a packet in one segment. -/
def appendTail (p : Mbuf) (n : Nat) : Option (Nat × Mbuf) :=
  if p.Mapped p.pktLen.toNat n then some (p.pktLen.toNat, { p with pktLen := p.pktLen + BitVec.ofNat 32 n }) else none

theorem appends_appendTail : Appends appendTail := by
  have inv : ∀ {p p' : Mbuf} {n t : Nat}, appendTail p n = some (t, p') → p.Mapped p.pktLen.toNat n ∧
      t = p.pktLen.toNat ∧ p' = { p with pktLen := p.pktLen + BitVec.ofNat 32 n } := by
    intro p p' n t h
    unfold appendTail at h
    by_cases room : p.Mapped p.pktLen.toNat n
    · rw [if_pos room] at h
      cases h
      exact ⟨room, rfl, rfl⟩
    · rw [if_neg room] at h
      cases h
  refine ⟨fun h => (inv h).2.1, fun h => (inv h).2.2, fun h => ?_⟩
  rw [(inv h).2.1]
  exact (inv h).1

/-- CRC-32 as Ethernet has it, bit by bit: the reflected polynomial, ones before and after. -/
def crc32Eth (bs : List (BitVec 8)) : BitVec 32 :=
  ~~~ bs.foldl (fun crc b => Nat.repeat
    (fun c : BitVec 32 => if c.getLsbD 0 then (c >>> 1) ^^^ 0xedb88320 else c >>> 1) 8 (crc ^^^ b.setWidth 32)) 0xffffffff

def cnpMbuf : Mbuf where
  buf i := if i < 60 then some 0 else none
  pktLen := 0
  packetType := 0
  l2Len := 0
  l3Len := 0
  l4Len := 0
  madOffset := 0
  bthOffset := 0

def cnpEdited : Mbuf := cnpMbuf.template.put 0
  [0x45, 0x89, 0x00, 0x3c, 0x98, 0xc6, 0x40, 0x00, 0x20, 0x11, 0x00, 0x00, 22, 22, 22, 8, 22, 22, 22, 7, 0xdb, 0xae]

theorem Mbuf.Edited.refl {f : Mbuf} {ip : Nat} : f.Edited ip f := ⟨rfl, fun _ => rfl, fun _ _ => rfl⟩

theorem Mbuf.Edited.trans {f e g : Mbuf} {ip : Nat} (first : f.Edited ip e) (second : e.Edited ip g) : f.Edited ip g := by
  constructor
  · rw [second.mbuf, first.mbuf]
  · intro j
    rw [second.mapped, first.mapped]
  · intro j away
    rw [second.outside j away, first.outside j away]

theorem Mbuf.Edited.put {f : Mbuf} {ip i : Nat} {bs : List (BitVec 8)} (there : f.Mapped i bs.length)
    (inside : ip ≤ i ∧ i + bs.length ≤ ip + 60) : f.Edited ip (f.put i bs) := by
  constructor
  · rfl
  · exact isSome_overlay there
  · intro j away
    exact overlay_outside (by omega)

theorem cnpEdited_prepared : Prepared appendTail cnpMbuf cnpEdited := by
  have appended : appendTail (setCnpLengths cnpMbuf) 60 = some (0, { setCnpLengths cnpMbuf with pktLen := 60 }) :=
    if_pos (by decide)
  obtain ⟨filled, -⟩ := ctcmFillCnpTemplate_eq appends_appendTail appended
  exact ⟨_, filled, Mbuf.Edited.put (by decide) (by decide)⟩

theorem icrc_exact_capture : Prepared appendTail cnpMbuf cnpEdited ∧
    ∃ g, ctcmGenerateCnp crc32Eth cnpEdited 0xd2 = .ok g ∧
      g.load 56 4 = .ok (littleEndian 4 (crc32Eth (g.icrcInput 0))) ∧
      g.load 56 4 = .ok [0xda, 0xfc, 0x1b, 0xef] := by
  obtain ⟨g, made, icrc⟩ := (icrc_exact appends_appendTail crc32Eth).1 cnpMbuf cnpEdited 0xd2 rfl cnpEdited_prepared
  have bytes : (ctcmGenerateCnp crc32Eth cnpEdited 0xd2 >>= fun g => g.load 56 4) = .ok [0xda, 0xfc, 0x1b, 0xef] := by
    decide +kernel
  rw [bind_of_ok made] at bytes
  exact ⟨cnpEdited_prepared, g, made, icrc, bytes⟩

-- the packet of the test `cnp_gen`, without the IP checksum
example : (ctcmGenerateCnp crc32Eth cnpEdited 0xd2 >>= fun g => g.load 0 60) = .ok (
    [0x45, 0x89, 0x00, 0x3c, 0x98, 0xc6, 0x40, 0x00, 0x20, 0x11, 0x00, 0x00, 22, 22, 22, 8, 22, 22, 22, 7] ++
    [0xdb, 0xae, 0x12, 0xb7, 0x00, 0x28, 0x00, 0x00, 0x81, 0x00, 0xff, 0xff, 0x40, 0x00, 0x00, 0xd2] ++
    List.replicate 20 0x00 ++ [0xda, 0xfc, 0x1b, 0xef]) := by
  decide +kernel

/-! ## Re-use -/

namespace Mbuf

variable {p r s : Mbuf} {crc : List (BitVec 8) → BitVec 32} {x y q q₁ q₂ : BitVec 32}

/-- The two packets differ in the bytes of the QP number and of the ICRC at most. -/
structure Rewritten (p r : Mbuf) : Prop where
  mbuf : r = { p with buf := r.buf }
  bytes : ∀ j, (∀ i, i ∈ [33, 34, 35, 56, 57, 58, 59] → j ≠ p.l2Len.toNat + i) → r.buf j = p.buf j

theorem Rewritten.refl : p.Rewritten p := ⟨rfl, fun _ _ => rfl⟩

theorem Rewritten.l2Len (rewritten : p.Rewritten r) : r.l2Len = p.l2Len := by rw [rewritten.mbuf]

theorem Rewritten.trans (first : p.Rewritten r) (second : r.Rewritten s) : p.Rewritten s := by
  constructor
  · rw [second.mbuf, first.mbuf]
  · intro j away
    rw [second.bytes j (by rw [first.l2Len]; exact away), first.bytes j away]

theorem setQpn_mod : p.setQpn (BitVec.ofNat 32 (q.toNat % 0x1000000)) = p.setQpn q := by
  have cut : BitVec.ofNat 32 (q.toNat % 0x1000000) = (q.setWidth 24).setWidth 32 := by
    apply BitVec.eq_of_toNat_eq
    simp
  rw [setQpn, setQpn, cut, bigEndian_setWidth (by decide), bigEndian_setWidth (by decide)]

/-- The QP number hides what its bytes held before. -/
theorem Rewritten.setQpn (rewritten : p.Rewritten r) {j : Nat}
    (away : j < p.l2Len.toNat + 56 ∨ p.l2Len.toNat + 60 ≤ j) : (r.setQpn q).buf j = (p.setQpn q).buf j := by
  have stored : (r.setQpn q).buf j = overlay r.buf (p.l2Len.toNat + 33) (bigEndian 3 q) j := by
    rw [← rewritten.l2Len]
    rfl
  rw [stored]
  by_cases inside : p.l2Len.toNat + 33 ≤ j ∧ j < p.l2Len.toNat + 33 + (bigEndian 3 q).length
  · exact (if_pos inside).trans (if_pos inside).symm
  · refine (if_neg inside).trans (.trans ?_ (if_neg inside).symm)
    rw [length_bigEndian] at inside
    apply rewritten.bytes
    intro i written
    simp only [List.mem_cons, List.not_mem_nil, or_false] at written
    omega

/-- What was in the bytes of the QP number and of the ICRC is of no account: a CNP is as good a
template as the one it was generated from. -/
theorem Rewritten.cnpFor (rewritten : p.Rewritten r) : r.cnpFor crc q = p.cnpFor crc q := by
  have covered : (r.setQpn q).icrcInput r.l2Len.toNat = (p.setQpn q).icrcInput p.l2Len.toNat := by
    apply icrcInput_congr
    intro i hi _
    rw [rewritten.l2Len, RteMbuf.octet, RteMbuf.octet, rewritten.setQpn (by omega)]
  have bytes : ∀ x : BitVec 32, overlay (r.setQpn q).buf (p.l2Len.toNat + 56) (littleEndian 4 x) =
      overlay (p.setQpn q).buf (p.l2Len.toNat + 56) (littleEndian 4 x) := by
    intro x
    apply overlay_congr
    intro j away
    rw [length_littleEndian] at away
    exact rewritten.setQpn away
  have mbuf : ∀ buf, ({ r with buf := buf } : Mbuf) = { p with buf := buf } :=
    fun buf => congrArg (fun p : Mbuf => { p with buf := buf }) rewritten.mbuf
  rw [Mbuf.cnpFor, covered]
  refine (mbuf _).trans ?_
  show ({ p with buf := overlay (r.setQpn q).buf (r.l2Len.toNat + 56) _ } : Mbuf) = _
  rw [rewritten.l2Len, bytes]
  rfl

theorem rewritten_cnpFor : p.Rewritten (p.cnpFor crc q) := by
  constructor
  · rfl
  · intro j away
    have qpn : j < p.l2Len.toNat + 33 ∨ p.l2Len.toNat + 36 ≤ j := by
      have h33 := away 33 (by decide)
      have h34 := away 34 (by decide)
      have h35 := away 35 (by decide)
      omega
    have icrc : j < p.l2Len.toNat + 56 ∨ p.l2Len.toNat + 60 ≤ j := by
      have h56 := away 56 (by decide)
      have h57 := away 57 (by decide)
      have h58 := away 58 (by decide)
      have h59 := away 59 (by decide)
      omega
    have outer : (p.cnpFor crc q).buf j = (p.setQpn q).buf j := overlay_outside (by rw [length_littleEndian]; exact icrc)
    rw [outer]
    exact overlay_outside (by rw [length_bigEndian]; exact qpn)

theorem mapped_cnpFor (there : p.Mapped p.l2Len.toNat 60) {i n : Nat} : (p.cnpFor crc q).Mapped i n ↔ p.Mapped i n := by
  have word : p.Mapped (p.l2Len.toNat + 32) 4 := there.part (by decide)
  have icrc : ∀ x : BitVec 32, (p.setQpn q).Mapped ((p.setQpn q).l2Len.toNat + 56) (littleEndian 4 x).length := by
    intro x
    rw [length_littleEndian, mapped_setQpn word]
    exact there.part (by decide)
  exact (mapped_put (icrc _)).trans (mapped_setQpn word)

theorem isCnp_cnpFor (cnp : p.IsCnp) : (p.cnpFor crc q).IsCnp := ⟨cnp.ipv4, cnp.l3Len, cnp.l4Len⟩

end Mbuf

section Reuse

variable {crc : List (BitVec 8) → BitVec 32} {p g : Mbuf} {q : BitVec 32}

/-- One use of a template: the next one finds what it would have found before. -/
theorem ctcmGenerateCnp_step (cnp : p.IsCnp) (made : ctcmGenerateCnp crc p q = .ok g) :
    g.IsCnp ∧ p.Rewritten g ∧ ∀ q, ctcmGenerateCnp crc g q = ctcmGenerateCnp crc p q := by
  by_cases there : p.Mapped p.l2Len.toNat 60
  · rw [ctcmGenerateCnp_eq crc cnp there] at made
    cases made
    have again : (p.cnpFor crc q).IsCnp := Mbuf.isCnp_cnpFor cnp
    have still : (p.cnpFor crc q).Mapped (p.cnpFor crc q).l2Len.toNat 60 := (Mbuf.mapped_cnpFor there).mpr there
    refine ⟨again, Mbuf.rewritten_cnpFor, fun q₂ => ?_⟩
    rw [ctcmGenerateCnp_eq crc again still, ctcmGenerateCnp_eq crc cnp there, Mbuf.rewritten_cnpFor.cnpFor]
  · obtain ⟨x, bad⟩ := ctcmGenerateCnp_bad crc cnp there
    rw [bad q] at made
    cases made

/-- Any number of uses. -/
theorem ctcmGenerateCnp_run (cnp : p.IsCnp) {qs : List (BitVec 32)} {r : Mbuf}
    (ran : run (ctcmGenerateCnp crc) p qs = .ok r) :
    r.IsCnp ∧ p.Rewritten r ∧ ∀ q, ctcmGenerateCnp crc r q = ctcmGenerateCnp crc p q := by
  refine run_invariant (I := fun _ r => r.IsCnp ∧ p.Rewritten r ∧ ∀ q, ctcmGenerateCnp crc r q = ctcmGenerateCnp crc p q)
    ⟨cnp, .refl, fun _ => rfl⟩ ?_ ran
  rintro _ m q g _ ⟨isCnp, rewritten, same⟩ made
  obtain ⟨next, changed, again⟩ := ctcmGenerateCnp_step isCnp made
  exact ⟨next, rewritten.trans changed, fun q => (again q).trans (same q)⟩

theorem ctcmGenerateCnp_twice (cnp : p.IsCnp) (q₁ q₂ : BitVec 32) :
    (ctcmGenerateCnp crc p q₁ >>= fun g => ctcmGenerateCnp crc g q₂) = ctcmGenerateCnp crc p q₂ := by
  by_cases there : p.Mapped p.l2Len.toNat 60
  · have made := ctcmGenerateCnp_eq crc cnp there q₁
    rw [bind_of_ok made]
    exact (ctcmGenerateCnp_step cnp made).2.2 q₂
  · obtain ⟨x, bad⟩ := ctcmGenerateCnp_bad crc cnp there
    rw [bind_of_error (bad q₁), bad q₂]

theorem ctcmGenerateCnp_mod (cnp : p.IsCnp) (q : BitVec 32) :
    ctcmGenerateCnp crc p (BitVec.ofNat 32 (q.toNat % 0x1000000)) = ctcmGenerateCnp crc p q := by
  by_cases there : p.Mapped p.l2Len.toNat 60
  · rw [ctcmGenerateCnp_eq crc cnp there, ctcmGenerateCnp_eq crc cnp there, Mbuf.cnpFor, Mbuf.setQpn_mod, Mbuf.cnpFor]
  · obtain ⟨x, bad⟩ := ctcmGenerateCnp_bad crc cnp there
    rw [bad, bad]

end Reuse

section Stale

variable {append : Mbuf → Nat → Option (Nat × Mbuf)} (appends : Appends append) (crc : List (BitVec 8) → BitVec 32)
  {m e e' : Mbuf}

include appends

/-- Two templates on one packet that differ where the QP number and the ICRC go at most. -/
theorem Prepared.rewritten (prepared : Prepared append m e) (prepared' : Prepared append m e')
    (bytes : ∀ j, (∀ i, i ∈ [33, 34, 35, 56, 57, 58, 59] → j ≠ e.l2Len.toNat + i) → e'.buf j = e.buf j) : e.Rewritten e' := by
  refine ⟨?_, bytes⟩
  have first := (prepared.template appends).1.mbuf
  have second := (prepared'.template appends).1.mbuf
  refine second.trans ?_
  exact congrArg (fun p : Mbuf => { p with buf := e'.buf }) first.symm

/-- A stale ICRC is not part of anything. -/
theorem Prepared.generate_stale (prepared : Prepared append m e) (prepared' : Prepared append m e')
    (holds : m.pktLen.toNat = m.l2Len.toNat)
    (same : ∀ j, j < m.pktLen.toNat + 56 ∨ m.pktLen.toNat + 60 ≤ j → e'.buf j = e.buf j) (q : BitVec 32) :
    ctcmGenerateCnp crc e' q = ctcmGenerateCnp crc e q := by
  have rewritten : e.Rewritten e' := by
    refine prepared.rewritten appends prepared' fun j away => same j ?_
    rw [prepared.l2Len appends, ← holds] at away
    have h56 := away 56 (by decide)
    have h57 := away 57 (by decide)
    have h58 := away 58 (by decide)
    have h59 := away 59 (by decide)
    omega
  rw [prepared'.generate appends crc holds, prepared.generate appends crc holds, rewritten.cnpFor]

end Stale

/-- **Re-use of a template.** After whatever CNPs it was used for, a template gives the same CNP
for a QP as at first, of the QP number only 24 bits count, and each use changes the bytes of the
QP number and of the ICRC only, counted from the IPv4 header at `l2_len`. In a packet that held
`l2_len` bytes the header is the start of the 60 bytes: there every use succeeds, changes the
bytes 33 to 35 and 56 to 59 of them only, and does not depend on what the last four held. -/
theorem templates_reusable {append : Mbuf → Nat → Option (Nat × Mbuf)} (appends : Appends append)
    (crc : List (BitVec 8) → BitVec 32) {m e : Mbuf} (prepared : Prepared append m e) :
    (∀ q₁ q₂, (ctcmGenerateCnp crc e q₁ >>= fun g => ctcmGenerateCnp crc g q₂) = ctcmGenerateCnp crc e q₂) ∧
    (∀ q, ctcmGenerateCnp crc e (BitVec.ofNat 32 (q.toNat % 0x1000000)) = ctcmGenerateCnp crc e q) ∧
    (∀ qs r q g, run (ctcmGenerateCnp crc) e qs = .ok r → ctcmGenerateCnp crc r q = .ok g →
      ctcmGenerateCnp crc e q = .ok g ∧ r.Rewritten g ∧ e.Rewritten g) ∧
    (m.pktLen.toNat = m.l2Len.toNat →
      e.l2Len.toNat = m.pktLen.toNat ∧ (∀ qs, ∃ r, run (ctcmGenerateCnp crc) e qs = .ok r) ∧
      (∀ qs r q g, run (ctcmGenerateCnp crc) e qs = .ok r → ctcmGenerateCnp crc r q = .ok g →
        ∀ j, (∀ i, i ∈ [33, 34, 35, 56, 57, 58, 59] → j ≠ m.pktLen.toNat + i) → g.buf j = r.buf j) ∧
      ∀ e' q, Prepared append m e' →
        (∀ j, j < m.pktLen.toNat + 56 ∨ m.pktLen.toNat + 60 ≤ j → e'.buf j = e.buf j) →
        ctcmGenerateCnp crc e' q = ctcmGenerateCnp crc e q) := by
  have cnp := prepared.isCnp appends
  refine ⟨ctcmGenerateCnp_twice cnp, ctcmGenerateCnp_mod cnp, ?_, fun holds => ?_⟩
  · intro qs r q g ran made
    obtain ⟨isCnp, rewritten, same⟩ := ctcmGenerateCnp_run cnp ran
    obtain ⟨-, changed, -⟩ := ctcmGenerateCnp_step isCnp made
    exact ⟨(same q).symm.trans made, changed, rewritten.trans changed⟩
  · have start : e.l2Len.toNat = m.pktLen.toNat := by rw [prepared.l2Len appends, holds]
    refine ⟨start, fun qs => ?_, ?_, ?_⟩
    · induction qs using List.reverseRecOn with
      | nil => exact ⟨e, rfl⟩
      | append_singleton qs q ih =>
        obtain ⟨r, ran⟩ := ih
        have again := (ctcmGenerateCnp_run cnp ran).2.2 q
        rw [prepared.generate appends crc holds] at again
        refine ⟨e.cnpFor crc q, ?_⟩
        rw [run_append, bind_of_ok ran, run_cons, bind_of_ok again]
        rfl
    · intro qs r q g ran made j away
      obtain ⟨isCnp, rewritten, -⟩ := ctcmGenerateCnp_run cnp ran
      obtain ⟨-, changed, -⟩ := ctcmGenerateCnp_step isCnp made
      apply changed.bytes
      rw [rewritten.l2Len, start]
      exact away
    · intro e' q prepared' same
      exact prepared.generate_stale appends crc prepared' holds same q

/-- The template of the unit test with another ICRC in it. -/
def cnpStale : Mbuf := cnpEdited.put 56 [0xde, 0xad, 0xbe, 0xef]

theorem cnpStale_prepared : Prepared appendTail cnpMbuf cnpStale := by
  obtain ⟨f, filled, edited⟩ := cnpEdited_prepared.edited
  have again : cnpEdited.Edited 0 cnpStale := Mbuf.Edited.put (by decide) (by decide)
  exact ⟨f, filled, edited.trans again⟩

theorem templates_reusable_capture : Prepared appendTail cnpMbuf cnpEdited ∧
    (ctcmGenerateCnp crc32Eth cnpEdited 0x11 >>= fun g => ctcmGenerateCnp crc32Eth g 0xd2) =
      ctcmGenerateCnp crc32Eth cnpEdited 0xd2 ∧
    (∃ r, run (ctcmGenerateCnp crc32Eth) cnpEdited [0x11, 0xff0000d2, 0xd2] = .ok r) ∧
    ctcmGenerateCnp crc32Eth cnpStale 0xd2 = ctcmGenerateCnp crc32Eth cnpEdited 0xd2 := by
  have reusable := templates_reusable appends_appendTail crc32Eth cnpEdited_prepared
  obtain ⟨-, uses, -, stale⟩ := reusable.2.2.2 rfl
  refine ⟨cnpEdited_prepared, reusable.1 0x11 0xd2, uses _, stale cnpStale 0xd2 cnpStale_prepared fun j away => ?_⟩
  exact overlay_outside away

/-- An empty packet with an `l2_len` of 4. -/
def cnpShifted : Mbuf :=
  { cnpMbuf with
    buf := fun i => if i < 64 then some 0 else none
    l2Len := 4 }

theorem cnpShifted_prepared : Prepared appendTail cnpShifted cnpShifted.template := by
  have appended : appendTail (setCnpLengths cnpShifted) 60 = some (0, { setCnpLengths cnpShifted with pktLen := 60 }) :=
    if_pos (by decide)
  obtain ⟨filled, -⟩ := ctcmFillCnpTemplate_eq appends_appendTail appended
  exact ⟨_, filled, .refl⟩

/-- The template starts with the packet, but the QP number and the ICRC are written four bytes too far:
a byte of the PSN changes, and so do the four bytes behind the template. -/
theorem templates_reusable_fails : Prepared appendTail cnpShifted cnpShifted.template ∧
    ∃ g, ctcmGenerateCnp crc32Eth cnpShifted.template 0xd2 = .ok g ∧
      ¬ (∀ j, (∀ i, i ∈ [33, 34, 35, 56, 57, 58, 59] → j ≠ cnpShifted.pktLen.toNat + i) →
        g.buf j = cnpShifted.template.buf j) ∧
      g.load 33 7 = .ok [0, 0, 0, 0, 0, 0, 0xd2] ∧ g.load 56 8 = .ok [0, 0, 0, 0, 0x08, 0xe7, 0xe4, 0x05] := by
  have bytes : (ctcmGenerateCnp crc32Eth cnpShifted.template 0xd2).map (fun g => (g.buf 39, g.load 33 7, g.load 56 8)) =
      .ok (some 0xd2, .ok [0, 0, 0, 0, 0, 0, 0xd2], .ok [0, 0, 0, 0, 0x08, 0xe7, 0xe4, 0x05]) := by
    decide +kernel
  obtain ⟨g, made, seen⟩ := map_ok bytes
  simp only [Prod.mk.injEq] at seen
  obtain ⟨psn, rest⟩ := seen
  refine ⟨cnpShifted_prepared, g, made, fun kept => ?_, rest⟩
  have same := kept 39 (by decide)
  rw [psn] at same
  exact absurd same (by decide)

end ConntrackCm
