import ConntrackCm.Lib.Refinement
import ConntrackCm.Lib.Bytes
import ConntrackCm.Pipeline
import Mathlib.Data.List.InsertIdx

/-!
# Dynamic fields

The annotations of a packet are stored in dynamic fields of its `rte_mbuf`: `parser_context` registers
"BTH" and "IB_MAD_HDR" with DPDK and keeps the offsets at which their two bytes stand. A process has
many contexts, creates and destroys them, shares packets among them, and has other libraries with
fields of their own in the same bytes. DPDK's registry is a parameter here, of which only what its
documentation says is used (`Dynfields`).

The rest of the development knows none of this: there the annotations are fields of `Mbuf`, the same for
all. `contexts_share_annotations` says that this is what one sees from the first context on.
-/

namespace ConntrackCm

open Lib

/-! ## The registry -/

/-- `rte_mbuf_dynfield`. -/
structure RteMbufDynfield where
  name : String
  size : Nat
  align : Nat
  deriving DecidableEq, Repr

def bthDynfield : RteMbufDynfield := ⟨"BTH", 2, 2⟩
def madDynfield : RteMbufDynfield := ⟨"IB_MAD_HDR", 2, 2⟩

/-- `ctcm_dynfield_offsets`. -/
structure CtcmDynfieldOffsets where
  size : BitVec 32
  bth : Int
  mad : Int
  deriving DecidableEq, Repr

def sizeofCtcmDynfieldOffsets : BitVec 32 := 12

/-- The switch of the constructor on the index of the field. -/
def CtcmDynfieldOffsets.assign (o : CtcmDynfieldOffsets) (i : Nat) (ret : Int) : CtcmDynfieldOffsets :=
  match i with
  | 0 => { o with bth := ret }
  | 1 => { o with mad := ret }
  | _ => o

section Registry

-- the state of DPDK's registry, `rte_mbuf_dynfield_register` and `rte_mbuf_dynfield_lookup`
variable {R : Type} (register : R → RteMbufDynfield → Int × R) (lookup : R → String → Option (RteMbufDynfield × Nat))

/-- What DPDK documents: a field that is registered has an offset, keeps it, and has it again when it
is registered again with the same parameters; fields do not overlap. -/
structure Dynfields : Prop where
  registered : ∀ r f, 0 ≤ (register r f).1 → lookup (register r f).2 f.name = some (f, (register r f).1.toNat)
  kept : ∀ r f name x, lookup r name = some x → lookup (register r f).2 name = some x
  again : ∀ r f k, lookup r f.name = some (f, k) → register r f = (Int.ofNat k, r)
  apart : ∀ r a b f k g l, a ≠ b → lookup r a = some (f, k) → lookup r b = some (g, l) →
    k + f.size ≤ l ∨ l + g.size ≤ k

/-- The loop of the constructor from field `i` on; nothing is constructed when a registration fails. -/
def registerFrom (i : Nat) (fields : List RteMbufDynfield) (o : CtcmDynfieldOffsets) (r : R) : Option CtcmDynfieldOffsets × R :=
  match fields with
  | [] => (some { o with size := sizeofCtcmDynfieldOffsets }, r)
  | f :: fields =>
    if (register r f).1 < 0 then (none, (register r f).2)
    else registerFrom (i + 1) fields (o.assign i (register r f).1) (register r f).2

/-- `parser_context::parser_context`. The offsets start out uninitialized. -/
def parserContext (r : R) : Option CtcmDynfieldOffsets × R :=
  registerFrom register 0 [bthDynfield, madDynfield] ⟨0, 0, 0⟩ r

/-- The offsets are those of the registered fields. -/
structure CtcmDynfieldOffsets.Registered (o : CtcmDynfieldOffsets) (r : R) : Prop where
  size : o.size = sizeofCtcmDynfieldOffsets
  bthNonneg : 0 ≤ o.bth
  madNonneg : 0 ≤ o.mad
  bth : lookup r bthDynfield.name = some (bthDynfield, o.bth.toNat)
  mad : lookup r madDynfield.name = some (madDynfield, o.mad.toNat)

variable {register lookup} (dpdk : Dynfields register lookup)

namespace CtcmDynfieldOffsets.Registered

variable {o : CtcmDynfieldOffsets} {r : R}

include dpdk

theorem apart (h : o.Registered lookup r) : o.bth.toNat + 2 ≤ o.mad.toNat ∨ o.mad.toNat + 2 ≤ o.bth.toNat :=
  dpdk.apart r _ _ _ _ _ _ (by decide) h.bth h.mad

/-- Offsets outlive any registration. -/
theorem kept (h : o.Registered lookup r) (f : RteMbufDynfield) : o.Registered lookup (register r f).2 :=
  { h with bth := dpdk.kept r f _ _ h.bth, mad := dpdk.kept r f _ _ h.mad }

/-- Registering the fields again yields the same offsets. -/
theorem again (h : o.Registered lookup r) : parserContext register r = (some o, r) := by
  have bth := dpdk.again r bthDynfield _ h.bth
  have mad := dpdk.again r madDynfield _ h.mad
  have bthOffset : Int.ofNat o.bth.toNat = o.bth := Int.toNat_of_nonneg h.bthNonneg
  have madOffset : Int.ofNat o.mad.toNat = o.mad := Int.toNat_of_nonneg h.madNonneg
  have bthNonneg : ¬ o.bth < 0 := Int.not_lt.mpr h.bthNonneg
  have madNonneg : ¬ o.mad < 0 := Int.not_lt.mpr h.madNonneg
  rw [bthOffset] at bth
  rw [madOffset] at mad
  simp only [parserContext, registerFrom, bth, mad, if_neg bthNonneg, if_neg madNonneg, CtcmDynfieldOffsets.assign]
  rw [← h.size]

end CtcmDynfieldOffsets.Registered

include dpdk

/-- A context that is constructed has the offsets of its fields. -/
theorem parserContext_registered {r r' : R} {o : CtcmDynfieldOffsets} (made : parserContext register r = (some o, r')) :
    o.Registered lookup r' := by
  simp only [parserContext, registerFrom, CtcmDynfieldOffsets.assign] at made
  by_cases bth : (register r bthDynfield).1 < 0
  · rw [if_pos bth] at made
    cases made
  · rw [if_neg bth] at made
    have first := dpdk.registered r bthDynfield (Int.not_lt.mp bth)
    generalize register r bthDynfield = x at made bth first
    obtain ⟨k, r₁⟩ := x
    by_cases mad : (register r₁ madDynfield).1 < 0
    · rw [if_pos mad] at made
      cases made
    · rw [if_neg mad] at made
      have second := dpdk.registered r₁ madDynfield (Int.not_lt.mp mad)
      have still := dpdk.kept r₁ madDynfield _ _ first
      generalize register r₁ madDynfield = y at made mad second still
      obtain ⟨l, r₂⟩ := y
      cases made
      exact ⟨rfl, Int.not_lt.mp bth, Int.not_lt.mp mad, still, second⟩

end Registry

/-! ## Packets with dynamic fields -/

/-- An `rte_mbuf` as DPDK lays it out: the annotations are somewhere among the bytes `dyn`. -/
structure DynMbuf where
  buf : Nat → Option (BitVec 8)
  pktLen : BitVec 32
  packetType : BitVec 32
  l2Len : BitVec 7
  l3Len : BitVec 9
  l4Len : BitVec 8
  /-- The bytes of the `rte_mbuf` itself that are free for dynamic fields, by their offset. -/
  dyn : Nat → BitVec 8

namespace DynMbuf

/-- `*RTE_MBUF_DYNFIELD(m, offset, uint16_t *)`. -/
def half (m : DynMbuf) (i : Nat) : BitVec 16 := m.dyn (i + 1) ++ m.dyn i

/-- A store to a dynamic field. -/
def put (m : DynMbuf) (i : Nat) (bs : List (BitVec 8)) : DynMbuf :=
  { m with dyn := fun j => if i ≤ j ∧ j < i + bs.length then bs.getD (j - i) 0 else m.dyn j }

/-- The packet with the annotations at the offsets `o`. -/
def view (o : CtcmDynfieldOffsets) (m : DynMbuf) : Mbuf where
  buf := m.buf
  pktLen := m.pktLen
  packetType := m.packetType
  l2Len := m.l2Len
  l3Len := m.l3Len
  l4Len := m.l4Len
  madOffset := m.half o.mad.toNat
  bthOffset := m.half o.bth.toNat

/-- `ctcm_mbuf_set_bth`. -/
def setBth (o : CtcmDynfieldOffsets) (m : DynMbuf) (bth : Option Nat) : Except Fault DynMbuf := do
  let offset := bth.getD 0
  check (offset < m.pktLen.toNat) (.assertion .setBthOffset)
  return m.put o.bth.toNat (littleEndian 2 (BitVec.ofNat 16 offset))

/-- `ctcm_mbuf_set_mad`. -/
def setMad (o : CtcmDynfieldOffsets) (m : DynMbuf) (mad : Option Nat) : Except Fault DynMbuf := do
  let offset := mad.getD 0
  check (offset < m.pktLen.toNat) (.assertion .setMadOffset)
  return m.put o.mad.toNat (littleEndian 2 (BitVec.ofNat 16 offset))

/-- `parse_packet` once it has a BTH. -/
def parseFromBth (o : CtcmDynfieldOffsets) (m : DynMbuf) (bth : Nat) (len : BitVec 64) :
    Except Fault (Option Nat × DynMbuf) := do
  let (deth, len) ← extractDeth (m.view o) bth len
  match deth with
  | none => return (none, m)
  | some deth =>
    if (← bthQpn (m.view o).toRteMbuf bth) ≠ 1 then
      return (none, m)
    match extractMad deth len with
    | none => return (none, m)
    | some mad =>
      if (← (m.view o).byte (mad + 1)) ≠ ibMgmtClassCm then
        return (none, m)
      let m ← m.setMad o (some mad)
      return (some mad, m)

/-- `parser_context::parse_packet` of a context with the offsets `o`. -/
def parsePacket (o : CtcmDynfieldOffsets) (m : DynMbuf) : Except Fault (Option Nat × DynMbuf) := do
  let udp ← mbufUdp (m.view o)
  let len := (← (m.view o).be16 (udp + 4)).setWidth 64
  let (bth, len) ← extractBth (m.view o) udp len
  let m ← m.setBth o bth
  let m ← m.setMad o none
  match bth with
  | none => return (none, m)
  | some bth => m.parseFromBth o bth len

/-- `ctcm_parse_packet`. -/
def ctcmParsePacket (o : CtcmDynfieldOffsets) (m : DynMbuf) : Except Fault DynMbuf := do
  let (_, m) ← m.parsePacket o
  return m

/-! Stores and loads. -/

variable {m : DynMbuf} {i j : Nat} {bs : List (BitVec 8)}

theorem half_put_apart (apart : i + bs.length ≤ j ∨ j + 2 ≤ i) : (m.put i bs).half j = m.half j := by
  simp only [half, put]
  rw [if_neg (by omega), if_neg (by omega)]

theorem half_put (v : BitVec 16) : (m.put i (littleEndian 2 v)).half i = v := by
  have bytes : littleEndian 2 v = [v.extractLsb' 0 8, v.extractLsb' 8 8] := rfl
  simp only [half, put, bytes, List.length_cons, List.length_nil]
  rw [if_pos (by omega), if_pos (by omega), Nat.sub_self, Nat.add_sub_cancel_left]
  exact join_two v

/-- Writes elsewhere do not show. -/
theorem view_put {o : CtcmDynfieldOffsets} (bth : i + bs.length ≤ o.bth.toNat ∨ o.bth.toNat + 2 ≤ i)
    (mad : i + bs.length ≤ o.mad.toNat ∨ o.mad.toNat + 2 ≤ i) : (m.put i bs).view o = m.view o := by
  simp only [view, half_put_apart bth, half_put_apart mad]
  rfl

/-! The parser seen through the offsets. -/

section Apart

variable {o : CtcmDynfieldOffsets} (apart : o.bth.toNat + 2 ≤ o.mad.toNat ∨ o.mad.toNat + 2 ≤ o.bth.toNat)

include apart

theorem setBth_view (m : DynMbuf) (bth : Option Nat) : (m.setBth o bth).map (view o) = ctcmMbufSetBth (m.view o) bth := by
  refine map_bind_same fun _ => ?_
  have other : (m.put o.bth.toNat (littleEndian 2 (BitVec.ofNat 16 (bth.getD 0)))).half o.mad.toNat = m.half o.mad.toNat :=
    half_put_apart (by rw [length_littleEndian]; exact apart)
  show Except.ok _ = Except.ok _
  simp only [view, half_put, other]
  rfl

theorem setMad_view (m : DynMbuf) (mad : Option Nat) : (m.setMad o mad).map (view o) = ctcmMbufSetMad (m.view o) mad := by
  refine map_bind_same fun _ => ?_
  have other : (m.put o.mad.toNat (littleEndian 2 (BitVec.ofNat 16 (mad.getD 0)))).half o.bth.toNat = m.half o.bth.toNat :=
    half_put_apart (by rw [length_littleEndian]; exact apart.symm)
  show Except.ok _ = Except.ok _
  simp only [view, half_put, other]
  rfl

theorem parseFromBth_view (m : DynMbuf) (bth : Nat) (len : BitVec 64) :
    (m.parseFromBth o bth len).map (fun x => (x.1, x.2.view o)) = ConntrackCm.parseFromBth (m.view o) bth len := by
  refine map_bind_same fun x => ?_
  obtain ⟨deth, len⟩ := x
  cases deth with
  | none => rfl
  | some deth =>
    refine map_bind_same fun qpn => ?_
    by_cases general : qpn ≠ 1
    · simp only [if_pos general]
      rfl
    · simp only [if_neg general]
      cases extractMad deth len with
      | none => rfl
      | some mad =>
        refine map_bind_same fun mgmtClass => ?_
        by_cases other : mgmtClass ≠ ibMgmtClassCm
        · simp only [if_pos other]
          rfl
        · simp only [if_neg other]
          rw [← setMad_view apart m (some mad)]
          exact map_bind_view fun _ => rfl

/-- The parser of a context is the parser of the other modules. -/
theorem parsePacket_view (m : DynMbuf) :
    (m.parsePacket o).map (fun x => (x.1, x.2.view o)) = ConntrackCm.parsePacket (m.view o) := by
  refine map_bind_same fun udp => map_bind_same fun len => map_bind_same fun x => ?_
  obtain ⟨bth, len⟩ := x
  dsimp only
  rw [← setBth_view apart m bth]
  refine map_bind_view fun m => ?_
  rw [← setMad_view apart m none]
  refine map_bind_view fun m => ?_
  cases bth with
  | none => rfl
  | some bth => exact parseFromBth_view apart m bth len

theorem ctcmParsePacket_view (m : DynMbuf) : (m.ctcmParsePacket o).map (view o) = ConntrackCm.ctcmParsePacket (m.view o) := by
  rw [ConntrackCm.ctcmParsePacket, ← parsePacket_view apart m]
  exact map_bind_view fun _ => rfl

end Apart

end DynMbuf

/-! ## A process -/

/-- `ctcm_context`. -/
structure CtcmContext where
  offsets : CtcmDynfieldOffsets
  tracker : Tracker

/-- `ctcm_dynfield_offsets`: the return code and the structure of the caller. -/
def ctcmDynfieldOffsets (c : CtcmContext) (offsets : CtcmDynfieldOffsets) : Int × CtcmDynfieldOffsets :=
  if offsets.size < sizeofCtcmDynfieldOffsets then (-1, offsets)
  else (0, { offsets with bth := c.offsets.bth, mad := c.offsets.mad })

/-- What happens in a process. Contexts and packets go by numbers. -/
inductive Call where
  /-- `ctcm_create`. -/
  | create
  /-- `ctcm_destroy`. -/
  | destroy (c : Nat)
  /-- `ctcm_parse_packet`. -/
  | parse (c x : Nat)
  /-- `ctcm_process_packet`. -/
  | process (c : Nat) (dir : CtcmDirection) (x : Nat)
  /-- Another library registers a field. -/
  | register (f : RteMbufDynfield)
  /-- Another library stores something in a field of a packet. -/
  | poke (name : String) (x : Nat) (bytes : List (BitVec 8))

/-- The fields of others are not ours. -/
def Call.Foreign : Call → Prop
  | .poke name _ _ => name ≠ bthDynfield.name ∧ name ≠ madDynfield.name
  | _ => True

instance : DecidablePred Call.Foreign
  | .poke _ _ _ => inferInstanceAs (Decidable (_ ∧ _))
  | .create | .destroy _ | .parse _ _ | .process _ _ _ | .register _ => inferInstanceAs (Decidable True)

structure Process (R : Type) where
  registry : R
  contexts : List CtcmContext
  packets : Nat → DynMbuf

section Process

variable {R : Type} (register : R → RteMbufDynfield → Int × R) (lookup : R → String → Option (RteMbufDynfield × Nat))

/-- A constructor that throws leaves no context behind. -/
def Process.step (s : Process R) : Call → Except Fault (Process R)
  | .create =>
    match parserContext register s.registry with
    | (none, r) => .ok { s with registry := r }
    | (some o, r) => .ok { s with registry := r, contexts := s.contexts ++ [⟨o, Tracker.init⟩] }
  | .destroy c => .ok { s with contexts := s.contexts.eraseIdx c }
  | .parse c x =>
    match s.contexts[c]? with
    | none => .ok s
    | some ctcm => do
      let m ← (s.packets x).ctcmParsePacket ctcm.offsets
      return { s with packets := Function.update s.packets x m }
  | .process c dir x =>
    match s.contexts[c]? with
    | none => .ok s
    | some ctcm => do
      let t ← ctcmProcessPacket ctcm.tracker dir ((s.packets x).view ctcm.offsets).toRteMbuf
      return { s with contexts := s.contexts.set c { ctcm with tracker := t } }
  | .register f => .ok { s with registry := (register s.registry f).2 }
  | .poke name x bytes =>
    match lookup s.registry name with
    | none => .ok s
    | some (f, k) => .ok { s with packets := Function.update s.packets x ((s.packets x).put k (bytes.take f.size)) }

/-- Trackers, and packets with annotations. -/
structure Library where
  trackers : List Tracker
  packets : Nat → Mbuf

/-- The same calls where annotations are fields of a packet. -/
def Library.step (s : Library) : Call → Except Fault Library
  | .create => .ok { s with trackers := s.trackers ++ [Tracker.init] }
  | .destroy c => .ok { s with trackers := s.trackers.eraseIdx c }
  | .parse c x =>
    match s.trackers[c]? with
    | none => .ok s
    | some _ => do
      let p ← ctcmParsePacket (s.packets x)
      return { s with packets := Function.update s.packets x p }
  | .process c dir x =>
    match s.trackers[c]? with
    | none => .ok s
    | some t => do
      let t ← ctcmProcessPacket t dir (s.packets x).toRteMbuf
      return { s with trackers := s.trackers.set c t }
  | .register _ | .poke _ _ _ => .ok s

namespace Process

/-- All contexts have the offsets `o`, and these are registered. -/
structure Ready (o : CtcmDynfieldOffsets) (s : Process R) : Prop where
  registered : o.Registered lookup s.registry
  same : ∀ c ∈ s.contexts, c.offsets = o

def view (o : CtcmDynfieldOffsets) (s : Process R) : Library where
  trackers := s.contexts.map CtcmContext.tracker
  packets x := (s.packets x).view o

theorem view_update (o : CtcmDynfieldOffsets) (packets : Nat → DynMbuf) (x : Nat) (m : DynMbuf) :
    (fun y => (Function.update packets x m y).view o) = Function.update (fun y => (packets y).view o) x (m.view o) := by
  funext y
  by_cases here : y = x
  · rw [here, Function.update_self, Function.update_self]
  · rw [Function.update_of_ne here, Function.update_of_ne here]

variable {register lookup} {o : CtcmDynfieldOffsets} {s s' : Process R}

/-- What a call can do to the registry and the offsets of the contexts. -/
theorem step_cases {e : Call} (stepped : s.step register lookup e = .ok s') :
    (s'.registry = s.registry ∧ ∀ c ∈ s'.contexts, ∃ d ∈ s.contexts, c.offsets = d.offsets) ∨
    (∃ f, s'.registry = (register s.registry f).2 ∧ s'.contexts = s.contexts) ∨
    (parserContext register s.registry = (none, s'.registry) ∧ s'.contexts = s.contexts) ∨
    ∃ o, parserContext register s.registry = (some o, s'.registry) ∧ s'.contexts = s.contexts ++ [⟨o, Tracker.init⟩] := by
  have own : ∀ c ∈ s.contexts, ∃ d ∈ s.contexts, c.offsets = d.offsets := fun c mem => ⟨c, mem, rfl⟩
  cases e with
  | create =>
    simp only [step] at stepped
    split at stepped <;> rename_i made <;> cases stepped
    · exact Or.inr (Or.inr (Or.inl ⟨made, rfl⟩))
    · exact Or.inr (Or.inr (Or.inr ⟨_, made, rfl⟩))
  | destroy c =>
    cases stepped
    exact Or.inl ⟨rfl, fun c mem => own c (List.mem_of_mem_eraseIdx mem)⟩
  | parse c x =>
    simp only [step] at stepped
    split at stepped
    · cases stepped
      exact Or.inl ⟨rfl, own⟩
    · obtain ⟨_, _, last⟩ := bind_ok stepped
      cases last
      exact Or.inl ⟨rfl, own⟩
  | process c dir x =>
    simp only [step] at stepped
    split at stepped
    · cases stepped
      exact Or.inl ⟨rfl, own⟩
    · rename_i ctcm found
      obtain ⟨t, _, last⟩ := bind_ok stepped
      cases last
      refine Or.inl ⟨rfl, fun d mem => ?_⟩
      rcases List.mem_or_eq_of_mem_set mem with old | rfl
      · exact own d old
      · exact ⟨ctcm, List.mem_of_getElem? found, rfl⟩
  | register f =>
    cases stepped
    exact Or.inr (Or.inl ⟨f, rfl, rfl⟩)
  | poke name x bytes =>
    simp only [step] at stepped
    split at stepped <;> cases stepped <;> exact Or.inl ⟨rfl, own⟩

section Offsets

variable (dpdk : Dynfields register lookup)

include dpdk

/-- No call takes the offsets away. -/
theorem Ready.keep {e : Call} (ready : s.Ready lookup o) (stepped : s.step register lookup e = .ok s') :
    s'.Ready lookup o := by
  have again := ready.registered.again dpdk
  rcases step_cases stepped with ⟨registry, contexts⟩ | ⟨f, registry, contexts⟩ | ⟨made, _⟩ | ⟨o', made, contexts⟩
  · refine ⟨registry ▸ ready.registered, fun c mem => ?_⟩
    obtain ⟨d, old, same⟩ := contexts c mem
    exact same.trans (ready.same d old)
  · exact ⟨registry ▸ ready.registered.kept dpdk f, contexts ▸ ready.same⟩
  · rw [again] at made
    cases made
  · rw [again] at made
    obtain ⟨rfl, registry⟩ : o = o' ∧ s.registry = s'.registry := by simpa using made
    refine ⟨registry ▸ ready.registered, fun c mem => ?_⟩
    rw [contexts] at mem
    rcases List.mem_append.mp mem with old | new
    · exact ready.same c old
    · rw [List.mem_singleton.mp new]

/-- Offsets are registered in every state that has contexts. -/
theorem exists_ready {r : R} {packets : Nat → DynMbuf} {es : List Call}
    (ran : run (step register lookup) ⟨r, [], packets⟩ es = .ok s) (alive : s.contexts ≠ []) : ∃ o, s.Ready lookup o := by
  have inv : s.contexts = [] ∨ ∃ o, s.Ready lookup o := by
    refine Reachable.invariant (I := fun s => s.contexts = [] ∨ ∃ o, s.Ready lookup o) (Or.inl rfl) ?_ ⟨es, ran⟩
    rintro m e m' (empty | ⟨o, ready⟩) stepped
    · rcases step_cases stepped with ⟨_, contexts⟩ | ⟨_, _, contexts⟩ | ⟨_, contexts⟩ | ⟨o, made, contexts⟩
      · refine Or.inl (List.eq_nil_iff_forall_not_mem.mpr fun c mem => ?_)
        obtain ⟨d, old, _⟩ := contexts c mem
        rw [empty] at old
        exact absurd old List.not_mem_nil
      · exact Or.inl (contexts.trans empty)
      · exact Or.inl (contexts.trans empty)
      · refine Or.inr ⟨o, parserContext_registered dpdk made, fun c mem => ?_⟩
        rw [contexts, empty, List.nil_append] at mem
        rw [List.mem_singleton.mp mem]
    · exact Or.inr ⟨o, ready.keep dpdk stepped⟩
  exact inv.resolve_left alive

/-- One call, seen through the offsets. -/
theorem step_view {e : Call} (ready : s.Ready lookup o) (foreign : e.Foreign) :
    (s.step register lookup e).map (view o) = (s.view o).step e := by
  have apart := ready.registered.apart dpdk
  cases e with
  | create =>
    have made : s.step register lookup .create = .ok { s with contexts := s.contexts ++ [⟨o, Tracker.init⟩] } := by
      simp only [step, ready.registered.again dpdk]
    rw [made]
    simp [Except.map, view, Library.step]
  | destroy c =>
    show Except.ok _ = Except.ok _
    simp only [view, List.eraseIdx_map]
  | parse c x =>
    have same : (s.view o).trackers[c]? = (s.contexts[c]?).map CtcmContext.tracker := List.getElem?_map
    simp only [step, Library.step, same]
    cases found : s.contexts[c]? with
    | none => rfl
    | some ctcm =>
      have offsets := ready.same ctcm (List.mem_of_getElem? found)
      simp only [Option.map_some, offsets]
      show _ = ctcmParsePacket ((s.packets x).view o) >>= _
      rw [← DynMbuf.ctcmParsePacket_view apart (s.packets x)]
      refine map_bind_view fun m => ?_
      show Except.ok _ = Except.ok _
      simp only [view, view_update]
  | process c dir x =>
    have same : (s.view o).trackers[c]? = (s.contexts[c]?).map CtcmContext.tracker := List.getElem?_map
    simp only [step, Library.step, same]
    cases found : s.contexts[c]? with
    | none => rfl
    | some ctcm =>
      have offsets := ready.same ctcm (List.mem_of_getElem? found)
      simp only [Option.map_some, offsets]
      refine map_bind_same fun t => ?_
      show Except.ok _ = Except.ok _
      simp only [view, List.map_set]
  | register f => rfl
  | poke name x bytes =>
    simp only [step, Library.step]
    cases found : lookup s.registry name with
    | none => rfl
    | some field =>
      obtain ⟨f, k⟩ := field
      have bth := dpdk.apart _ _ _ _ _ _ _ foreign.1 found ready.registered.bth
      have mad := dpdk.apart _ _ _ _ _ _ _ foreign.2 found ready.registered.mad
      have size : (bytes.take f.size).length ≤ f.size := List.length_take_le _ _
      have twoBytes : bthDynfield.size = 2 ∧ madDynfield.size = 2 := ⟨rfl, rfl⟩
      have unseen : ((s.packets x).put k (bytes.take f.size)).view o = (s.packets x).view o :=
        DynMbuf.view_put (by omega) (by omega)
      show Except.ok _ = Except.ok _
      simp only [view, view_update, unseen, Function.update_eq_self]

/-- Whatever contexts were created and destroyed and whatever fields others registered before: once there
is a context, all of them have and report the same offsets, and from then on the calls are those of a
library whose annotations are fields of the packet, faults included. So a packet that one context parsed can be
processed by any other, whatever else is stored in its dynamic fields in between. -/
theorem contexts_share_annotations {r : R} {packets : Nat → DynMbuf} {es : List Call}
    (ran : run (step register lookup) ⟨r, [], packets⟩ es = .ok s) (alive : s.contexts ≠ []) :
    ∃ o, (∀ c ∈ s.contexts, c.offsets = o ∧ ∀ out : CtcmDynfieldOffsets, ¬ out.size < sizeofCtcmDynfieldOffsets →
        ctcmDynfieldOffsets c out = (0, { out with bth := o.bth, mad := o.mad })) ∧
      ∀ calls, (∀ e ∈ calls, e.Foreign) →
        (run (step register lookup) s calls).map (view o) = run Library.step (s.view o) calls := by
  obtain ⟨o, ready⟩ := exists_ready dpdk ran alive
  refine ⟨o, fun c mem => ⟨ready.same c mem, fun out fits => ?_⟩, fun calls foreign => ?_⟩
  · rw [ctcmDynfieldOffsets, if_neg fits, ready.same c mem]
  · exact run_view (I := fun s => s.Ready lookup o) (fun s e s' _ ready stepped => ready.keep dpdk stepped)
      (fun s e mem ready => step_view dpdk ready (foreign e mem)) s ready

end Offsets

end Process

end Process

/-! ## A registry -/

section Table

/-- Fields one after the other. -/
def tableLookup (base : Nat) (fields : List RteMbufDynfield) (name : String) : Option (RteMbufDynfield × Nat) :=
  match fields with
  | [] => none
  | f :: fields => if f.name = name then some (f, base) else tableLookup (base + f.size) fields name

/-- The end of the last field. -/
def tableEnd (base : Nat) (fields : List RteMbufDynfield) : Nat := fields.foldl (fun k f => k + f.size) base

/-- A new field comes last; a name that is taken is only given to the same field. -/
def tableRegister (fields : List RteMbufDynfield) (f : RteMbufDynfield) : Int × List RteMbufDynfield :=
  match tableLookup 0 fields f.name with
  | some (g, k) => if g = f then (Int.ofNat k, fields) else (-1, fields)
  | none => (Int.ofNat (tableEnd 0 fields), fields ++ [f])

variable {fields : List RteMbufDynfield} {base : Nat} {name : String} {f g : RteMbufDynfield} {k l : Nat}

theorem tableLookup_base (found : tableLookup base fields name = some (f, k)) : base ≤ k := by
  induction fields generalizing base with
  | nil => cases found
  | cons h fields ih =>
    rw [tableLookup] at found
    split at found
    · cases found
      exact Nat.le_refl _
    · have below := ih found
      omega

theorem tableLookup_append (found : tableLookup base fields name = some (f, k)) (g : RteMbufDynfield) :
    tableLookup base (fields ++ [g]) name = some (f, k) := by
  induction fields generalizing base with
  | nil => cases found
  | cons h fields ih =>
    rw [List.cons_append, tableLookup]
    rw [tableLookup] at found
    split at found
    · rw [if_pos (by assumption)]
      exact found
    · rw [if_neg (by assumption)]
      exact ih found

theorem tableLookup_last (free : tableLookup base fields f.name = none) :
    tableLookup base (fields ++ [f]) f.name = some (f, tableEnd base fields) := by
  induction fields generalizing base with
  | nil => simp [tableLookup, tableEnd]
  | cons h fields ih =>
    rw [tableLookup] at free
    split at free
    · cases free
    · rename_i other
      rw [List.cons_append, tableLookup, if_neg other, ih free, tableEnd, tableEnd, List.foldl_cons]

theorem tableLookup_apart {a b : String} (differ : a ≠ b) (first : tableLookup base fields a = some (f, k))
    (second : tableLookup base fields b = some (g, l)) : k + f.size ≤ l ∨ l + g.size ≤ k := by
  induction fields generalizing base with
  | nil => cases first
  | cons h fields ih =>
    rw [tableLookup] at first second
    split at first
    · rename_i here
      rw [if_neg (fun same => differ (here.symm.trans same))] at second
      cases first
      exact Or.inl (tableLookup_base second)
    · split at second
      · cases second
        exact Or.inr (tableLookup_base first)
      · exact ih first second

theorem dynfields_table : Dynfields tableRegister (tableLookup 0) where
  registered fields f ok := by
    unfold tableRegister at ok ⊢
    split at ok <;> rename_i found
    · split at ok <;> rename_i same
      · rw [if_pos same, found, same]
        rfl
      · exact absurd ok (show ¬ (0 : Int) ≤ -1 by decide)
    · exact tableLookup_last found
  kept fields f name x found := by
    unfold tableRegister
    split
    · split <;> exact found
    · exact tableLookup_append found f
  again fields f k found := by
    rw [tableRegister, found]
    simp
  apart _ _ _ _ _ _ _ := tableLookup_apart

end Table

/-- A REQ in a packet whose dynamic fields hold anything. -/
def dynReq : DynMbuf where
  buf := (roceMbuf 288).buf
  pktLen := (roceMbuf 288).pktLen
  packetType := (roceMbuf 288).packetType
  l2Len := (roceMbuf 288).l2Len
  l3Len := (roceMbuf 288).l3Len
  l4Len := (roceMbuf 288).l4Len
  dyn _ := 0xff

/-- One context parses the packet, the application marks it, and another context processes it. -/
theorem contexts_share_annotations_req :
    ∃ s, run (Process.step tableRegister (tableLookup 0)) ⟨[], [], fun _ => dynReq⟩
        [.create, .register ⟨"APP", 4, 4⟩, .create] = .ok s ∧ s.contexts ≠ [] ∧
      ((run (Process.step tableRegister (tableLookup 0)) s
          [.parse 0 0, .poke "APP" 0 [1, 2, 3, 4], .process 1 .FROM_NET 0]).map (Process.view ⟨12, 0, 2⟩)).map
        (fun l => l.trackers.map fun t => (t.flow 0).remoteQpn) = .ok [0#32, 0x22#32] := by
  have ran : run (Process.step tableRegister (tableLookup 0)) ⟨[], [], fun _ => dynReq⟩
      [.create, .register ⟨"APP", 4, 4⟩, .create] =
    .ok ⟨[bthDynfield, madDynfield, ⟨"APP", 4, 4⟩], [⟨⟨12, 0, 2⟩, Tracker.init⟩, ⟨⟨12, 0, 2⟩, Tracker.init⟩],
      fun _ => dynReq⟩ := rfl
  obtain ⟨o, same, calls⟩ := Process.contexts_share_annotations dynfields_table ran (List.cons_ne_nil _ _)
  obtain rfl : ⟨12, 0, 2⟩ = o := (same _ List.mem_cons_self).1
  refine ⟨_, ran, List.cons_ne_nil _ _, ?_⟩
  rw [calls _ (by decide)]
  decide +kernel

end ConntrackCm
