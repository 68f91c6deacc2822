import ConntrackCm.Notify
import ConntrackCm.Lib.Bits

/-!
# Base transport headers

The accessors of `rxe_hdr.h` for the BTH: each reads or writes a few bits of one of the five members
of `rxe_bth`, some by swapping the word, some by swapping the mask. `Bth` is the header as its thirteen
fields, and `Bth.encode` its twelve bytes. A header is one `Bth` and no other, and whatever setters run
on it, in whatever order, it stays what the fields say (`bth_written`). They say that `__bth_set_resv6a`
does more than its sibling `__bth_set_resv7`: it overwrites the whole word, congestion bits and QPN
included.
-/

namespace ConntrackCm

open Lib

namespace RxeBth
def flags : Nat := 1
def apsn : Nat := 8
end RxeBth

def bthSeMask : BitVec 8 := 0x80
def bthMigMask : BitVec 8 := 0x40
def bthPadMask : BitVec 8 := 0x30
def bthTverMask : BitVec 8 := 0x0f
def bthAckMask : BitVec 32 := 0x80000000
def bthResv7Mask : BitVec 32 := 0x7f000000
def bthPsnMask : BitVec 32 := 0x00ffffff

/-! ## The accessors -/

section Getters

variable (p : RteMbuf) (bth : Nat)

/-- A test of a flag. -/
def bthFlag (mask : BitVec 8) : Except Fault Bool := do
  return decide (mask &&& (← p.byte (bth + RxeBth.flags)) ≠ 0)

/-- A test of a bit of a word. -/
def bthBit (member : Nat) (mask : BitVec 32) : Except Fault Bool := do
  return decide (mask &&& (← p.be32 (bth + member)) ≠ 0)

/-- `__bth_se`. -/
def bthSe : Except Fault Bool := bthFlag p bth bthSeMask

/-- `__bth_mig`. -/
def bthMig : Except Fault Bool := bthFlag p bth bthMigMask

/-- `__bth_pad`. -/
def bthPad : Except Fault (BitVec 8) := do
  return (bthPadMask &&& (← p.byte (bth + RxeBth.flags))) >>> 4

/-- `__bth_tver`. -/
def bthTver : Except Fault (BitVec 8) := do
  return bthTverMask &&& (← p.byte (bth + RxeBth.flags))

/-- `__bth_pkey`. -/
def bthPkey : Except Fault (BitVec 16) := p.be16 (bth + RxeBth.pkey)

/-- `__bth_fecn`. -/
def bthFecn : Except Fault Bool := bthBit p bth RxeBth.qpn bthFecnMask

/-- `__bth_resv6a`. -/
def bthResv6a : Except Fault (BitVec 8) := do
  return ((bthResv6aMask &&& (← p.be32 (bth + RxeBth.qpn))) >>> 24).setWidth 8

/-- `__bth_ack`. -/
def bthAck : Except Fault Bool := bthBit p bth RxeBth.apsn bthAckMask

/-- `__bth_psn`. -/
def bthPsn : Except Fault (BitVec 32) := do
  return bthPsnMask &&& (← p.be32 (bth + RxeBth.apsn))

end Getters

section Setters

variable (p : Mbuf) (bth : Nat)

/-- Rewrite the flags. -/
def bthUpdateFlags (f : BitVec 8 → BitVec 8) : Except Fault Mbuf := do
  let flags ← p.byte (bth + RxeBth.flags)
  p.store (bth + RxeBth.flags) [f flags]

/-- Rewrite a word. -/
def bthUpdateWord (member : Nat) (f : BitVec 32 → BitVec 32) : Except Fault Mbuf := do
  let word ← p.be32 (bth + member)
  p.store (bth + member) (bigEndian 4 (f word))

/-- `__bth_set_se`. -/
def bthSetSe (se : Bool) : Except Fault Mbuf :=
  bthUpdateFlags p bth fun flags => if se then flags ||| bthSeMask else flags &&& ~~~bthSeMask

/-- `__bth_set_mig`. -/
def bthSetMig (mig : Bool) : Except Fault Mbuf :=
  bthUpdateFlags p bth fun flags => if mig then flags ||| bthMigMask else flags &&& ~~~bthMigMask

/-- `__bth_set_pad`. -/
def bthSetPad (pad : BitVec 8) : Except Fault Mbuf :=
  bthUpdateFlags p bth fun flags => (bthPadMask &&& (pad <<< 4)) ||| (~~~bthPadMask &&& flags)

/-- `__bth_set_tver`. -/
def bthSetTver (tver : BitVec 8) : Except Fault Mbuf :=
  bthUpdateFlags p bth fun flags => (bthTverMask &&& tver) ||| (~~~bthTverMask &&& flags)

/-- `__bth_set_fecn`. -/
def bthSetFecn (fecn : Bool) : Except Fault Mbuf :=
  bthUpdateWord p bth RxeBth.qpn fun qpn => if fecn then qpn ||| bthFecnMask else qpn &&& ~~~bthFecnMask

/-- `__bth_set_resv6a`: the word is not read. -/
def bthSetResv6a : Except Fault Mbuf := p.store (bth + RxeBth.qpn) (bigEndian 4 (~~~bthResv6aMask))

/-- `__bth_set_ack`. -/
def bthSetAck (ack : Bool) : Except Fault Mbuf :=
  bthUpdateWord p bth RxeBth.apsn fun apsn => if ack then apsn ||| bthAckMask else apsn &&& ~~~bthAckMask

/-- `__bth_set_resv7`. -/
def bthSetResv7 : Except Fault Mbuf := bthUpdateWord p bth RxeBth.apsn fun apsn => apsn &&& ~~~bthResv7Mask

/-- `__bth_set_psn`. -/
def bthSetPsn (psn : BitVec 32) : Except Fault Mbuf :=
  bthUpdateWord p bth RxeBth.apsn fun apsn => (bthPsnMask &&& psn) ||| (~~~bthPsnMask &&& apsn)

end Setters

/-- A call of a setter. -/
inductive BthWrite where
  | opcode (v : BitVec 8)
  | se (v : Bool)
  | mig (v : Bool)
  | pad (v : BitVec 8)
  | tver (v : BitVec 8)
  | pkey (v : BitVec 16)
  | qpn (v : BitVec 32)
  | fecn (v : Bool)
  | becn (v : Bool)
  | resv6a
  | ack (v : Bool)
  | resv7
  | psn (v : BitVec 32)
  deriving DecidableEq, Repr

def BthWrite.apply (bth : Nat) (p : Mbuf) : BthWrite → Except Fault Mbuf
  | .opcode v => bthSetOpcode p bth v
  | .se v => bthSetSe p bth v
  | .mig v => bthSetMig p bth v
  | .pad v => bthSetPad p bth v
  | .tver v => bthSetTver p bth v
  | .pkey v => bthSetPkey p bth v
  | .qpn v => bthSetQpn p bth v
  | .fecn v => bthSetFecn p bth v
  | .becn v => bthSetBecn p bth v
  | .resv6a => bthSetResv6a p bth
  | .ack v => bthSetAck p bth v
  | .resv7 => bthSetResv7 p bth
  | .psn v => bthSetPsn p bth v

/-! ## The header as its fields -/

@[ext]
structure Bth where
  opcode : BitVec 8
  se : Bool
  mig : Bool
  pad : BitVec 2
  tver : BitVec 4
  pkey : BitVec 16
  fecn : Bool
  becn : Bool
  resv6a : BitVec 6
  qpn : BitVec 24
  ack : Bool
  resv7 : BitVec 7
  psn : BitVec 24
  deriving DecidableEq, Repr

namespace Bth

def flags (b : Bth) : BitVec 8 := BitVec.ofBool b.se ++ BitVec.ofBool b.mig ++ b.pad ++ b.tver

/-- The word of the QPN. -/
def qpnWord (b : Bth) : BitVec 32 := BitVec.ofBool b.fecn ++ BitVec.ofBool b.becn ++ b.resv6a ++ b.qpn

/-- The word of the PSN. -/
def apsnWord (b : Bth) : BitVec 32 := BitVec.ofBool b.ack ++ b.resv7 ++ b.psn

/-- The bytes of a header. -/
def encode (b : Bth) : List (BitVec 8) :=
  [b.opcode, b.flags] ++ bigEndian 2 b.pkey ++ bigEndian 4 b.qpnWord ++ bigEndian 4 b.apsnWord

/-- What a setter does to the fields. Values are cut to the width of the field. -/
def write (b : Bth) : BthWrite → Bth
  | .opcode v => { b with opcode := v }
  | .se v => { b with se := v }
  | .mig v => { b with mig := v }
  | .pad v => { b with pad := v.setWidth 2 }
  | .tver v => { b with tver := v.setWidth 4 }
  | .pkey v => { b with pkey := v }
  | .qpn v => { b with qpn := v.setWidth 24 }
  | .fecn v => { b with fecn := v }
  | .becn v => { b with becn := v }
  | .resv6a => { b with fecn := true, becn := true, resv6a := 0, qpn := BitVec.allOnes 24 }
  | .ack v => { b with ack := v }
  | .resv7 => { b with resv7 := 0 }
  | .psn v => { b with psn := v.setWidth 24 }

theorem length_encode (b : Bth) : b.encode.length = 12 := by
  simp [encode]

/-- The fields behind the members of `rxe_bth`. -/
def ofMembers (opcode flags : BitVec 8) (pkey : BitVec 16) (qpn apsn : BitVec 32) : Bth where
  opcode := opcode
  se := flags.getLsbD 7
  mig := flags.getLsbD 6
  pad := flags.extractLsb' 4 2
  tver := flags.extractLsb' 0 4
  pkey := pkey
  fecn := qpn.getLsbD 31
  becn := qpn.getLsbD 30
  resv6a := qpn.extractLsb' 24 6
  qpn := qpn.extractLsb' 0 24
  ack := apsn.getLsbD 31
  resv7 := apsn.extractLsb' 24 7
  psn := apsn.extractLsb' 0 24

/-- The fields behind some bytes. -/
def decode (bs : List (BitVec 8)) : Bth :=
  ofMembers (bs.getD 0 0) (bs.getD 1 0) (bs.getD 2 0 ++ bs.getD 3 0)
    (bs.getD 4 0 ++ bs.getD 5 0 ++ bs.getD 6 0 ++ bs.getD 7 0) (bs.getD 8 0 ++ bs.getD 9 0 ++ bs.getD 10 0 ++ bs.getD 11 0)

/-! A word is its parts, and parts of a word are what they were. -/

theorem flags_split (x : BitVec 8) :
    BitVec.ofBool (x.getLsbD 7) ++ BitVec.ofBool (x.getLsbD 6) ++ x.extractLsb' 4 2 ++ x.extractLsb' 0 4 = x := by
  revert x
  decide +kernel

theorem qpnWord_split (x : BitVec 32) :
    BitVec.ofBool (x.getLsbD 31) ++ BitVec.ofBool (x.getLsbD 30) ++ x.extractLsb' 24 6 ++ x.extractLsb' 0 24 = x := by
  ext k hk
  rw [← BitVec.getLsbD_eq_getElem (x := x) hk]
  simp only [BitVec.getElem_append, BitVec.getElem_extractLsb', BitVec.getElem_ofBool]
  split_ifs <;> congr 1 <;> omega

theorem apsnWord_split (x : BitVec 32) :
    BitVec.ofBool (x.getLsbD 31) ++ x.extractLsb' 24 7 ++ x.extractLsb' 0 24 = x := by
  ext k hk
  rw [← BitVec.getLsbD_eq_getElem (x := x) hk]
  simp only [BitVec.getElem_append, BitVec.getElem_extractLsb', BitVec.getElem_ofBool]
  split_ifs <;> congr 1 <;> omega

/-- Every twelve bytes are a header. -/
theorem encode_decode {bs : List (BitVec 8)} (size : bs.length = 12) : (decode bs).encode = bs := by
  match bs, size with
  | [b0, b1, b2, b3, b4, b5, b6, b7, b8, b9, b10, b11], _ =>
    have flags : (decode [b0, b1, b2, b3, b4, b5, b6, b7, b8, b9, b10, b11]).flags = b1 := flags_split b1
    have qpn : (decode [b0, b1, b2, b3, b4, b5, b6, b7, b8, b9, b10, b11]).qpnWord = b4 ++ b5 ++ b6 ++ b7 :=
      qpnWord_split _
    have apsn : (decode [b0, b1, b2, b3, b4, b5, b6, b7, b8, b9, b10, b11]).apsnWord = b8 ++ b9 ++ b10 ++ b11 :=
      apsnWord_split _
    have pkey : bigEndian 2 (b2 ++ b3) = [b2, b3] := by
      rw [bigEndian_append]
      simp [bigEndian, littleEndian]
    rw [encode, flags, qpn, apsn, bigEndian_word, bigEndian_word]
    exact congrArg (fun bs => [b0, b1] ++ bs ++ [b4, b5, b6, b7] ++ [b8, b9, b10, b11]) pkey

theorem ofMembers_own (b : Bth) : ofMembers b.opcode b.flags b.pkey b.qpnWord b.apsnWord = b := by
  have flags : ∀ (se mig : Bool) (pad : BitVec 2) (tver : BitVec 4),
      (BitVec.ofBool se ++ BitVec.ofBool mig ++ pad ++ tver).getLsbD 7 = se ∧
      (BitVec.ofBool se ++ BitVec.ofBool mig ++ pad ++ tver).getLsbD 6 = mig ∧
      (BitVec.ofBool se ++ BitVec.ofBool mig ++ pad ++ tver).extractLsb' 4 2 = pad ∧
      (BitVec.ofBool se ++ BitVec.ofBool mig ++ pad ++ tver).extractLsb' 0 4 = tver := by
    decide +kernel
  obtain ⟨se, mig, pad, tver⟩ := flags b.se b.mig b.pad b.tver
  have fecn : b.qpnWord.getLsbD 31 = b.fecn := by
    rw [qpnWord, BitVec.getLsbD_append, if_neg (by decide), BitVec.getLsbD_append, if_neg (by decide), BitVec.getLsbD_append,
      if_neg (by decide)]
    cases b.fecn <;> rfl
  have becn : b.qpnWord.getLsbD 30 = b.becn := by
    rw [qpnWord, BitVec.getLsbD_append, if_neg (by decide), BitVec.getLsbD_append, if_neg (by decide), BitVec.getLsbD_append,
      if_pos (by decide)]
    cases b.becn <;> rfl
  have ack : b.apsnWord.getLsbD 31 = b.ack := by
    rw [apsnWord, BitVec.getLsbD_append, if_neg (by decide), BitVec.getLsbD_append, if_neg (by decide)]
    cases b.ack <;> rfl
  apply Bth.ext
  · rfl
  · exact se
  · exact mig
  · exact pad
  · exact tver
  · rfl
  · exact fecn
  · exact becn
  · exact (BitVec.extractLsb'_append_eq_of_le (by decide)).trans BitVec.extractLsb'_append_eq_right
  · exact BitVec.extractLsb'_append_eq_right
  · exact ack
  · exact (BitVec.extractLsb'_append_eq_of_le (by decide)).trans BitVec.extractLsb'_append_eq_right
  · exact BitVec.extractLsb'_append_eq_right

/-- A header is no other. -/
theorem decode_encode (b : Bth) : decode b.encode = b := by
  have members : decode b.encode = ofMembers b.opcode b.flags b.pkey b.qpnWord b.apsnWord := by
    have pkey := join_two b.pkey
    have qpn := join_four b.qpnWord
    have apsn := join_four b.apsnWord
    exact congr (congr (congrArg (ofMembers b.opcode b.flags) pkey) qpn) apsn
  rw [members, ofMembers_own]

/-! ## Masks act part by part -/

theorem seMask_parts : bthSeMask = BitVec.allOnes 1 ++ 0#1 ++ 0#2 ++ 0#4 := by decide
theorem migMask_parts : bthMigMask = 0#1 ++ BitVec.allOnes 1 ++ 0#2 ++ 0#4 := by decide
theorem padMask_parts : bthPadMask = 0#1 ++ 0#1 ++ BitVec.allOnes 2 ++ 0#4 := by decide
theorem tverMask_parts : bthTverMask = 0#1 ++ 0#1 ++ 0#2 ++ BitVec.allOnes 4 := by decide
theorem fecnMask_parts : bthFecnMask = BitVec.allOnes 1 ++ 0#1 ++ 0#6 ++ 0#24 := by decide
theorem becnMask_parts : bthBecnMask = 0#1 ++ BitVec.allOnes 1 ++ 0#6 ++ 0#24 := by decide
theorem resv6aMask_parts : bthResv6aMask = 0#1 ++ 0#1 ++ BitVec.allOnes 6 ++ 0#24 := by decide
theorem qpnMask_parts : bthQpnMask = 0#1 ++ 0#1 ++ 0#6 ++ BitVec.allOnes 24 := by decide

variable (b : Bth) (v : Bool)

theorem set_se : (if v then b.flags ||| bthSeMask else b.flags &&& ~~~bthSeMask) = (b.write (.se v)).flags := by
  rw [seMask_parts]
  exact switch_first b.se v

theorem set_mig : (if v then b.flags ||| bthMigMask else b.flags &&& ~~~bthMigMask) = (b.write (.mig v)).flags := by
  rw [migMask_parts]
  exact switch_second b.mig v

theorem set_fecn : (if v then b.qpnWord ||| bthFecnMask else b.qpnWord &&& ~~~bthFecnMask) = (b.write (.fecn v)).qpnWord := by
  rw [fecnMask_parts]
  exact switch_first b.fecn v

theorem set_becn : (if v then b.qpnWord ||| bthBecnMask else b.qpnWord &&& ~~~bthBecnMask) = (b.write (.becn v)).qpnWord := by
  rw [becnMask_parts]
  exact switch_second b.becn v

theorem set_pad (x : BitVec 8) :
    (bthPadMask &&& (x <<< 4)) ||| (~~~bthPadMask &&& b.flags) = (b.write (.pad x)).flags := by
  have value : ∀ x : BitVec 8, bthPadMask &&& (x <<< 4) = 0#1 ++ 0#1 ++ x.setWidth 2 ++ 0#4 := by decide +kernel
  rw [value, padMask_parts, flags, not_append_four, and_append_four, or_append_four]
  simp only [BitVec.not_zero, BitVec.not_allOnes, BitVec.allOnes_and, BitVec.zero_and, BitVec.zero_or, BitVec.or_zero]
  rfl

theorem set_tver (x : BitVec 8) : (bthTverMask &&& x) ||| (~~~bthTverMask &&& b.flags) = (b.write (.tver x)).flags := by
  have value : ∀ x : BitVec 8, bthTverMask &&& x = 0#1 ++ 0#1 ++ 0#2 ++ x.setWidth 4 := by decide +kernel
  rw [value, tverMask_parts, flags, not_append_four, and_append_four, or_append_four]
  simp only [BitVec.not_zero, BitVec.not_allOnes, BitVec.allOnes_and, BitVec.zero_and, BitVec.zero_or, BitVec.or_zero]
  rfl

/-- The low 24 bits. -/
theorem low_parts (x : BitVec 32) : bthQpnMask &&& x = 0#1 ++ 0#1 ++ 0#6 ++ x.setWidth 24 := by
  rw [BitVec.and_comm]
  exact BitVec.and_setWidth_allOnes 8 24 x

theorem set_qpn (x : BitVec 32) : (bthQpnMask &&& x) ||| (~~~bthQpnMask &&& b.qpnWord) = (b.write (.qpn x)).qpnWord := by
  rw [low_parts, qpnMask_parts, qpnWord, not_append_four, and_append_four, or_append_four]
  simp only [BitVec.not_zero, BitVec.not_allOnes, BitVec.allOnes_and, BitVec.zero_and, BitVec.zero_or, BitVec.or_zero]
  rfl

theorem set_resv6a : ~~~bthResv6aMask = (b.write .resv6a).qpnWord := by
  rw [resv6aMask_parts, not_append_four]
  simp only [BitVec.not_zero, BitVec.not_allOnes]
  rfl

theorem set_ack : (if v then b.apsnWord ||| bthAckMask else b.apsnWord &&& ~~~bthAckMask) = (b.write (.ack v)).apsnWord := by
  have mask : bthAckMask = BitVec.allOnes 1 ++ 0#7 ++ 0#24 := by decide
  rw [mask, apsnWord]
  cases v with
  | false =>
    rw [if_neg (by decide), BitVec.not_append, BitVec.not_append, BitVec.and_append, BitVec.and_append]
    simp only [BitVec.not_zero, BitVec.not_allOnes, BitVec.and_allOnes, BitVec.and_zero]
    rfl
  | true =>
    rw [if_pos rfl, BitVec.or_append, BitVec.or_append]
    simp only [BitVec.or_zero, BitVec.or_allOnes]
    rfl

theorem set_resv7 : b.apsnWord &&& ~~~bthResv7Mask = (b.write .resv7).apsnWord := by
  have mask : bthResv7Mask = 0#1 ++ BitVec.allOnes 7 ++ 0#24 := by decide
  rw [mask, apsnWord, BitVec.not_append, BitVec.not_append, BitVec.and_append, BitVec.and_append]
  simp only [BitVec.not_zero, BitVec.not_allOnes, BitVec.and_allOnes, BitVec.and_zero]
  rfl

theorem set_psn (x : BitVec 32) : (bthPsnMask &&& x) ||| (~~~bthPsnMask &&& b.apsnWord) = (b.write (.psn x)).apsnWord := by
  have value : bthPsnMask &&& x = 0#1 ++ 0#7 ++ x.setWidth 24 := by
    rw [BitVec.and_comm]
    exact BitVec.and_setWidth_allOnes 8 24 x
  have mask : bthPsnMask = 0#1 ++ 0#7 ++ BitVec.allOnes 24 := by decide
  rw [value, mask, apsnWord, BitVec.not_append, BitVec.not_append, BitVec.and_append, BitVec.and_append, BitVec.or_append,
    BitVec.or_append]
  simp only [BitVec.not_zero, BitVec.not_allOnes, BitVec.allOnes_and, BitVec.zero_and, BitVec.zero_or, BitVec.or_zero]
  rfl

end Bth

/-! ## Setters -/

section Write

variable {p : Mbuf} {i : Nat} (room : p.Mapped i 12) {b b' : Bth}

include room

theorem Bth.read_flags : (p.put i b.encode).byte (i + RxeBth.flags) = .ok b.flags :=
  Mbuf.byte_within room b.length_encode (k := 1) (by decide)

theorem Bth.read_qpnWord : (p.put i b.encode).be32 (i + RxeBth.qpn) = .ok b.qpnWord := by
  refine (Mbuf.be32_within room b.length_encode (k := 4) (by decide)).trans ?_
  exact congrArg Except.ok (join_four b.qpnWord)

theorem Bth.read_apsnWord : (p.put i b.encode).be32 (i + RxeBth.apsn) = .ok b.apsnWord := by
  refine (Mbuf.be32_within room b.length_encode (k := 8) (by decide)).trans ?_
  exact congrArg Except.ok (join_four b.apsnWord)

theorem bthUpdateFlags_eq {f : BitVec 8 → BitVec 8} (new : f b.flags = b'.flags)
    (rest : splice b.encode 1 [b'.flags] = b'.encode) :
    bthUpdateFlags (p.put i b.encode) i f = .ok (p.put i b'.encode) := by
  rw [bthUpdateFlags, bind_of_ok (Bth.read_flags room), new, ← rest]
  exact Mbuf.store_within room b.length_encode (k := 1) (by simp)

theorem bthUpdateWord_eq {member : Nat} {f : BitVec 32 → BitVec 32} {w w' : BitVec 32} (inside : member + 4 ≤ 12)
    (old : (p.put i b.encode).be32 (i + member) = .ok w) (new : f w = w')
    (rest : splice b.encode member (bigEndian 4 w') = b'.encode) :
    bthUpdateWord (p.put i b.encode) i member f = .ok (p.put i b'.encode) := by
  rw [bthUpdateWord, bind_of_ok old, new, ← rest]
  exact Mbuf.store_within room b.length_encode (by rwa [length_bigEndian])

/-- One setter. -/
theorem BthWrite.apply_eq (w : BthWrite) : w.apply i (p.put i b.encode) = .ok (p.put i (b.write w).encode) := by
  cases w with
  | opcode v => exact Mbuf.store_within room b.length_encode (k := 0) (by simp)
  | se v => exact bthUpdateFlags_eq room (b.set_se v) rfl
  | mig v => exact bthUpdateFlags_eq room (b.set_mig v) rfl
  | pad v => exact bthUpdateFlags_eq room (b.set_pad v) rfl
  | tver v => exact bthUpdateFlags_eq room (b.set_tver v) rfl
  | pkey v => exact Mbuf.store_within room b.length_encode (k := 2) (by rw [length_bigEndian]; decide)
  | qpn v => exact bthUpdateWord_eq room (by decide) (Bth.read_qpnWord room) (b.set_qpn v) rfl
  | fecn v => exact bthUpdateWord_eq room (by decide) (Bth.read_qpnWord room) (b.set_fecn v) rfl
  | becn v => exact bthUpdateWord_eq room (by decide) (Bth.read_qpnWord room) (b.set_becn v) rfl
  | resv6a =>
    have stored : (p.put i b.encode).store (i + 4) (bigEndian 4 (b.write .resv6a).qpnWord) = _ :=
      Mbuf.store_within room b.length_encode (by rw [length_bigEndian]; decide)
    rw [BthWrite.apply, bthSetResv6a, b.set_resv6a]
    exact stored
  | ack v => exact bthUpdateWord_eq room (by decide) (Bth.read_apsnWord room) (b.set_ack v) rfl
  | resv7 => exact bthUpdateWord_eq room (by decide) (Bth.read_apsnWord room) b.set_resv7 rfl
  | psn v => exact bthUpdateWord_eq room (by decide) (Bth.read_apsnWord room) (b.set_psn v) rfl

end Write

/-! ## Getters -/

/-- The getters yield the fields of `b`. -/
structure Bth.Shown (b : Bth) (p : RteMbuf) (i : Nat) : Prop where
  opcode : bthOpcode p i = .ok b.opcode
  se : bthSe p i = .ok b.se
  mig : bthMig p i = .ok b.mig
  pad : bthPad p i = .ok (b.pad.setWidth 8)
  tver : bthTver p i = .ok (b.tver.setWidth 8)
  pkey : bthPkey p i = .ok b.pkey
  qpn : bthQpn p i = .ok (b.qpn.setWidth 32)
  fecn : bthFecn p i = .ok b.fecn
  becn : bthBecn p i = .ok b.becn
  resv6a : bthResv6a p i = .ok (b.resv6a.setWidth 8)
  ack : bthAck p i = .ok b.ack
  psn : bthPsn p i = .ok (b.psn.setWidth 32)

namespace Bth

variable (b : Bth)

/-- The flags by parts. -/
theorem get_flags :
    decide (bthSeMask &&& b.flags ≠ 0) = b.se ∧ decide (bthMigMask &&& b.flags ≠ 0) = b.mig ∧
      (bthPadMask &&& b.flags) >>> 4 = b.pad.setWidth 8 ∧ bthTverMask &&& b.flags = b.tver.setWidth 8 := by
  have parts : ∀ (se mig : Bool) (pad : BitVec 2) (tver : BitVec 4),
      decide (bthSeMask &&& (BitVec.ofBool se ++ BitVec.ofBool mig ++ pad ++ tver) ≠ 0) = se ∧
      decide (bthMigMask &&& (BitVec.ofBool se ++ BitVec.ofBool mig ++ pad ++ tver) ≠ 0) = mig ∧
      (bthPadMask &&& (BitVec.ofBool se ++ BitVec.ofBool mig ++ pad ++ tver)) >>> 4 = pad.setWidth 8 ∧
      bthTverMask &&& (BitVec.ofBool se ++ BitVec.ofBool mig ++ pad ++ tver) = tver.setWidth 8 := by
    decide +kernel
  exact parts b.se b.mig b.pad b.tver

theorem get_fecn : decide (bthFecnMask &&& b.qpnWord ≠ 0) = b.fecn := by
  rw [fecnMask_parts, qpnWord, and_append_four]
  simp only [BitVec.allOnes_and, BitVec.zero_and]
  cases b.fecn <;> rfl

theorem get_becn : decide (bthBecnMask &&& b.qpnWord ≠ 0) = b.becn := by
  rw [becnMask_parts, qpnWord, and_append_four]
  simp only [BitVec.allOnes_and, BitVec.zero_and]
  cases b.becn <;> rfl

theorem low_append (x : BitVec 8) (y : BitVec 24) : bthQpnMask &&& (x ++ y) = y.setWidth 32 := by
  have low : ∀ k, k < 32 → bthQpnMask.getLsbD k = decide (k < 24) := by decide
  apply BitVec.eq_of_getLsbD_eq
  intro k hk
  rw [BitVec.getLsbD_and, low k hk, BitVec.getLsbD_append, BitVec.getLsbD_setWidth]
  by_cases inside : k < 24
  · simp [inside, hk]
  · have upper : y.getLsbD k = false := BitVec.getLsbD_of_ge _ _ (by omega)
    simp [inside, upper]

theorem get_qpn : bthQpnMask &&& b.qpnWord = b.qpn.setWidth 32 := low_append _ b.qpn

theorem get_resv6a : ((bthResv6aMask &&& b.qpnWord) >>> 24).setWidth 8 = b.resv6a.setWidth 8 := by
  have mask : ∀ k, k < 8 → bthResv6aMask.getLsbD (24 + k) = decide (k < 6) := by decide
  apply BitVec.eq_of_getLsbD_eq
  intro k hk
  rw [BitVec.getLsbD_setWidth, BitVec.getLsbD_ushiftRight, BitVec.getLsbD_and, mask k hk, BitVec.getLsbD_setWidth, qpnWord,
    BitVec.getLsbD_append, if_neg (by omega), Nat.add_sub_cancel_left, BitVec.getLsbD_append]
  by_cases inside : k < 6
  · simp [inside]
  · have upper : b.resv6a.getLsbD k = false := BitVec.getLsbD_of_ge _ _ (by omega)
    simp [inside, upper]

theorem get_ack : decide (bthAckMask &&& b.apsnWord ≠ 0) = b.ack := by
  have mask : bthAckMask = BitVec.allOnes 1 ++ 0#7 ++ 0#24 := by decide
  rw [mask, apsnWord, BitVec.and_append, BitVec.and_append]
  simp only [BitVec.allOnes_and, BitVec.zero_and]
  cases b.ack <;> rfl

theorem get_psn : bthPsnMask &&& b.apsnWord = b.psn.setWidth 32 := low_append _ b.psn

theorem shown {p : Mbuf} {i : Nat} (room : p.Mapped i 12) : b.Shown (p.put i b.encode).toRteMbuf i := by
  have flags : (p.put i b.encode).byte (i + 1) = .ok b.flags := read_flags room
  have qpn : (p.put i b.encode).be32 (i + 4) = .ok b.qpnWord := read_qpnWord room
  have apsn : (p.put i b.encode).be32 (i + 8) = .ok b.apsnWord := read_apsnWord room
  have pkey : (p.put i b.encode).be16 (i + 2) = .ok b.pkey := by
    have first := Mbuf.byte_within room b.length_encode (k := 2) (by decide)
    have second := Mbuf.byte_within room b.length_encode (k := 3) (by decide)
    refine (bind_of_ok first).trans ((bind_of_ok second).trans ?_)
    exact congrArg Except.ok (join_two b.pkey)
  obtain ⟨se, mig, pad, tver⟩ := b.get_flags
  exact
    { opcode := Mbuf.byte_within room b.length_encode (k := 0) (by decide)
      se := (bind_of_ok flags).trans (congrArg Except.ok se)
      mig := (bind_of_ok flags).trans (congrArg Except.ok mig)
      pad := (bind_of_ok flags).trans (congrArg Except.ok pad)
      tver := (bind_of_ok flags).trans (congrArg Except.ok tver)
      pkey := pkey
      qpn := (bind_of_ok qpn).trans (congrArg Except.ok b.get_qpn)
      fecn := (bind_of_ok qpn).trans (congrArg Except.ok b.get_fecn)
      becn := (bind_of_ok qpn).trans (congrArg Except.ok b.get_becn)
      resv6a := (bind_of_ok qpn).trans (congrArg Except.ok b.get_resv6a)
      ack := (bind_of_ok apsn).trans (congrArg Except.ok b.get_ack)
      psn := (bind_of_ok apsn).trans (congrArg Except.ok b.get_psn) }

end Bth

/-! ## Headers in packets -/

/-- The header at `i`. -/
def Mbuf.bthAt (p : Mbuf) (i : Nat) : Bth := Bth.decode ((List.range 12).map fun k => p.octet (i + k))

section Headers

variable {p : Mbuf} {i : Nat}

theorem Mbuf.bthAt_put (b : Bth) : (p.put i b.encode).bthAt i = b := by
  have size := b.length_encode
  have bytes : (List.range 12).map (fun k => (p.put i b.encode).octet (i + k)) = b.encode := by
    apply List.ext_getElem?
    intro j
    rw [getElem?_map_range]
    by_cases inside : j < 12
    · rw [if_pos inside, Mbuf.octet_inside (by omega), List.getD_eq_getElem?_getD, List.getElem?_eq_getElem (by omega)]
      rfl
    · rw [if_neg inside, List.getElem?_eq_none (by omega)]
  rw [Mbuf.bthAt, bytes, Bth.decode_encode]

variable (room : p.Mapped i 12)

include room

/-- A packet has the header that it has. -/
theorem Mbuf.put_bthAt : p.put i (p.bthAt i).encode = p := by
  have bytes : (p.bthAt i).encode = (List.range 12).map fun k => p.octet (i + k) := Bth.encode_decode (by simp)
  have own : overlay p.buf i ((List.range 12).map fun k => p.octet (i + k)) = p.buf := by
    apply overlay_own
    intro k hk
    simp only [List.length_map, List.length_range] at hk
    obtain ⟨b, here⟩ := Option.isSome_iff_exists.mp (room k hk)
    rw [getElem?_map_range, if_pos hk, RteMbuf.octet, here]
    rfl
  rw [bytes, Mbuf.put, own]

theorem BthWrite.run_eq (b : Bth) (ws : List BthWrite) :
    run (BthWrite.apply i) (p.put i b.encode) ws = .ok (p.put i (ws.foldl Bth.write b).encode) := by
  induction ws generalizing b with
  | nil => rfl
  | cons w ws ih => rw [run_cons, bind_of_ok (BthWrite.apply_eq room w), ih, List.foldl_cons]

/-- Whatever setters run on a header, its fields are what the setters say, all getters agree, and
nothing else changes. -/
theorem bth_written (ws : List BthWrite) :
    ∃ q, run (BthWrite.apply i) p ws = .ok q ∧ q.bthAt i = ws.foldl Bth.write (p.bthAt i) ∧
      q = p.put i (q.bthAt i).encode ∧ (q.bthAt i).Shown q.toRteMbuf i := by
  have ran := BthWrite.run_eq room (p.bthAt i) ws
  rw [Mbuf.put_bthAt room] at ran
  have fields := Mbuf.bthAt_put (p := p) (i := i) (ws.foldl Bth.write (p.bthAt i))
  refine ⟨_, ran, fields, ?_, ?_⟩
  · rw [fields]
  · rw [fields]
    exact Bth.shown _ room

end Headers

/-- The setters of a CNP, and then `__bth_set_resv6a`, which takes the QPN with it. -/
theorem bth_written_resv6a :
    ∃ q, run (BthWrite.apply 42) (roceMbuf 288) [.opcode 0x81, .becn true, .pkey 0xffff, .qpn 0x22, .resv6a, .resv7] = .ok q ∧
      bthOpcode q.toRteMbuf 42 = .ok 0x81 ∧ bthFecn q.toRteMbuf 42 = .ok true ∧ bthQpn q.toRteMbuf 42 = .ok 0xffffff := by
  have room : (roceMbuf 288).Mapped 42 12 := roceMbuf_mapped 288 (by decide)
  obtain ⟨q, ran, fields, _, shown⟩ := bth_written room [.opcode 0x81, .becn true, .pkey 0xffff, .qpn 0x22, .resv6a, .resv7]
  rw [fields] at shown
  exact ⟨q, ran, shown.opcode, shown.fecn, shown.qpn⟩

/-! ## The header of a CNP -/

/-- The header of a CNP. -/
def cnpBth (q : BitVec 32) : Bth where
  opcode := cnpOpcode
  se := false
  mig := false
  pad := 0
  tver := 0
  pkey := 0xffff
  fecn := false
  becn := true
  resv6a := 0
  qpn := q.setWidth 24
  ack := false
  resv7 := 0
  psn := 0

theorem cnpBth_encode (q : BitVec 32) :
    (cnpBth q).encode = [0x81, 0x00, 0xff, 0xff, 0x40] ++ bigEndian 3 q ++ [0x00, 0x00, 0x00, 0x00] := by
  have flags : (cnpBth q).flags = 0x00#8 := show BitVec.ofBool false ++ BitVec.ofBool false ++ 0#2 ++ 0#4 = 0x00#8 by decide
  have pkey : bigEndian 2 (cnpBth q).pkey = [0xff, 0xff] := show bigEndian 2 0xffff#16 = [0xff, 0xff] by decide
  have qpn : (cnpBth q).qpnWord = 0x40#8 ++ q.extractLsb' 16 8 ++ q.extractLsb' 8 8 ++ q.extractLsb' 0 8 := by
    have upper : BitVec.ofBool false ++ BitVec.ofBool true ++ 0#6 = 0x40#8 := by decide
    rw [becn_join, ← upper]
    rfl
  have apsn : (cnpBth q).apsnWord = 0#32 := show BitVec.ofBool false ++ 0#7 ++ 0#24 = 0#32 by decide
  have zeros : bigEndian 4 0#32 = [0x00, 0x00, 0x00, 0x00] := by decide
  have low : bigEndian 3 q = [q.extractLsb' 16 8, q.extractLsb' 8 8, q.extractLsb' 0 8] := rfl
  rw [Bth.encode, flags, pkey, qpn, bigEndian_word, apsn, zeros, low]
  rfl

/-- Every getter on a completed CNP yields the field of `cnpBth`. -/
theorem cnp_header {append : Mbuf → Nat → Option (Nat × Mbuf)} (appends : Appends append)
    (crc : List (BitVec 8) → BitVec 32) {m e : Mbuf} (addressed : Addressed append m e) (q : BitVec 32) :
    ∃ g, ctcmGenerateCnp crc e q = .ok g ∧ (cnpBth q).Shown g.toRteMbuf (g.l2Len.toNat + 28) := by
  have room : (e.cnpFor crc q).Mapped (e.l2Len.toNat + 28) 12 := (addressed.mapped appends crc q).part (by decide)
  have bytes : (List.range 12).map (fun k => (e.cnpFor crc q).octet (e.l2Len.toNat + 28 + k)) = (cnpBth q).encode := by
    apply List.ext_getElem?
    intro j
    rw [getElem?_map_range, cnpBth_encode]
    by_cases inside : j < 12
    · rw [if_pos inside]
      by_cases number : 5 ≤ j ∧ j < 8
      · obtain ⟨k, rfl⟩ : ∃ k, j = 5 + k := ⟨j - 5, by omega⟩
        have place : e.l2Len.toNat + 28 + (5 + k) = e.l2Len.toNat + 33 + k := by omega
        have size : (bigEndian 3 q).length = 3 := length_bigEndian 3 q
        rw [place, Mbuf.cnpFor_qpn crc e q (by omega), List.append_assoc, List.getElem?_append_right (by simp),
          List.getElem?_append_left (by simp; omega), List.getD_eq_getElem?_getD, List.getElem?_eq_getElem (by simp; omega)]
        simp
      · rw [Nat.add_assoc, addressed.octet appends crc q (by omega)]
        have cases : j = 0 ∨ j = 1 ∨ j = 2 ∨ j = 3 ∨ j = 4 ∨ j = 8 ∨ j = 9 ∨ j = 10 ∨ j = 11 := by omega
        rcases cases with rfl | rfl | rfl | rfl | rfl | rfl | rfl | rfl | rfl <;> rfl
    · rw [if_neg inside, List.getElem?_eq_none (by simp; omega)]
  have shown := Bth.shown ((e.cnpFor crc q).bthAt (e.l2Len.toNat + 28)) room
  rw [Mbuf.put_bthAt room, Mbuf.bthAt, bytes, Bth.decode_encode] at shown
  exact ⟨_, addressed.toPrepared.generate appends crc addressed.holds q, shown⟩

end ConntrackCm
