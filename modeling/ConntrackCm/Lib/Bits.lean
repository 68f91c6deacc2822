import ConntrackCm.Lib.Bytes

/-!
# Bit fields in big-endian memory

Network formats number the bits of a message from the most significant bit of its first byte on
(`bitAt`), and a field is a range of such bits. Programs read and write it through a word: load some
bytes, mask and shift. `getLsbD_extract` and `bitAt_replace` say what this does in terms of the
range alone, whichever word was used: reading yields the bits of the range, and writing changes them
and no others.
-/

namespace ConntrackCm.Lib

/-! ## Words of several parts -/

section Parts

variable {a b c d : Nat} {x x' : BitVec a} {y y' : BitVec b} {z z' : BitVec c} {t t' : BitVec d}

theorem or_append_four :
    (x ++ y ++ z ++ t) ||| (x' ++ y' ++ z' ++ t') = (x ||| x') ++ (y ||| y') ++ (z ||| z') ++ (t ||| t') := by
  simp only [BitVec.or_append]

theorem and_append_four :
    (x ++ y ++ z ++ t) &&& (x' ++ y' ++ z' ++ t') = (x &&& x') ++ (y &&& y') ++ (z &&& z') ++ (t &&& t') := by
  simp only [BitVec.and_append]

theorem not_append_four : ~~~(x ++ y ++ z ++ t) = ~~~x ++ ~~~y ++ ~~~z ++ ~~~t := by
  simp only [BitVec.not_append]

variable (s v : Bool)

/-- Switching the first bit on or off. -/
theorem switch_first :
    (if v then (BitVec.ofBool s ++ y ++ z ++ t) ||| (BitVec.allOnes 1 ++ 0#b ++ 0#c ++ 0#d)
      else (BitVec.ofBool s ++ y ++ z ++ t) &&& ~~~(BitVec.allOnes 1 ++ 0#b ++ 0#c ++ 0#d)) =
      BitVec.ofBool v ++ y ++ z ++ t := by
  cases v with
  | false =>
    rw [if_neg (by decide), not_append_four, and_append_four]
    simp only [BitVec.not_zero, BitVec.not_allOnes, BitVec.and_allOnes, BitVec.and_zero]
    rfl
  | true =>
    rw [if_pos rfl, or_append_four]
    simp only [BitVec.or_zero, BitVec.or_allOnes]
    rfl

/-- Switching the second. -/
theorem switch_second {x : BitVec 1} :
    (if v then (x ++ BitVec.ofBool s ++ z ++ t) ||| (0#1 ++ BitVec.allOnes 1 ++ 0#c ++ 0#d)
      else (x ++ BitVec.ofBool s ++ z ++ t) &&& ~~~(0#1 ++ BitVec.allOnes 1 ++ 0#c ++ 0#d)) =
      x ++ BitVec.ofBool v ++ z ++ t := by
  cases v with
  | false =>
    rw [if_neg (by decide), not_append_four, and_append_four]
    simp only [BitVec.not_zero, BitVec.not_allOnes, BitVec.and_allOnes, BitVec.and_zero]
    rfl
  | true =>
    rw [if_pos rfl, or_append_four]
    simp only [BitVec.or_zero, BitVec.or_allOnes]
    rfl

end Parts

/-! ## Bits in memory -/

/-- Bit `p` of a memory. -/
def bitAt (m : Nat → BitVec 8) (p : Nat) : Bool := (m (p / 8)).getMsbD (p % 8)

/-- The word that some bytes make up, most significant first. -/
def beWord (bs : List (BitVec 8)) : BitVec 64 := bs.foldl (fun w b => w <<< 8 ||| b.setWidth 64) 0

section Words

variable {m m' : Nat → BitVec 8} {i n : Nat}

theorem bitAt_byte {q r : Nat} (small : r < 8) : bitAt m (8 * q + r) = (m q).getLsbD (7 - r) := by
  have byte : (8 * q + r) / 8 = q := by omega
  have bit : (8 * q + r) % 8 = r := by omega
  rw [bitAt, byte, bit, BitVec.getMsbD, decide_eq_true small, Bool.true_and]

/-- A load in terms of bits. -/
theorem getLsbD_beWord (fits : n ≤ 8) (j : Nat) : (beWord ((List.range n).map fun k => m (i + k))).getLsbD j =
    (decide (j < 8 * n) && bitAt m (8 * (i + n) - 1 - j)) := by
  induction n generalizing j with
  | zero => simp [beWord]
  | succ n ih =>
    have last : beWord ((List.range (n + 1)).map fun k => m (i + k)) =
        beWord ((List.range n).map fun k => m (i + k)) <<< 8 ||| (m (i + n)).setWidth 64 := by
      simp [beWord, List.range_succ]
    rw [last, BitVec.getLsbD_or, BitVec.getLsbD_shiftLeft, BitVec.getLsbD_setWidth, ih (by omega)]
    by_cases low : j < 8
    · have here : 8 * (i + (n + 1)) - 1 - j = 8 * (i + n) + (7 - j) := by omega
      have byte : 7 - (7 - j) = j := by omega
      rw [here, bitAt_byte (by omega), byte]
      simp [low, show j < 64 by omega, show j < 8 * (n + 1) by omega]
    · have there : 8 * (i + n) - 1 - (j - 8) = 8 * (i + (n + 1)) - 1 - j := by omega
      have upper : (m (i + n)).getLsbD j = false := BitVec.getLsbD_of_ge _ _ (by omega)
      rw [there, upper]
      by_cases inside : j < 8 * (n + 1)
      · simp [low, inside, show j < 64 by omega, show j - 8 < 8 * n by omega]
      · simp [inside, show ¬ j - 8 < 8 * n by omega]

/-- Four bytes are the word that concatenation makes of them. -/
theorem beWord_four (a b c d : BitVec 8) : beWord [a, b, c, d] = (a ++ b ++ c ++ d).setWidth 64 := by
  have first : (0 : BitVec 64) <<< 8 ||| a.setWidth 64 = a.setWidth 64 := by simp
  simp only [beWord, List.foldl_cons, List.foldl_nil, first, BitVec.setWidth_append_eq_shiftLeft_setWidth_or]

/-- A store of a word in terms of bits. -/
theorem bitAt_store {x : BitVec 64} (inside : ∀ k, k < n → m' (i + k) = (bigEndian n x).getD k 0)
    (outside : ∀ j, j < i ∨ i + n ≤ j → m' j = m j) (p : Nat) :
    bitAt m' p = if 8 * i ≤ p ∧ p < 8 * (i + n) then x.getLsbD (8 * (i + n) - 1 - p) else bitAt m p := by
  obtain ⟨q, r, small, rfl⟩ : ∃ q r, r < 8 ∧ p = 8 * q + r := ⟨p / 8, p % 8, by omega, by omega⟩
  rw [bitAt_byte small, bitAt_byte small]
  by_cases here : i ≤ q ∧ q < i + n
  · obtain ⟨k, rfl⟩ : ∃ k, q = i + k := ⟨q - i, by omega⟩
    have byte : (bigEndian n x).getD k 0 = x.extractLsb' (8 * (n - 1 - k)) 8 := by
      rw [bigEndian, littleEndian, ← List.map_reverse, List.getD_eq_getElem?_getD, List.getElem?_map,
        List.getElem?_reverse (by simp; omega), List.getElem?_range (by simp; omega)]
      simp
    have position : 8 * (n - 1 - k) + (7 - r) = 8 * (i + n) - 1 - (8 * (i + k) + r) := by omega
    rw [if_pos (by omega), inside k (by omega), byte, BitVec.getLsbD_extractLsb', position]
    simp [show 7 - r < 8 by omega]
  · rw [if_neg (by omega), outside q (by omega)]

end Words

/-- The mask has the bits `l` to `h`. -/
def IsMask (mask : BitVec 64) (h l : Nat) : Prop := ∀ k, k < 64 → mask.getLsbD k = decide (l ≤ k ∧ k ≤ h)

section Masks

variable {mask : BitVec 64} {h l : Nat} (masks : IsMask mask h l)
include masks

/-- Masking and shifting down. -/
theorem getLsbD_masked (w : BitVec 64) (j : Nat) :
    ((w &&& mask) >>> l).getLsbD j = (decide (l + j ≤ h) && w.getLsbD (l + j)) := by
  rw [BitVec.getLsbD_ushiftRight, BitVec.getLsbD_and]
  by_cases inside : l + j < 64
  · rw [masks (l + j) inside]
    by_cases low : l + j ≤ h <;> simp [low]
  · rw [BitVec.getLsbD_of_ge w (l + j) (by omega)]
    simp

/-- Putting a value in the place of the masked bits. -/
theorem getLsbD_replaced (w v : BitVec 64) {k : Nat} (inside : k < 64) :
    ((w &&& ~~~mask) ||| ((v <<< l) &&& mask)).getLsbD k = if l ≤ k ∧ k ≤ h then v.getLsbD (k - l) else w.getLsbD k := by
  rw [BitVec.getLsbD_or, BitVec.getLsbD_and, BitVec.getLsbD_and, BitVec.getLsbD_not, BitVec.getLsbD_shiftLeft, masks k inside]
  by_cases here : l ≤ k ∧ k ≤ h
  · simp [here, inside, show ¬ k < l by omega]
  · simp [here, inside]

end Masks

/-! ## Ranges of bits -/

section Ranges

variable {m m' : Nat → BitVec 8} {i n h l : Nat} {mask : BitVec 64} (masks : IsMask mask h l) (fits : n ≤ 8)
  (order : l ≤ h) (high : h < 8 * n)
include masks fits order high

/-- Reading a field yields the bits of its range. -/
theorem getLsbD_extract (j : Nat) :
    ((beWord ((List.range n).map fun k => m (i + k)) &&& mask) >>> l).getLsbD j =
      (decide (j < h + 1 - l) && bitAt m (8 * (i + n) - 1 - l - j)) := by
  have position : 8 * (i + n) - 1 - (l + j) = 8 * (i + n) - 1 - l - j := by omega
  rw [getLsbD_masked masks, getLsbD_beWord fits, position]
  by_cases inside : l + j ≤ h
  · simp [inside, show l + j < 8 * n by omega, show j < h + 1 - l by omega]
  · simp [inside, show ¬ j < h + 1 - l by omega]

/-- Writing a field changes the bits of its range. -/
theorem bitAt_replace {v : BitVec 64}
    (inside : ∀ k, k < n → m' (i + k) = (bigEndian n
      ((beWord ((List.range n).map fun k => m (i + k)) &&& ~~~mask) ||| ((v <<< l) &&& mask))).getD k 0)
    (outside : ∀ j, j < i ∨ i + n ≤ j → m' j = m j) (p : Nat) :
    bitAt m' p = if 8 * (i + n) - 1 - h ≤ p ∧ p < 8 * (i + n) - l then v.getLsbD (8 * (i + n) - 1 - l - p) else bitAt m p := by
  rw [bitAt_store inside outside]
  by_cases word : 8 * i ≤ p ∧ p < 8 * (i + n)
  · rw [if_pos word, getLsbD_replaced masks _ _ (by omega), getLsbD_beWord fits]
    have back : 8 * (i + n) - 1 - (8 * (i + n) - 1 - p) = p := by omega
    by_cases here : 8 * (i + n) - 1 - h ≤ p ∧ p < 8 * (i + n) - l
    · have position : 8 * (i + n) - 1 - p - l = 8 * (i + n) - 1 - l - p := by omega
      rw [if_pos (by omega), if_pos here, position]
    · rw [if_neg (by omega), if_neg here, back, decide_eq_true (by omega), Bool.true_and]
  · rw [if_neg word, if_neg (by omega)]

end Ranges

end ConntrackCm.Lib
