import Mathlib.Logic.Basic
import Mathlib.Tactic.SplitIfs

/-!
# Bytes in memory

A memory is a partial function of the offset. `overlay` stores a list of values from an offset
on, `splice` does the same in a list, and `getElem?_splice` says that the two agree, so that a
copy of a part of memory can be patched as the memory itself is. Words are stored byte by byte,
least significant first (`littleEndian`) or last (`bigEndian`).
-/

namespace ConntrackCm.Lib

section Overlay

variable {α : Type} {m : Nat → Option α} {i j k : Nat} {bs cs : List α}

/-- The memory `m` with the values `bs` from `i` on. -/
def overlay (m : Nat → Option α) (i : Nat) (bs : List α) : Nat → Option α :=
  fun j => if i ≤ j ∧ j < i + bs.length then bs[j - i]? else m j

theorem overlay_inside (inside : k < bs.length) : overlay m i bs (i + k) = bs[k]? := by
  have here : i ≤ i + k ∧ i + k < i + bs.length := by omega
  rw [overlay, if_pos here, Nat.add_sub_cancel_left]

theorem overlay_outside (outside : j < i ∨ i + bs.length ≤ j) : overlay m i bs j = m j := by
  have away : ¬ (i ≤ j ∧ j < i + bs.length) := by omega
  rw [overlay, if_neg away]

/-- What a store covers does not count. -/
theorem overlay_congr {m' : Nat → Option α} (same : ∀ j, j < i ∨ i + bs.length ≤ j → m j = m' j) :
    overlay m i bs = overlay m' i bs := by
  funext j
  by_cases inside : i ≤ j ∧ j < i + bs.length
  · rw [overlay, overlay, if_pos inside, if_pos inside]
  · rw [overlay, overlay, if_neg inside, if_neg inside, same j (by omega)]

/-- A store into memory that is there maps nothing new. -/
theorem isSome_overlay (there : ∀ k, k < bs.length → (m (i + k)).isSome = true) (j : Nat) :
    (overlay m i bs j).isSome = (m j).isSome := by
  by_cases inside : i ≤ j ∧ j < i + bs.length
  · have mapped := there (j - i) (by omega)
    rw [Nat.add_sub_cancel' inside.1] at mapped
    rw [overlay, if_pos inside, mapped, List.getElem?_eq_getElem (by omega)]
    rfl
  · rw [overlay, if_neg inside]

/-- A store of what is already there changes nothing. -/
theorem overlay_own (own : ∀ k, k < bs.length → m (i + k) = bs[k]?) : overlay m i bs = m := by
  funext j
  by_cases inside : i ≤ j ∧ j < i + bs.length
  · obtain ⟨k, rfl⟩ : ∃ k, j = i + k := ⟨j - i, by omega⟩
    rw [overlay_inside (by omega), own k (by omega)]
  · rw [overlay_outside (by omega)]

theorem overlay_cons {b : α} : overlay m i (b :: bs) = overlay (overlay m i [b]) (i + 1) bs := by
  funext j
  simp only [overlay, List.length_cons, List.length_nil]
  by_cases head : j = i
  · rw [if_pos (by omega), if_neg (by omega), if_pos (by omega), head, Nat.sub_self]
    rfl
  · by_cases tail : i + 1 ≤ j ∧ j < i + 1 + bs.length
    · have next : j - i = j - (i + 1) + 1 := by omega
      rw [if_pos (by omega), if_pos tail, next, List.getElem?_cons_succ]
    · rw [if_neg (by omega), if_neg tail, if_neg (by omega)]

/-- The list `bs` with the values `cs` from `i` on. -/
def splice (bs : List α) (i : Nat) (cs : List α) : List α := bs.take i ++ cs ++ bs.drop (i + cs.length)

theorem length_splice (inside : i + cs.length ≤ bs.length) : (splice bs i cs).length = bs.length := by
  simp only [splice, List.length_append, List.length_take, List.length_drop]
  omega

/-- A list is patched as memory is. -/
theorem getElem?_splice (inside : i + cs.length ≤ bs.length) (j : Nat) :
    (splice bs i cs)[j]? = overlay (fun k => bs[k]?) i cs j := by
  have front : (bs.take i).length = i := by
    rw [List.length_take]
    omega
  unfold splice
  by_cases before : j < i
  · rw [List.append_assoc, List.getElem?_append_left (by omega), overlay_outside (Or.inl before),
      List.getElem?_take_of_lt before]
  · by_cases within : j < i + cs.length
    · have here : i ≤ j ∧ j < i + cs.length := by omega
      rw [List.append_assoc, List.getElem?_append_right (by omega), front, List.getElem?_append_left (by omega), overlay,
        if_pos here]
    · rw [List.getElem?_append_right (by rw [List.length_append]; omega), List.length_append, front, List.getElem?_drop,
        overlay_outside (by omega)]
      congr 1
      omega

/-- A store inside an earlier one patches what the earlier one stored. -/
theorem overlay_within (inside : k + cs.length ≤ bs.length) :
    overlay (overlay m i bs) (i + k) cs = overlay m i (splice bs k cs) := by
  funext j
  by_cases first : i ≤ j ∧ j < i + bs.length
  · obtain ⟨d, rfl⟩ : ∃ d, j = i + d := ⟨j - i, by omega⟩
    rw [overlay_inside (by rw [length_splice inside]; omega), getElem?_splice inside]
    by_cases second : k ≤ d ∧ d < k + cs.length
    · obtain ⟨e, rfl⟩ : ∃ e, d = k + e := ⟨d - k, by omega⟩
      rw [← Nat.add_assoc, overlay_inside (by omega), overlay_inside (by omega)]
    · have away : i + d < i + k ∨ i + k + cs.length ≤ i + d := by omega
      have outside : d < k ∨ k + cs.length ≤ d := by omega
      rw [overlay_outside away, overlay_outside outside, overlay_inside (by omega)]
  · rw [overlay_outside (by omega), overlay_outside (by omega), overlay_outside (by rw [length_splice inside]; omega)]

/-- Of a patch whose tail is already there only the head counts. -/
theorem splice_cons {b : α} (inside : i + (cs.length + 1) ≤ bs.length)
    (own : ∀ k, k < cs.length → bs[i + 1 + k]? = cs[k]?) : splice bs i (b :: cs) = splice bs i [b] := by
  have fits : i + (b :: cs).length ≤ bs.length := inside
  have short : i + [b].length ≤ bs.length := by
    simp only [List.length_cons, List.length_nil]
    omega
  apply List.ext_getElem?
  intro j
  rw [getElem?_splice fits, getElem?_splice short, overlay_cons, overlay_own]
  intro k hk
  rw [overlay_outside (by simp only [List.length_cons, List.length_nil]; omega), own k hk]

theorem getElem?_map_range (f : Nat → α) (n j : Nat) :
    ((List.range n).map f)[j]? = if j < n then some (f j) else none := by
  by_cases h : j < n <;> simp [h]

/-- A constant patch of a tabulated list. -/
theorem splice_replicate {f : Nat → α} {n : Nat} {b : α} (inside : i + k ≤ n) :
    splice ((List.range n).map f) i (List.replicate k b) =
      (List.range n).map fun j => if i ≤ j ∧ j < i + k then b else f j := by
  have fits : i + (List.replicate k b).length ≤ ((List.range n).map f).length := by simpa using inside
  apply List.ext_getElem?
  intro j
  rw [getElem?_splice fits, getElem?_map_range, overlay, List.length_replicate]
  by_cases here : i ≤ j ∧ j < i + k
  · rw [if_pos here, if_pos here, if_pos (by omega), List.getElem?_replicate, if_pos (by omega)]
  · rw [if_neg here, if_neg here, getElem?_map_range]

end Overlay

section Words

variable {w : Nat}

/-- The low `n` bytes of a word, least significant first. -/
def littleEndian (n : Nat) (x : BitVec w) : List (BitVec 8) := (List.range n).map fun k => x.extractLsb' (8 * k) 8

/-- The low `n` bytes of a word, most significant first. -/
def bigEndian (n : Nat) (x : BitVec w) : List (BitVec 8) := (littleEndian n x).reverse

@[simp] theorem length_littleEndian (n : Nat) (x : BitVec w) : (littleEndian n x).length = n := by
  simp [littleEndian]

@[simp] theorem length_bigEndian (n : Nat) (x : BitVec w) : (bigEndian n x).length = n := by
  simp [bigEndian]

/-- Only the low bytes count. -/
theorem littleEndian_setWidth {n v : Nat} (fits : 8 * n ≤ v) (x : BitVec w) :
    littleEndian n (x.setWidth v) = littleEndian n x := by
  apply List.map_congr_left
  intro k hk
  have inside : k < n := List.mem_range.mp hk
  ext i hi
  have low : 8 * k + i < v := by omega
  simp only [BitVec.getElem_extractLsb', BitVec.getLsbD_setWidth, low, decide_true, Bool.true_and]

theorem bigEndian_setWidth {n v : Nat} (fits : 8 * n ≤ v) (x : BitVec w) :
    bigEndian n (x.setWidth v) = bigEndian n x :=
  congrArg List.reverse (littleEndian_setWidth fits x)

theorem littleEndian_append (n : Nat) (x : BitVec w) (b : BitVec 8) :
    littleEndian (n + 1) (x ++ b) = b :: littleEndian n x := by
  have low : (x ++ b).extractLsb' 0 8 = b := by
    ext i hi
    simp [BitVec.getLsbD_append, hi]
  have high : ∀ k, (x ++ b).extractLsb' (8 * (k + 1)) 8 = x.extractLsb' (8 * k) 8 := by
    intro k
    ext i hi
    have above : ¬ 8 * (k + 1) + i < 8 := by omega
    have shifted : 8 * (k + 1) + i - 8 = 8 * k + i := by omega
    simp [BitVec.getLsbD_append, above, shifted]
  simp only [littleEndian, List.range_succ_eq_map, List.map_cons, List.map_map, Function.comp_def, Nat.mul_zero,
    Nat.succ_eq_add_one, low, high]

theorem bigEndian_append (n : Nat) (x : BitVec w) (b : BitVec 8) :
    bigEndian (n + 1) (x ++ b) = bigEndian n x ++ [b] := by
  rw [bigEndian, littleEndian_append, List.reverse_cons]
  rfl

/-- The bytes a big-endian word was read from. -/
theorem bigEndian_word (a b c d : BitVec 8) : bigEndian 4 (a ++ b ++ c ++ d) = [a, b, c, d] := by
  have first : bigEndian 1 a = [a] := by simp [bigEndian, littleEndian]
  rw [bigEndian_append, bigEndian_append, bigEndian_append, first]
  rfl

/-! The bytes of a word joined again. -/

theorem join_four (x : BitVec 32) :
    x.extractLsb' 24 8 ++ x.extractLsb' 16 8 ++ x.extractLsb' 8 8 ++ x.extractLsb' 0 8 = x := by
  ext k hk
  rw [← BitVec.getLsbD_eq_getElem (x := x) hk]
  simp only [BitVec.getElem_append, BitVec.getElem_extractLsb']
  split_ifs <;> congr 1 <;> omega

theorem join_two (x : BitVec 16) : x.extractLsb' 8 8 ++ x.extractLsb' 0 8 = x := by
  ext k hk
  rw [← BitVec.getLsbD_eq_getElem (x := x) hk]
  simp only [BitVec.getElem_append, BitVec.getElem_extractLsb']
  split_ifs <;> congr 1 <;> omega

/-! Masks act byte by byte. -/

theorem bigEndian_and (n : Nat) (x y : BitVec w) :
    bigEndian n (x &&& y) = List.zipWith (· &&& ·) (bigEndian n x) (bigEndian n y) := by
  simp only [bigEndian, littleEndian, BitVec.extractLsb'_and]
  rw [← List.map_reverse, ← List.map_reverse, ← List.map_reverse, List.zipWith_map, List.zipWith_self]

theorem bigEndian_or (n : Nat) (x y : BitVec w) :
    bigEndian n (x ||| y) = List.zipWith (· ||| ·) (bigEndian n x) (bigEndian n y) := by
  simp only [bigEndian, littleEndian, BitVec.extractLsb'_or]
  rw [← List.map_reverse, ← List.map_reverse, ← List.map_reverse, List.zipWith_map, List.zipWith_self]

theorem ones_and (x : BitVec 8) : 255#8 &&& x = x := BitVec.allOnes_and

end Words

end ConntrackCm.Lib
