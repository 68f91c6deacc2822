import ConntrackCm.Lib.Store

/-!
# Heaps seen from their roots

References are names: two heaps hold the same data when their roots see the same contents and
share objects in the same way, whatever the references are. `Alike` says this for the roots of
a part `on` of an index type. `Alike.update` is the rule for a change of one object together
with the roots that newly point to it, `Alike.clear` the one for roots that are removed, and
`Alike.frame` the one for changes elsewhere.
-/

namespace ConntrackCm.Lib

variable {I α : Type} {on : I → Prop} {a b a' b' : I → Option Ref} {h g h' g' : Ref → α} {s r : Ref}

/-- The roots `a` into `h` and the roots `b` into `g` see the same objects. -/
structure Alike (on : I → Prop) (a b : I → Option Ref) (h g : Ref → α) : Prop where
  same : ∀ i, on i → (a i).map h = (b i).map g
  shared : ∀ i j, on i → on j → (a i = a j ↔ b i = b j)

/-- The same roots point to `s` and to `r`. -/
def Paired (on : I → Prop) (a b : I → Option Ref) (s r : Ref) : Prop :=
  ∀ i, on i → (a i = some s ↔ b i = some r)

theorem Alike.refl (on : I → Prop) (a : I → Option Ref) (h : Ref → α) : Alike on a a h h :=
  ⟨fun _ _ => rfl, fun _ _ _ _ => Iff.rfl⟩

theorem Alike.symm (alike : Alike on a b h g) : Alike on b a g h :=
  ⟨fun i root => (alike.same i root).symm, fun i j rootI rootJ => (alike.shared i j rootI rootJ).symm⟩

theorem Alike.trans {c : I → Option Ref} {f : Ref → α} (first : Alike on a b h g) (second : Alike on b c g f) :
    Alike on a c h f :=
  ⟨fun i root => (first.same i root).trans (second.same i root),
    fun i j rootI rootJ => (first.shared i j rootI rootJ).trans (second.shared i j rootI rootJ)⟩

theorem Alike.none_iff (alike : Alike on a b h g) {i : I} (root : on i) : a i = none ↔ b i = none := by
  have same := alike.same i root
  cases left : a i <;> cases right : b i <;> simp [left, right] at same ⊢

/-- The object behind a root on one side has its counterpart on the other. -/
theorem Alike.find (alike : Alike on a b h g) {i : I} (root : on i) (found : a i = some s) :
    ∃ r, b i = some r ∧ h s = g r ∧ Paired on a b s r := by
  have same := alike.same i root
  rw [found] at same
  cases right : b i with
  | none => rw [right] at same; cases same
  | some r =>
    rw [right] at same
    refine ⟨r, rfl, Option.some.inj same, fun j other => ?_⟩
    have shared := alike.shared i j root other
    rw [found, right] at shared
    exact eq_comm.trans (shared.trans eq_comm)

/-- Objects that no root sees are paired. -/
theorem Paired.fresh (left : ∀ i, on i → a i ≠ some s) (right : ∀ i, on i → b i ≠ some r) : Paired on a b s r :=
  fun i root => iff_of_false (left i root) (right i root)

/-- One object changes on both sides, in the same way, and some roots are pointed to it. -/
theorem Alike.update (alike : Alike on a b h g) (paired : Paired on a b s r) (now : h' s = g' r)
    (left : ∀ o, o ≠ s → h' o = h o) (right : ∀ o, o ≠ r → g' o = g o)
    (roots : ∀ i, on i → (a' i = some s ∧ b' i = some r) ∨ (a' i = a i ∧ b' i = b i)) : Alike on a' b' h' g' := by
  constructor
  · intro i root
    rcases roots i root with ⟨newLeft, newRight⟩ | ⟨oldLeft, oldRight⟩
    · rw [newLeft, newRight, Option.map_some, Option.map_some, now]
    · rw [oldLeft, oldRight]
      cases found : a i with
      | none =>
        rw [(alike.none_iff root).mp found]
        rfl
      | some o =>
        obtain ⟨o', found', contents, _⟩ := alike.find root found
        rw [found', Option.map_some, Option.map_some]
        by_cases changed : o = s
        · have counterpart : o' = r := by
            have points := (paired i root).mp (changed ▸ found)
            exact Option.some.inj (found'.symm.trans points)
          rw [changed, counterpart, now]
        · have other : o' ≠ r := by
            intro counterpart
            have points := (paired i root).mpr (counterpart ▸ found')
            exact changed (Option.some.inj (found.symm.trans points))
          rw [left o changed, right o' other, contents]
  · intro i j rootI rootJ
    rcases roots i rootI with ⟨newLeft, newRight⟩ | ⟨oldLeft, oldRight⟩ <;>
      rcases roots j rootJ with ⟨newLeft', newRight'⟩ | ⟨oldLeft', oldRight'⟩
    · exact iff_of_true (newLeft.trans newLeft'.symm) (newRight.trans newRight'.symm)
    · rw [newLeft, newRight, oldLeft', oldRight']
      exact eq_comm.trans ((paired j rootJ).trans eq_comm)
    · rw [oldLeft, oldRight, newLeft', newRight']
      exact paired i rootI
    · rw [oldLeft, oldRight, oldLeft', oldRight']
      exact alike.shared i j rootI rootJ

theorem Paired.update (paired : Paired on a b s r)
    (roots : ∀ i, on i → (a' i = some s ∧ b' i = some r) ∨ (a' i = a i ∧ b' i = b i)) : Paired on a' b' s r := by
  intro i root
  rcases roots i root with ⟨newLeft, newRight⟩ | ⟨oldLeft, oldRight⟩
  · exact iff_of_true newLeft newRight
  · rw [oldLeft, oldRight]
    exact paired i root

/-- The same roots are removed on both sides. -/
theorem Alike.clear (alike : Alike on a b h g)
    (roots : ∀ i, on i → (a' i = none ∧ b' i = none) ∨ (a' i = a i ∧ b' i = b i)) : Alike on a' b' h g := by
  constructor
  · intro i root
    rcases roots i root with ⟨goneLeft, goneRight⟩ | ⟨oldLeft, oldRight⟩
    · rw [goneLeft, goneRight]
      rfl
    · rw [oldLeft, oldRight]
      exact alike.same i root
  · intro i j rootI rootJ
    rcases roots i rootI with ⟨goneLeft, goneRight⟩ | ⟨oldLeft, oldRight⟩ <;>
      rcases roots j rootJ with ⟨goneLeft', goneRight'⟩ | ⟨oldLeft', oldRight'⟩
    · exact iff_of_true (goneLeft.trans goneLeft'.symm) (goneRight.trans goneRight'.symm)
    · rw [goneLeft, goneRight, oldLeft', oldRight']
      exact eq_comm.trans ((alike.none_iff rootJ).trans eq_comm)
    · rw [oldLeft, oldRight, goneLeft', goneRight']
      exact alike.none_iff rootI
    · rw [oldLeft, oldRight, oldLeft', oldRight']
      exact alike.shared i j rootI rootJ

/-- The left side changes where none of the roots looks. -/
theorem Alike.frame (alike : Alike on a b h g) (roots : ∀ i, on i → a' i = a i)
    (objects : ∀ i o, on i → a i = some o → h' o = h o) : Alike on a' b h' g := by
  constructor
  · intro i root
    rw [roots i root, ← alike.same i root]
    cases found : a i with
    | none => rfl
    | some o => rw [Option.map_some, Option.map_some, objects i o root found]
  · intro i j rootI rootJ
    rw [roots i rootI, roots j rootJ]
    exact alike.shared i j rootI rootJ

end ConntrackCm.Lib
