import ConntrackCm.Lib.Run

/-!
# States that no run tells apart

A program may reach one situation in states that differ in what nobody sees, such as names of
objects. `Bisimulation` says that related states take the same events, in related ways. Runs from
related states then agree to their end (`Bisimulation.run`), and an event that changes nothing when
it comes a second time may be repeated on the spot, anywhere and any number of times
(`Bisimulation.repeats`).
-/

namespace ConntrackCm.Lib

variable {ε α β S E : Type}

/-- Both computations fail, or their results are related. -/
def Corresponds (R : α → α → Prop) : Except ε α → Except ε α → Prop
  | .ok a, .ok b => R a b
  | .error _, .error _ => True
  | _, _ => False

section Corresponds

variable {R : α → α → Prop} {Q : β → β → Prop} {x y z : Except ε α}

theorem Corresponds.ok_iff (agree : Corresponds R x y) : (∃ a, x = .ok a) ↔ ∃ b, y = .ok b := by
  cases x <;> cases y <;> simp [Corresponds] at agree ⊢

theorem Corresponds.related {a b : α} (agree : Corresponds R x y) (left : x = .ok a) (right : y = .ok b) : R a b := by
  subst left right
  exact agree

theorem Corresponds.trans (trans : ∀ {a b c}, R a b → R b c → R a c) (first : Corresponds R x y) (second : Corresponds R y z) :
    Corresponds R x z := by
  cases x <;> cases y <;> cases z <;> simp [Corresponds] at first second ⊢
  exact trans first second

/-- Computations that agree are continued in the same way. -/
theorem Corresponds.bind {f g : α → Except ε β} (agree : Corresponds R x y)
    (rest : ∀ a b, x = .ok a → y = .ok b → R a b → Corresponds Q (f a) (g b)) : Corresponds Q (x >>= f) (y >>= g) := by
  cases x with
  | ok a =>
    cases y with
    | ok b => exact rest a b rfl rfl agree
    | error e => cases agree
  | error d =>
    cases y with
    | ok b => cases agree
    | error e => trivial

end Corresponds

/-- Related states take the same events. The relation is a partial equivalence: it may ask of both
states that they be well formed. -/
structure Bisimulation (step : S → E → Except ε S) (R : S → S → Prop) : Prop where
  symm : ∀ {s u}, R s u → R u s
  trans : ∀ {s u v}, R s u → R u v → R s v
  forth : ∀ {s u e s'}, R s u → step s e = .ok s' → ∃ u', step u e = .ok u' ∧ R s' u'

/-- The second list is the first one with some events that meet `P` repeated on the spot. -/
inductive Repeats (P : E → Prop) : List E → List E → Prop where
  | nil : Repeats P [] []
  | next {e : E} {es fs : List E} (rest : Repeats P es fs) : Repeats P (e :: es) (e :: fs)
  | again {e : E} {es fs : List E} (may : P e) (rest : Repeats P (e :: es) (e :: fs)) :
      Repeats P (e :: es) (e :: e :: fs)

namespace Bisimulation

variable {step : S → E → Except ε S} {R : S → S → Prop} (bi : Bisimulation step R)
include bi

theorem step_corresponds {s u : S} (related : R s u) (e : E) : Corresponds R (step s e) (step u e) := by
  cases left : step s e with
  | ok s' =>
    obtain ⟨u', right, after⟩ := bi.forth related left
    rw [right]
    exact after
  | error d =>
    cases right : step u e with
    | ok u' =>
      obtain ⟨s', back, _⟩ := bi.forth (bi.symm related) right
      rw [left] at back
      cases back
    | error d' => trivial

theorem run (es : List E) : ∀ {s u : S}, R s u → Corresponds R (Lib.run step s es) (Lib.run step u es) := by
  induction es with
  | nil => intro s u related; exact related
  | cons e es ih =>
    intro s u related
    rw [run_cons, run_cons]
    exact (bi.step_corresponds related e).bind fun _ _ _ _ after => ih after

/-- When a second copy right after the first one has no effect, copies are lost in every run. -/
theorem repeats {P : E → Prop}
    (again : ∀ {s e s'}, R s s → P e → step s e = .ok s' → ∃ s'', step s' e = .ok s'' ∧ R s' s'') {es fs : List E}
    (copies : Repeats P es fs) : ∀ {s u : S}, R s u → Corresponds R (Lib.run step s es) (Lib.run step u fs) := by
  induction copies with
  | nil => intro s u related; exact related
  | next _ ih =>
    intro s u related
    rw [run_cons, run_cons]
    exact (bi.step_corresponds related _).bind fun _ _ _ _ after => ih after
  | @again e es fs may _ ih =>
    intro s u related
    refine Corresponds.trans bi.trans (ih related) ?_
    rw [run_cons, run_cons]
    have self := bi.trans (bi.symm related) related
    refine (bi.step_corresponds self e).bind fun m m' first first' _ => ?_
    cases first.symm.trans first'
    obtain ⟨n, second, same⟩ := again self may first
    rw [run_cons, bind_of_ok second]
    exact bi.run fs same

end Bisimulation

end ConntrackCm.Lib
