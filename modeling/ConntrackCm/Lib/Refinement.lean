import ConntrackCm.Lib.Run
import Mathlib.Data.Set.Function

/-!
# Refinement of a relation by a fallible step

An abstract system is a relation `R a e b` between its states, and `Runs` chains it over a list of
events. A program refines it exactly (`Refines`) when, from every state that meets the invariant, it
succeeds in just the ways the relation allows, up to an abstraction of its state; `P` singles out
the steps the relation speaks about. `Refines.runs_iff` carries this over to whole runs, so that an
abstract run is at the same time a proof that the program does not fail.

When the abstract system is a program itself, the two run side by side, faults included
(`run_view`).

The last part is about abstractions that forget references: a set of references, each with an
object behind it, becomes the set of the objects.
-/

namespace ConntrackCm.Lib

variable {ε S E A : Type}

/-- Runs of the system `R`. -/
inductive Runs (R : A → E → A → Prop) : A → List E → A → Prop where
  | nil (a : A) : Runs R a [] a
  | cons {a b c : A} {e : E} {es : List E} (now : R a e b) (rest : Runs R b es c) : Runs R a (e :: es) c

/-- The program `step` does what `R` allows and nothing else. -/
structure Refines (step : S → E → Except ε S) (I : S → Prop) (P : S → E → Prop) (abs : S → A)
    (R : A → E → A → Prop) : Prop where
  keep : ∀ s e s', I s → P s e → step s e = .ok s' → I s'
  exact_step : ∀ s e a, I s → (R (abs s) e a ↔ ∃ s', step s e = .ok s' ∧ P s e ∧ abs s' = a)

section Refines

variable {step : S → E → Except ε S} {I : S → Prop} {P : S → E → Prop} {abs : S → A} {R : A → E → A → Prop}

/-- A refined system and its program have the same runs. -/
theorem Refines.runs_iff (h : Refines step I P abs R) {es : List E} :
    ∀ {s : S} {a : A}, I s → (Runs R (abs s) es a ↔ ∃ s', run step s es = .ok s' ∧ Along step P s es ∧ abs s' = a) := by
  induction es with
  | nil =>
    intro s a _
    constructor
    · intro runs
      cases runs
      exact ⟨s, rfl, trivial, rfl⟩
    · rintro ⟨s', ran, _, rfl⟩
      cases ran
      exact .nil _
  | cons e es ih =>
    intro s a inv
    constructor
    · intro runs
      cases runs with
      | cons now rest =>
        obtain ⟨m, stepped, met, rfl⟩ := (h.exact_step s e _ inv).mp now
        obtain ⟨s', ran, along, last⟩ := (ih (h.keep s e m inv met stepped)).mp rest
        refine ⟨s', by rw [run_cons, bind_of_ok stepped, ran], ⟨met, fun m' stepped' => ?_⟩, last⟩
        cases stepped.symm.trans stepped'
        exact along
    · rintro ⟨s', ran, along, last⟩
      rw [run_cons] at ran
      obtain ⟨m, stepped, rest⟩ := bind_ok ran
      have now := (h.exact_step s e _ inv).mpr ⟨m, stepped, along.1, rfl⟩
      exact .cons now ((ih (h.keep s e m inv along.1 stepped)).mpr ⟨s', rest, along.2 m stepped, last⟩)

end Refines

/-! ## Programs seen through a view -/

section View

variable {α β γ δ : Type}

theorem map_bind_view {x : Except ε α} {f : α → Except ε γ} {g : γ → δ} {v : α → β} {h : β → Except ε δ}
    (each : ∀ a, (f a).map g = h (v a)) : (x >>= f).map g = x.map v >>= h := by
  cases x with
  | error e => rfl
  | ok a => exact each a

theorem map_bind_same {x : Except ε α} {f : α → Except ε γ} {g : γ → δ} {h : α → Except ε δ}
    (each : ∀ a, (f a).map g = h a) : (x >>= f).map g = x >>= h := by
  cases x with
  | error e => rfl
  | ok a => exact each a

/-- A program whose every step looks like a step of another runs like it, and fails like it. -/
theorem run_view {step : S → E → Except ε S} {step' : A → E → Except ε A} {I : S → Prop} {view : S → A} {es : List E}
    (keep : ∀ s e s', e ∈ es → I s → step s e = .ok s' → I s')
    (each : ∀ s e, e ∈ es → I s → (step s e).map view = step' (view s) e) :
    ∀ s, I s → (run step s es).map view = run step' (view s) es := by
  induction es with
  | nil => intro s _; rfl
  | cons e es ih =>
    intro s inv
    have now := each s e List.mem_cons_self inv
    have tail := ih (fun s e s' member => keep s e s' (List.mem_cons_of_mem _ member))
      (fun s e member => each s e (List.mem_cons_of_mem _ member))
    rw [run_cons, run_cons, ← now]
    cases stepped : step s e with
    | error f => rfl
    | ok m => exact tail m (keep s e m List.mem_cons_self inv stepped)

end View

/-! ## Objects without their references -/

section Values

variable {ι α : Type} {held held' : Set ι} {f g : ι → α} {s : ι}

/-- The set with `b` in the place of `a`. -/
def replace (C : Set α) (a b : α) : Set α := insert b (C \ {a})

theorem mem_replace {C : Set α} {a b c : α} : c ∈ replace C a b ↔ c = b ∨ (c ∈ C ∧ c ≠ a) := Iff.rfl

/-- One object changes. -/
theorem image_update (here : s ∈ held) (inj : Set.InjOn f held) (others : ∀ r ∈ held, r ≠ s → g r = f r) :
    g '' held = replace (f '' held) (f s) (g s) := by
  ext a
  rw [mem_replace]
  constructor
  · rintro ⟨r, there, rfl⟩
    by_cases same : r = s
    · exact Or.inl (same ▸ rfl)
    · rw [others r there same]
      exact Or.inr ⟨⟨r, there, rfl⟩, fun equal => same (inj there here equal)⟩
  · rintro (rfl | ⟨⟨r, there, rfl⟩, other⟩)
    · exact ⟨s, here, rfl⟩
    · have apart : r ≠ s := by
        rintro rfl
        exact other rfl
      exact ⟨r, there, others r there apart⟩

/-- One object is taken out. -/
theorem image_remove (here : s ∈ held) (inj : Set.InjOn f held) (gone : ∀ r, r ∈ held' ↔ r ∈ held ∧ r ≠ s)
    (others : ∀ r ∈ held, r ≠ s → g r = f r) : g '' held' = f '' held \ {f s} := by
  ext a
  constructor
  · rintro ⟨r, there, rfl⟩
    obtain ⟨old, other⟩ := (gone r).mp there
    rw [others r old other]
    exact ⟨⟨r, old, rfl⟩, fun equal => other (inj old here equal)⟩
  · rintro ⟨⟨r, old, rfl⟩, other⟩
    have apart : r ≠ s := by
      rintro rfl
      exact other rfl
    exact ⟨r, (gone r).mpr ⟨old, apart⟩, others r old apart⟩

/-- One object is added. -/
theorem image_add (new : ∀ r, r ∈ held' ↔ r = s ∨ r ∈ held) (others : ∀ r ∈ held, g r = f r) :
    g '' held' = insert (g s) (f '' held) := by
  ext a
  constructor
  · rintro ⟨r, there, rfl⟩
    rcases (new r).mp there with rfl | old
    · exact Or.inl rfl
    · exact Or.inr ⟨r, old, (others r old).symm⟩
  · rintro (rfl | ⟨r, old, rfl⟩)
    · exact ⟨s, (new s).mpr (Or.inl rfl), rfl⟩
    · exact ⟨r, (new r).mpr (Or.inr old), others r old⟩

end Values

end ConntrackCm.Lib
