import Mathlib.Data.List.Induction
import Mathlib.Data.List.Forall2
import Mathlib.Logic.Function.Basic

/-!
# Fallible steps and their runs

A step is `S → E → Except ε S`: it reads one event and either fails or yields the next
state. `run` folds a step over a list of events and stops at the first failure. The rules
here are what proofs about such programs use: peel one monadic bind (`bind_ok`), carry an
invariant that may mention the events read so far (`run_invariant`) or that holds while each
step meets a condition (`Along`), tell from the events since when a fact holds (`run_since`),
follow an automaton (`run_phases`), project a run on a part of its events (`run_filter`) or on one
of several machines (`run_stepAt`), and say that some events occurred in a given order (`Occurs`).
-/

namespace ConntrackCm.Lib

variable {ε α β S E U : Type}

/-- A runtime assertion: nothing happens when `c` holds, else the program stops with `e`. -/
def check (c : Prop) [Decidable c] (e : ε) : Except ε Unit :=
  if c then .ok () else .error e

theorem check_pos {c : Prop} [Decidable c] {e : ε} (h : c) : check c e = .ok () := if_pos h

theorem check_neg {c : Prop} [Decidable c] {e : ε} (h : ¬ c) : check c e = .error e := if_neg h

/-- A sequence that succeeds, cut after its first computation. -/
theorem bind_ok {x : Except ε α} {f : α → Except ε β} {b : β} (h : x >>= f = .ok b) :
    ∃ a, x = .ok a ∧ f a = .ok b := by
  cases x with
  | error e => cases h
  | ok a => exact ⟨a, rfl, h⟩

theorem map_ok {x : Except ε α} {f : α → β} {b : β} (h : x.map f = .ok b) : ∃ a, x = .ok a ∧ f a = b := by
  cases x with
  | error e => cases h
  | ok a => exact ⟨a, rfl, Except.ok.inj h⟩

theorem map_error {x : Except ε α} {f : α → β} {e : ε} (h : x.map f = .error e) : x = .error e := by
  cases x with
  | error e' => exact congrArg Except.error (Except.error.inj h)
  | ok a => cases h

theorem bind_of_ok {x : Except ε α} {f : α → Except ε β} {a : α} (h : x = .ok a) : x >>= f = f a := by
  rw [h]; rfl

theorem bind_of_error {x : Except ε α} {f : α → Except ε β} {e : ε} (h : x = .error e) :
    x >>= f = .error e := by
  rw [h]; rfl

/-- The result, if there is one, passes the test. -/
def allOk (p : α → Bool) : Except ε α → Bool
  | .ok a => p a
  | .error _ => true

theorem allOk_iff {x : Except ε α} {p : α → Bool} : allOk p x = true ↔ ∀ a, x = .ok a → p a = true := by
  cases x <;> simp [allOk]

/-- Process the events in order, stopping at the first failure. -/
def run (step : S → E → Except ε S) (s : S) (es : List E) : Except ε S := es.foldlM step s

variable {step : S → E → Except ε S}

theorem run_cons (s : S) (e : E) (es : List E) : run step s (e :: es) = step s e >>= fun s' => run step s' es := rfl

theorem run_append (s : S) (es fs : List E) :
    run step s (es ++ fs) = run step s es >>= fun s' => run step s' fs := List.foldlM_append

theorem run_map {F : Type} (f : F → E) (s : S) (es : List F) :
    run step s (es.map f) = run (fun s e => step s (f e)) s es := List.foldlM_map

theorem run_snoc_ok {s s' : S} {es : List E} {e : E} (h : run step s (es ++ [e]) = .ok s') :
    ∃ m, run step s es = .ok m ∧ step m e = .ok s' := by
  rw [run_append] at h
  obtain ⟨m, before, last⟩ := bind_ok h
  rw [run_cons] at last
  obtain ⟨m', now, rest⟩ := bind_ok last
  cases rest
  exact ⟨m, before, now⟩

/-- A run that only fails at its end fails in its last event. -/
theorem run_snoc_error {s m : S} {es : List E} {e : E} {f : ε} (before : run step s es = .ok m)
    (h : run step s (es ++ [e]) = .error f) : step m e = .error f := by
  rw [run_append, bind_of_ok before, run_cons] at h
  cases last : step m e with
  | ok s' => rw [bind_of_ok last] at h; cases h
  | error f' => rwa [bind_of_error last] at h

/-- Observations before and after the last event of a run. -/
theorem run_observe {s : S} {es : List E} {e : E} {f : S → α} {g : S → β} {a : α} {b : β}
    (before : (run step s es).map f = .ok a) (after : (run step s (es ++ [e])).map g = .ok b) :
    ∃ m m', run step s es = .ok m ∧ f m = a ∧ step m e = .ok m' ∧ g m' = b := by
  obtain ⟨m', whole, observed'⟩ := map_ok after
  obtain ⟨m, ran, last⟩ := run_snoc_ok whole
  rw [ran] at before
  exact ⟨m, m', ran, Except.ok.inj before, last, observed'⟩

/-- A fact about the events read so far and the state they led to, true at the start and
kept by each step, holds after every run. -/
theorem run_invariant {I : List E → S → Prop} {s : S} (start : I [] s)
    (keep : ∀ pre m e m', run step s pre = .ok m → I pre m → step m e = .ok m' → I (pre ++ [e]) m') :
    ∀ {es s'}, run step s es = .ok s' → I es s' := by
  intro es
  induction es using List.reverseRecOn with
  | nil => intro s' h; cases h; exact start
  | append_singleton es e ih =>
    intro s' h
    obtain ⟨m, before, now⟩ := run_snoc_ok h
    exact keep es m e s' before (ih before) now

/-- A program that follows an automaton: each event moves the state to the next phase, and no
event fails. -/
theorem run_phases {P : Type} {At : P → S → Prop} {next : P → E → P}
    (follow : ∀ p s e, At p s → ∃ s', step s e = .ok s' ∧ At (next p e) s') (es : List E) :
    ∀ {p s}, At p s → ∃ s', run step s es = .ok s' ∧ At (es.foldl next p) s' := by
  induction es with
  | nil => intro p s here; exact ⟨s, rfl, here⟩
  | cons e es ih =>
    intro p s here
    obtain ⟨m, now, there⟩ := follow p s e here
    obtain ⟨s', rest, last⟩ := ih there
    exact ⟨s', by rw [run_cons, bind_of_ok now, rest], last⟩

/-- States some run from `s` leads to. -/
def Reachable (step : S → E → Except ε S) (s s' : S) : Prop := ∃ es, run step s es = .ok s'

/-- The invariant rule for facts that only mention the state. -/
theorem Reachable.invariant {I : S → Prop} {s : S} (start : I s)
    (keep : ∀ m e m', I m → step m e = .ok m' → I m') {s' : S} (h : Reachable step s s') : I s' := by
  obtain ⟨es, ran⟩ := h
  exact run_invariant (I := fun _ m => I m) start (fun _ m e m' _ => keep m e m') ran

/-- `P` holds of every event of a run and the state it meets, up to the first failure. -/
def Along (step : S → E → Except ε S) (P : S → E → Prop) : S → List E → Prop
  | _, [] => True
  | s, e :: es => P s e ∧ ∀ s', step s e = .ok s' → Along step P s' es

/-- An invariant that holds as long as every step meets a condition. -/
theorem Along.invariant {P : S → E → Prop} {I : S → Prop}
    (keep : ∀ m e m', I m → P m e → step m e = .ok m' → I m') {es : List E} :
    ∀ {s s'}, I s → Along step P s es → run step s es = .ok s' → I s' := by
  induction es with
  | nil => intro s s' start _ h; cases h; exact start
  | cons e es ih =>
    intro s s' start along h
    rw [run_cons] at h
    obtain ⟨m, now, rest⟩ := bind_ok h
    exact ih (keep s e m start along.1 now) (along.2 m now) rest

/-- A condition on events alone holds along every run of such events. -/
theorem along_of_forall {P : S → E → Prop} {es : List E} (all : ∀ e ∈ es, ∀ m, P m e) : ∀ s, Along step P s es := by
  induction es with
  | nil => intro s; trivial
  | cons e es ih =>
    intro s
    exact ⟨all e List.mem_cons_self s, fun m _ => ih (fun e' member => all e' (List.mem_cons_of_mem _ member)) m⟩

theorem along_snoc {P : S → E → Prop} {es : List E} {e : E} :
    ∀ {s s' : S}, run step s es = .ok s' → (Along step P s (es ++ [e]) ↔ Along step P s es ∧ P s' e) := by
  induction es with
  | nil =>
    intro s s' ran
    cases ran
    exact ⟨fun along => ⟨trivial, along.1⟩, fun both => ⟨both.2, fun _ _ => trivial⟩⟩
  | cons f es ih =>
    intro s s' ran
    rw [run_cons] at ran
    obtain ⟨m, now, rest⟩ := bind_ok ran
    constructor
    · intro along
      obtain ⟨before, last⟩ := (ih rest).mp (along.2 m now)
      refine ⟨⟨along.1, fun m' now' => ?_⟩, last⟩
      cases now.symm.trans now'
      exact before
    · rintro ⟨before, last⟩
      refine ⟨before.1, fun m' now' => ?_⟩
      cases now.symm.trans now'
      exact (ih rest).mpr ⟨before.2 m now, last⟩

/-- **Since.** A fact that events with `B` bring about and events with `D` end, and that nothing else
touches, holds after a run exactly when an event brought it about and none has ended it since. -/
theorem run_since {I F : S → Prop} {B D : S → E → Prop} {s : S} (start : I s) (never : ¬ F s)
    (keep : ∀ m e m', I m → step m e = .ok m' → I m' ∧ (F m' ↔ B m e ∨ (F m ∧ ¬ D m e))) {es : List E} :
    ∀ {s'}, run step s es = .ok s' →
      (F s' ↔ ∃ pre e post m m', es = pre ++ e :: post ∧ run step s pre = .ok m ∧ step m e = .ok m' ∧
        B m e ∧ Along step (fun n e => ¬ D n e) m' post) := by
  have inv : ∀ {es : List E} {s' : S}, run step s es = .ok s' → I s' :=
    run_invariant (I := fun _ m => I m) start fun _ m e m' _ im now => (keep m e m' im now).1
  induction es using List.reverseRecOn with
  | nil =>
    intro s' ran
    cases ran
    refine iff_of_false never ?_
    rintro ⟨pre, e, post, _, _, cut, _⟩
    exact List.append_ne_nil_of_right_ne_nil pre (List.cons_ne_nil e post) cut.symm
  | append_singleton es f ih =>
    intro s' ran
    obtain ⟨m, before, now⟩ := run_snoc_ok ran
    rw [(keep m f s' (inv before) now).2, ih before]
    constructor
    · rintro (begins | ⟨⟨pre, e, post, n, n', rfl, reached, stepped, begins, lasted⟩, going⟩)
      · exact ⟨es, f, [], m, s', rfl, before, now, begins, trivial⟩
      · refine ⟨pre, e, post ++ [f], n, n', by simp, reached, stepped, begins, ?_⟩
        rw [run_append, bind_of_ok reached, run_cons, bind_of_ok stepped] at before
        exact (along_snoc before).mpr ⟨lasted, going⟩
    · rintro ⟨pre, e, post, n, n', cut, reached, stepped, begins, lasted⟩
      -- the event that brings it about is the last one, or was there before
      rcases post.eq_nil_or_concat' with rfl | ⟨post, g, rfl⟩
      · obtain ⟨rfl, same⟩ := List.append_inj' cut rfl
        cases same
        cases before.symm.trans reached
        exact Or.inl begins
      · rw [← List.cons_append, ← List.append_assoc] at cut
        obtain ⟨rfl, same⟩ := List.append_inj' cut rfl
        cases same
        have later := before
        rw [run_append, bind_of_ok reached, run_cons, bind_of_ok stepped] at later
        obtain ⟨lasted, going⟩ := (along_snoc later).mp lasted
        exact Or.inr ⟨⟨pre, e, post, n, n', rfl, reached, stepped, begins, lasted⟩, going⟩

/-- Two conditions that agree under an invariant, which the first one maintains, hold along
the same runs. -/
theorem along_congr {P Q : S → E → Prop} {I : S → Prop}
    (keep : ∀ m e m', I m → P m e → step m e = .ok m' → I m') (same : ∀ m e, I m → (P m e ↔ Q m e)) {es : List E} :
    ∀ {s}, I s → (Along step P s es ↔ Along step Q s es) := by
  induction es with
  | nil => intro s _; exact Iff.rfl
  | cons e es ih =>
    intro s start
    constructor
    · rintro ⟨now, rest⟩
      exact ⟨(same s e start).mp now, fun m stepped => (ih (keep s e m start now stepped)).mp (rest m stepped)⟩
    · rintro ⟨now, rest⟩
      have met := (same s e start).mpr now
      exact ⟨met, fun m stepped => (ih (keep s e m start met stepped)).mpr (rest m stepped)⟩

/-- When each step succeeds exactly if it meets a condition, and else fails in a way `B`, so
does a run. -/
theorem run_total {P : S → E → Prop} {I : S → Prop} {B : ε → Prop} {es : List E}
    (total : ∀ m, ∀ e ∈ es, I m →
      (∃ m', step m e = .ok m' ∧ I m' ∧ P m e) ∨ (∃ f, step m e = .error f ∧ B f ∧ ¬ P m e)) :
    ∀ {s}, I s → (∃ s', run step s es = .ok s' ∧ Along step P s es) ∨
      (∃ f, run step s es = .error f ∧ B f ∧ ¬ Along step P s es) := by
  induction es with
  | nil => intro s _; exact Or.inl ⟨s, rfl, trivial⟩
  | cons e es ih =>
    intro s start
    rcases total s e List.mem_cons_self start with ⟨m, now, inv, met⟩ | ⟨f, failed, bad, unmet⟩
    · rw [run_cons, bind_of_ok now]
      rcases ih (fun m e member => total m e (List.mem_cons_of_mem _ member)) inv with
        ⟨s', ran, along⟩ | ⟨f, failed, bad, broken⟩
      · refine Or.inl ⟨s', ran, met, fun m' now' => ?_⟩
        cases now.symm.trans now'
        exact along
      · exact Or.inr ⟨f, failed, bad, fun along => broken (along.2 m now)⟩
    · rw [run_cons, bind_of_error failed]
      exact Or.inr ⟨f, rfl, bad, fun along => unmet along.1⟩

/-- **Projection of a run.** When the events selected by `mine` are matched one by one and
the others leave the relation alone, the selected part of a run is itself a run, and it ends
in a related state. -/
theorem run_filter (R : S → U → Prop) (mine : E → Bool) {step' : U → E → Except ε U} {es : List E}
    (own : ∀ s u e s', e ∈ es → mine e = true → R s u → step s e = .ok s' → ∃ u', step' u e = .ok u' ∧ R s' u')
    (foreign : ∀ s u e s', e ∈ es → mine e = false → R s u → step s e = .ok s' → R s' u) :
    ∀ s s' u, R s u → run step s es = .ok s' → ∃ u', run step' u (es.filter mine) = .ok u' ∧ R s' u' := by
  induction es with
  | nil => intro s s' u related h; cases h; exact ⟨u, rfl, related⟩
  | cons e es ih =>
    intro s s' u related h
    rw [run_cons] at h
    obtain ⟨m, now, rest⟩ := bind_ok h
    have tail := ih (fun s u e s' member => own s u e s' (List.mem_cons_of_mem _ member))
      (fun s u e s' member => foreign s u e s' (List.mem_cons_of_mem _ member))
    cases selected : mine e with
    | true =>
      obtain ⟨u₁, step₁, related₁⟩ := own s u e m List.mem_cons_self selected related now
      obtain ⟨u', ran, related'⟩ := tail m s' u₁ related₁ rest
      refine ⟨u', ?_, related'⟩
      rw [List.filter_cons_of_pos selected, run_cons, bind_of_ok step₁, ran]
    | false =>
      obtain ⟨u', ran, related'⟩ := tail m s' u (foreign s u e m List.mem_cons_self selected related now) rest
      refine ⟨u', ?_, related'⟩
      rw [List.filter_cons_of_neg (by simp [selected]), ran]

/-- A program that decodes what it reads, and skips what it cannot, runs as one over the decoded
events. -/
theorem run_filterMap {F : Type} (decode : F → Option E) {step' : S → F → Except ε S} {xs : List F}
    (each : ∀ s, ∀ x ∈ xs, step' s x = (decode x).elim (.ok s) (step s)) :
    ∀ s, run step' s xs = run step s (xs.filterMap decode) := by
  induction xs with
  | nil => intro s; rfl
  | cons x xs ih =>
    intro s
    have tail := ih fun m y member => each m y (List.mem_cons_of_mem _ member)
    have now := each s x List.mem_cons_self
    cases decoded : decode x with
    | none =>
      rw [decoded] at now
      rw [List.filterMap_cons_none decoded, run_cons, bind_of_ok now, tail]
    | some e =>
      rw [decoded] at now
      rw [List.filterMap_cons_some decoded, run_cons, run_cons, now]
      exact bind_congr tail

/-! ## Families of machines -/

section Family

variable {ι F : Type} [DecidableEq ι]

/-- One member of a family of machines takes the event, the others stay as they are. -/
def stepAt (step : S → E → Except ε S) (place : F → ι) (event : F → E) (w : ι → S) (f : F) : Except ε (ι → S) := do
  let s ← step (w (place f)) (event f)
  return Function.update w (place f) s

/-- The events that the member `i` takes. -/
def partAt (place : F → ι) (event : F → E) (i : ι) (fs : List F) : List E :=
  (fs.filter fun f => place f = i).map event

theorem mem_partAt {place : F → ι} {event : F → E} {i : ι} {fs : List F} {e : E} :
    e ∈ partAt place event i fs ↔ ∃ f ∈ fs, place f = i ∧ event f = e := by
  simp [partAt, and_assoc]

end Family

/-! ## Patterns in a trace -/

/-- Events that match the patterns, one each and in this order, occur among `xs`. -/
def Occurs (ps : List (E → Prop)) (xs : List E) : Prop :=
  ∃ ys, ys.Sublist xs ∧ List.Forall₂ (fun y p => p y) ys ps

theorem Occurs.nil (xs : List E) : Occurs [] xs := ⟨[], List.nil_sublist _, .nil⟩

/-- What occurred has still occurred after one more event. -/
theorem Occurs.mono {ps : List (E → Prop)} {xs : List E} (h : Occurs ps xs) (x : E) : Occurs ps (xs ++ [x]) := by
  obtain ⟨ys, sub, all⟩ := h
  exact ⟨ys, sub.trans (List.sublist_append_left _ _), all⟩

/-- An event that matches the next pattern extends what occurred. -/
theorem Occurs.snoc {ps : List (E → Prop)} {p : E → Prop} {xs : List E} {x : E} (h : Occurs ps xs) (now : p x) :
    Occurs (ps ++ [p]) (xs ++ [x]) := by
  obtain ⟨ys, sub, all⟩ := h
  exact ⟨ys ++ [x], sub.append (List.Sublist.refl _), List.rel_append all (.cons now .nil)⟩

/-- Each pattern has been matched by some event. -/
theorem Occurs.exists_mem {ps : List (E → Prop)} {p : E → Prop} {xs : List E} (h : Occurs ps xs) (mem : p ∈ ps) :
    ∃ x ∈ xs, p x := by
  obtain ⟨ys, sub, all⟩ := h
  induction all generalizing xs with
  | nil => cases mem
  | cons now rest ih =>
    rcases List.mem_cons.mp mem with rfl | later
    · exact ⟨_, sub.subset List.mem_cons_self, now⟩
    · exact ih later (List.sublist_of_cons_sublist sub)

end ConntrackCm.Lib
