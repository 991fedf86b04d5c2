import Mathlib.Data.List.Basic

/-!
# Runs of a deterministic system

A run applies one step per event.  `Along` states a property of every step of a
run, in terms of the state before the step and its event.  The rules carry an
invariant over a whole run; the first is for runs whose guarded steps keep it.
-/

namespace NitroSense.Lib

variable {σ ε : Type*}

/-- The state after the events, oldest first. -/
def run (step : σ → ε → σ) (start : σ) (events : List ε) : σ := events.foldl step start

@[simp] theorem run_nil (step : σ → ε → σ) (start : σ) : run step start [] = start := rfl

@[simp] theorem run_cons (step : σ → ε → σ) (start : σ) (event : ε) (events : List ε) :
    run step start (event :: events) = run step (step start event) events := rfl

theorem run_append (step : σ → ε → σ) (start : σ) (first second : List ε) :
    run step start (first ++ second) = run step (run step start first) second :=
  List.foldl_append

theorem run_concat (step : σ → ε → σ) (start : σ) (events : List ε) (event : ε) :
    run step start (events ++ [event]) = step (run step start events) event :=
  run_append step start events [event]

/-- `P` holds at every step of the run from `start`. -/
def Along (step : σ → ε → σ) (P : σ → ε → Prop) : σ → List ε → Prop
  | _, [] => True
  | start, event :: events => P start event ∧ Along step P (step start event) events

section Along

variable {step : σ → ε → σ} {P Q : σ → ε → Prop} {start : σ}

/-- With an invariant, a step fact that needs it holds at every step of a guarded run. -/
theorem Along.of_invariant {Inv : σ → Prop} {events : List ε}
    (guarded : Along step P start events) (initial : Inv start)
    (keeps : ∀ state event, P state event → Inv state → Inv (step state event))
    (gives : ∀ state event, P state event → Inv state → Q state event) :
    Along step Q start events := by
  induction events generalizing start with
  | nil => trivial
  | cons event rest ih =>
      exact ⟨gives start event guarded.1 initial,
        ih guarded.2 (keeps start event guarded.1 initial)⟩

/-- Two properties that agree at every step hold along the same runs. -/
theorem along_congr (same : ∀ state event, P state event ↔ Q state event) {events : List ε} :
    Along step P start events ↔ Along step Q start events := by
  induction events generalizing start with
  | nil => exact Iff.rfl
  | cons event rest ih => exact and_congr (same start event) ih

/-- A property holds along a run with one more event when it holds there as well. -/
theorem along_concat (events : List ε) (event : ε) :
    Along step P start (events ++ [event]) ↔
      Along step P start events ∧ P (run step start events) event := by
  induction events generalizing start with
  | nil => exact ⟨fun along => ⟨trivial, along.1⟩, fun along => ⟨along.2, trivial⟩⟩
  | cons first rest ih => exact (and_congr_right fun _ => ih).trans and_assoc.symm

end Along

/-- A state property that every step keeps holds after every run. -/
theorem run_preserves {step : σ → ε → σ} {start : σ} (Inv : σ → Prop) (initial : Inv start)
    (keeps : ∀ state event, Inv state → Inv (step state event)) (events : List ε) :
    Inv (run step start events) := by
  induction events generalizing start with
  | nil => exact initial
  | cons event rest ih => exact ih (keeps start event initial)

/-- A rank that falls at every event of some kind, and never rises, is used up by enough of them. -/
theorem run_rank {step : σ → ε → σ} {start : σ} (rank : σ → Nat) (falls : ε → Bool)
    (down : ∀ state event, rank (step state event) ≤ rank state - if falls event then 1 else 0)
    (events : List ε) : rank (run step start events) ≤ rank start - events.countP falls := by
  induction events generalizing start with
  | nil => exact Nat.le_refl (rank start)
  | cons event rest ih =>
      have here := down start event
      have later := @ih (step start event)
      rw [run_cons, List.countP_cons]
      omega

/-- Events that never change the state may be left out. -/
theorem run_filter {step : σ → ε → σ} {acts : ε → Bool}
    (idle : ∀ state event, acts event = false → step state event = state) (start : σ)
    (events : List ε) : run step start (events.filter acts) = run step start events := by
  induction events generalizing start with
  | nil => rfl
  | cons event rest ih =>
      cases active : acts event with
      | true => rw [List.filter_cons_of_pos active, run_cons, run_cons, ih]
      | false =>
          rw [List.filter_cons_of_neg (by simp [active]), run_cons, idle start event active, ih]

/-- From a state that no event changes, a run stays there. -/
theorem run_fixed {step : σ → ε → σ} {start : σ} (fixed : ∀ event, step start event = start)
    (events : List ε) : run step start events = start := by
  induction events with
  | nil => rfl
  | cons event rest ih => rw [run_cons, fixed, ih]

/-! ## Histories -/

/-- `P` holds at each of the events, in terms of those before it. -/
def AtEach (P : List ε → ε → Prop) (events : List ε) : Prop :=
  ∀ earlier event later, events = earlier ++ event :: later → P earlier event

theorem atEach_nil (P : List ε → ε → Prop) : AtEach P [] := by
  intro earlier event later split
  exact absurd split (by simp)

/-- A property holds at each event of a longer list when it holds at the new event as well. -/
theorem atEach_concat (P : List ε → ε → Prop) (events : List ε) (event : ε) :
    AtEach P (events ++ [event]) ↔ AtEach P events ∧ P events event := by
  constructor
  · intro each
    refine ⟨fun earlier first later split => ?_, each events event [] rfl⟩
    exact each earlier first (later ++ [event]) (by rw [split]; simp)
  · rintro ⟨each, last⟩ earlier first later split
    rcases List.eq_nil_or_concat' later with rfl | ⟨rest, newest, rfl⟩
    · obtain ⟨rfl, rfl⟩ := List.append_inj' split rfl |>.imp_right List.singleton_inj.mp
      exact last
    · rw [← List.cons_append, ← List.append_assoc] at split
      exact each earlier first rest (List.append_inj' split rfl).1

theorem atEach_congr {P Q : List ε → ε → Prop}
    (same : ∀ earlier event, P earlier event ↔ Q earlier event) (events : List ε) : AtEach P events ↔ AtEach Q events :=
  forall_congr' fun earlier => forall_congr' fun event => forall_congr' fun _ =>
    forall_congr' fun _ => same earlier event

end NitroSense.Lib
