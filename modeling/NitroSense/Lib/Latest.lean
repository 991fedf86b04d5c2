import NitroSense.Lib.Run

/-!
# The last word

Some events set a component of a system and the others leave it alone.  Over a
run, up to the event that halts the system, the component is what the last of
them has set.
-/

namespace NitroSense.Lib

variable {σ ε α : Type*}

/-- What is held after the events, each of which may set it. -/
def latest (sets : ε → Option α) (events : List ε) (held : α) : α :=
  events.foldl (fun held event => (sets event).getD held) held

/-- The last event that sets it counts, and without one it is as before. -/
theorem latest_eq (sets : ε → Option α) (events : List ε) (held : α) :
    latest sets events held = ((events.filterMap sets).getLast?).getD held := by
  induction events generalizing held with
  | nil => rfl
  | cons event events ih =>
      rw [latest, List.foldl_cons]
      refine (ih _).trans ?_
      cases set : sets event with
      | none => rw [List.filterMap_cons_none set, Option.getD_none]
      | some value =>
          rw [List.filterMap_cons_some set, List.getLast?_cons, Option.getD_some,
            Option.getD_some]

/-- A component of a system that goes on until an event halts it. -/
theorem run_latest {step : σ → ε → σ} (get : σ → α) (sets : ε → Option α) (halts : ε → Bool)
    (Live : σ → Prop)
    (goesOn : ∀ state event, Live state → halts event = false →
      Live (step state event) ∧ get (step state event) = (sets event).getD (get state))
    (halted : ∀ state event, Live state → halts event = true →
      get (step state event) = get state ∧
        ∀ later, step (step state event) later = step state event)
    {start : σ} (live : Live start) (events : List ε) :
    get (run step start events) =
      latest sets (events.takeWhile fun event => !halts event) (get start) := by
  induction events generalizing start with
  | nil => rfl
  | cons event events ih =>
      rw [run_cons]
      cases halting : halts event with
      | true =>
          obtain ⟨same, still⟩ := halted start event live halting
          have stays : run step (step start event) events = step start event :=
            run_preserves (fun state => state = step start event) rfl
              (fun state later here => here ▸ still later) events
          rw [stays, same, List.takeWhile_cons_of_neg (by simp [halting])]
          rfl
      | false =>
          obtain ⟨next, set⟩ := goesOn start event live halting
          rw [ih next, set, List.takeWhile_cons_of_pos (by simp [halting])]
          rfl

/-! ## The last value -/

section Last

variable {β : Type*}

/-- Values in front of the last one are forgotten. -/
theorem getLast?_filterMap_append (f : α → Option β) (first second : List α)
    (held : Option β) :
    ((first ++ second).filterMap f).getLast?.or held =
      (second.filterMap f).getLast?.or ((first.filterMap f).getLast?.or held) := by
  rw [List.filterMap_append, List.getLast?_append, Option.or_assoc]

theorem getLast?_filterMap_singleton (f : α → Option β) (item : α) :
    ([item].filterMap f).getLast? = f item := by
  cases value : f item with
  | none => rw [List.filterMap_cons_none value, List.filterMap_nil, List.getLast?_nil]
  | some text =>
      rw [List.filterMap_cons_some value, List.filterMap_nil, List.getLast?_singleton]

theorem getLast?_filterMap_last {f : α → Option β} {items : List α} {item : α}
    {value : β} (last : items.getLast? = some item) (written : f item = some value) :
    (items.filterMap f).getLast? = some value := by
  obtain ⟨others, rfl⟩ := List.getLast?_eq_some_iff.mp last
  rw [List.filterMap_append, List.filterMap_cons_some written, List.filterMap_nil,
    List.getLast?_concat]

end Last

end NitroSense.Lib
