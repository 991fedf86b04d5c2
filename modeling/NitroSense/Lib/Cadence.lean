import NitroSense.Lib.Run
import Mathlib.Algebra.Order.Ring.Int
import Mathlib.Data.List.Chain
import Mathlib.Tactic.Linarith

/-!
# Work at deadlines

A loop looks at the clock, works when its deadline has come, and then sets the
next one an interval behind the end of its work.  A loop that always looks soon
after its deadline works in regular distances, however often it looks.
-/

namespace NitroSense.Lib

/-- A look at the clock, and the time when work that is due then is done. -/
structure Look where
  now : Int
  done : Int

def deadline (interval next : Int) (look : Look) : Int :=
  if next ≤ look.now then look.done + interval else next

def dueLooks (interval : Int) : Int → List Look → List Look
  | _, [] => []
  | next, look :: looks =>
      if next ≤ look.now then look :: dueLooks interval (deadline interval next look) looks
      else dueLooks interval (deadline interval next look) looks

/-- Work follows work after the interval, and not much later. -/
def Paced (interval slack : Int) (before after : Look) : Prop :=
  before.done + interval ≤ after.now ∧ after.now ≤ before.done + interval + slack

section Cadence

variable {interval slack : Int}

/-- The first work is done at the deadline, and all other work follows work. -/
theorem dueLooks_follow {next : Int} {looks : List Look}
    (prompt : Along (deadline interval) (fun next look => look.now ≤ next + slack) next looks) :
    (∀ first ∈ (dueLooks interval next looks).head?,
        next ≤ first.now ∧ first.now ≤ next + slack) ∧
      (dueLooks interval next looks).IsChain (Paced interval slack) := by
  induction looks generalizing next with
  | nil => exact ⟨nofun, .nil⟩
  | cons look looks ih =>
      obtain ⟨soon, later⟩ := prompt
      obtain ⟨head, chain⟩ := ih later
      rw [dueLooks]
      split
      · rename_i due
        rw [deadline, if_pos due] at head chain ⊢
        refine ⟨fun first same => ?_, List.isChain_cons.mpr ⟨head, chain⟩⟩
        cases same
        exact ⟨due, soon⟩
      · rename_i early
        rw [deadline, if_neg early] at head chain ⊢
        exact ⟨head, chain⟩

/-- What is due first is followed by what is due behind it. -/
theorem dueLooks_cons_follow {next : Int} {look : Look} {looks : List Look}
    (due : next ≤ look.now)
    (prompt : Along (deadline interval) (fun next look => look.now ≤ next + slack)
      (deadline interval next look) looks) :
    (dueLooks interval next (look :: looks)).IsChain (Paced interval slack) := by
  obtain ⟨head, chain⟩ := dueLooks_follow prompt
  rw [dueLooks, if_pos due]
  refine List.isChain_cons.mpr ⟨fun after first => ?_, chain⟩
  have times := head after first
  rwa [deadline, if_pos due] at times

/-- The time that regular work takes, by the number of times it is done. -/
theorem follows_span {work : Int} {first : Look} {looks : List Look}
    (chain : (first :: looks).IsChain (Paced interval slack))
    (works : ∀ look ∈ first :: looks, look.now ≤ look.done ∧ look.done ≤ look.now + work) :
    looks.length * interval ≤ ((first :: looks).getLast (List.cons_ne_nil _ _)).now - first.now ∧
      ((first :: looks).getLast (List.cons_ne_nil _ _)).now - first.now ≤
        looks.length * (interval + slack + work) := by
  induction looks generalizing first with
  | nil => simp
  | cons second looks ih =>
      obtain ⟨follows, rest⟩ := List.isChain_cons_cons.mp chain
      obtain ⟨here, others⟩ := List.forall_mem_cons.mp works
      have later := ih rest others
      obtain ⟨least, most⟩ := follows
      have last : (first :: second :: looks).getLast (List.cons_ne_nil _ _) =
          (second :: looks).getLast (List.cons_ne_nil _ _) := List.getLast_cons _
      rw [last, List.length_cons, Nat.cast_add, Nat.cast_one, add_mul, add_mul, one_mul, one_mul]
      constructor
      · linarith only [later.1, least, here.1]
      · linarith only [later.2, most, here.2]

end Cadence

end NitroSense.Lib
