import Mathlib.Logic.Basic
import GConnman.Foundation.TransitionSystem

/-!
# Getting to a goal

Some of the events of a machine are steps it takes by itself.  When each of them lowers
a measure, and one of them is possible as long as a goal is not reached, then the
machine gets to the goal whatever order it takes these steps in.
-/

namespace GConnman.Foundation

namespace Machine

variable {State Event : Type*} {machine : Machine State Event}
  {guard : State → Event → Prop} {start finish : State}

/-- However the machine goes on by guarded steps, it stops at the goal. -/
structure Attains (machine : Machine State Event) (guard : State → Event → Prop)
    (goal : State → Prop) (start : State) : Prop where
  bounded : ∃ bound, ∀ events finish, machine.Run guard start events finish →
    events.length ≤ bound
  stops : ∀ events finish, machine.Run guard start events finish →
    (∀ event, guard finish event → machine.step? finish event = none) → goal finish

/-- The guarded steps keep the invariant, lower the measure and lead on to the goal. -/
structure Progress (machine : Machine State Event) (guard : State → Event → Prop)
    (Inv goal : State → Prop) (measure : State → Nat) : Prop where
  preserved : ∀ {state event next}, Inv state → guard state event →
    machine.step? state event = some next → Inv next
  lowers : ∀ {state event next}, Inv state → guard state event →
    machine.step? state event = some next → measure next < measure state
  enabled : ∀ {state}, Inv state → ¬ goal state →
    ∃ event next, guard state event ∧ machine.step? state event = some next

variable {Inv goal : State → Prop} {measure : State → Nat}

/-- A run is no longer than the measure it uses up. -/
theorem Progress.length_le (progress : Progress machine guard Inv goal measure)
    {events : List Event} (run : machine.Run guard start events finish) (initial : Inv start) :
    Inv finish ∧ events.length + measure finish ≤ measure start := by
  induction run with
  | refl => exact ⟨initial, by simp⟩
  | tail before allowed step ih =>
      obtain ⟨kept, short⟩ := ih
      have lower := progress.lowers kept allowed step
      refine ⟨progress.preserved kept allowed step, ?_⟩
      rw [List.length_append, List.length_singleton]
      omega

theorem Progress.attains (progress : Progress machine guard Inv goal measure)
    (initial : Inv start) : Attains machine guard goal start where
  bounded := ⟨measure start, fun _ _ run =>
    Nat.le_of_add_right_le (progress.length_le run initial).2⟩
  stops _ finish run stuck := by
    by_contra short
    obtain ⟨event, next, allowed, step⟩ :=
      progress.enabled (progress.length_le run initial).1 short
    rw [stuck event allowed] at step
    cases step

/-- Where the guarded steps keep out of a part of the goal, they get to the rest of it. -/
theorem Progress.avoiding {Also part : State → Prop}
    (progress : Progress machine guard Inv (fun state => part state ∨ goal state) measure)
    (preserved : ∀ {state event next}, Also state → guard state event →
      machine.step? state event = some next → Also next)
    (avoids : ∀ {state}, Also state → ¬ part state) :
    Progress machine guard (fun state => Inv state ∧ Also state) goal measure where
  preserved kept allowed step :=
    ⟨progress.preserved kept.1 allowed step, preserved kept.2 allowed step⟩
  lowers kept allowed step := progress.lowers kept.1 allowed step
  enabled kept short := progress.enabled kept.1 fun reached =>
    reached.elim (avoids kept.2) short

/-- The goal is reached along some run. -/
theorem Attains.exists_run (attains : Attains machine guard goal start) :
    ∃ events finish, machine.Run guard start events finish ∧ goal finish := by
  obtain ⟨bound, bounded⟩ := attains.bounded
  by_contra unreached
  -- as long as the goal is not reached, the run can be made longer
  have longer : ∀ length, ∃ events finish, machine.Run guard start events finish ∧
      events.length = length := by
    intro length
    induction length with
    | zero => exact ⟨[], start, .refl, rfl⟩
    | succ length ih =>
        obtain ⟨events, finish, run, long⟩ := ih
        have goes : ∃ event next, guard finish event ∧ machine.step? finish event = some next := by
          by_contra stuck
          refine unreached ⟨events, finish, run, attains.stops events finish run ?_⟩
          intro event allowed
          by_contra stepped
          obtain ⟨next, step⟩ := Option.ne_none_iff_exists'.mp stepped
          exact stuck ⟨event, next, allowed, step⟩
        obtain ⟨event, next, allowed, step⟩ := goes
        exact ⟨events ++ [event], next, run.tail allowed step, by simp [long]⟩
  obtain ⟨events, finish, run, long⟩ := longer (bound + 1)
  have short := bounded events finish run
  omega

end Machine

end GConnman.Foundation
