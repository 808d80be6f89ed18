import Mathlib.Data.List.Basic

/-!
# Guarded runs of partial machines

A machine is a partial step function: an event either cannot happen in a state,
or leads to exactly one next state.  All nondeterminism is in the choice of the
events.  A run is a finite list of events, each of which must also satisfy a
guard in the state it is taken from; assumptions about an environment and
conditions on the steps of a run are both expressed as guards.
-/

namespace GConnman.Foundation

/-- A partial step function on `State`, driven by events. -/
structure Machine (State Event : Type*) where
  step? : State → Event → Option State

namespace Machine

variable {State Event : Type*} (machine : Machine State Event)

/-- `Run guard start events finish`: the events lead from `start` to `finish`
and each of them meets the guard in the state it is taken from. -/
inductive Run (guard : State → Event → Prop) (start : State) :
    List Event → State → Prop where
  | refl : Run guard start [] start
  | tail {events : List Event} {middle finish : State} {event : Event} :
      Run guard start events middle → guard middle event →
      machine.step? middle event = some finish →
      Run guard start (events ++ [event]) finish

/-- The guard that excludes no step. -/
def anyStep : State → Event → Prop := fun _ _ => True

instance (state : State) (event : Event) : Decidable (anyStep state event) := .isTrue trivial

/-- Execute a list of events, checking the guard before every step. -/
def exec? (guard : State → Event → Prop) [∀ state event, Decidable (guard state event)] :
    State → List Event → Option State
  | state, [] => some state
  | state, event :: rest =>
      if guard state event then (machine.step? state event).bind (fun next => exec? guard next rest)
      else none

variable {machine}

namespace Run

variable {guard : State → Event → Prop} {start middle finish : State} {events later : List Event}

theorem single {event : Event} (allowed : guard start event)
    (step : machine.step? start event = some finish) : machine.Run guard start [event] finish :=
  .tail .refl allowed step

theorem trans (first : machine.Run guard start events middle)
    (second : machine.Run guard middle later finish) :
    machine.Run guard start (events ++ later) finish := by
  induction second with
  | refl => simpa using first
  | tail _ allowed step ih =>
      rw [← List.append_assoc]
      exact .tail ih allowed step

/-- A run stays a run under every weaker guard. -/
theorem mono {weaker : State → Event → Prop}
    (imp : ∀ state event, guard state event → weaker state event)
    (run : machine.Run guard start events finish) : machine.Run weaker start events finish := by
  induction run with
  | refl => exact .refl
  | tail _ allowed step ih => exact .tail ih (imp _ _ allowed) step

/-- A property of the start that every guarded step preserves holds at the end. -/
theorem invariant {Inv : State → Prop}
    (preserved : ∀ state event next, Inv state → guard state event →
      machine.step? state event = some next → Inv next)
    (run : machine.Run guard start events finish) (initial : Inv start) : Inv finish := by
  induction run with
  | refl => exact initial
  | tail _ allowed step ih => exact preserved _ _ _ ih allowed step

/-- Every executed event list is a run. -/
theorem of_exec [∀ state event, Decidable (guard state event)]
    (executed : machine.exec? guard start events = some finish) :
    machine.Run guard start events finish := by
  induction events generalizing start with
  | nil =>
      cases executed
      exact .refl
  | cons event rest ih =>
      rw [exec?] at executed
      split at executed
      · rename_i allowed
        obtain ⟨next, step, remaining⟩ := Option.bind_eq_some_iff.mp executed
        exact (single allowed step).trans (ih remaining)
      · cases executed

/-- A list of events whose execution ends in a state that passes a test is a run
to such a state. -/
theorem exists_of_exec [∀ state event, Decidable (guard state event)] {test : State → Bool}
    (executed : (machine.exec? guard start events).any test = true) :
    ∃ finish, machine.Run guard start events finish ∧ test finish = true := by
  cases result : machine.exec? guard start events with
  | none =>
      rw [result] at executed
      cases executed
  | some finish =>
      rw [result] at executed
      exact ⟨finish, of_exec result, executed⟩

end Run

end Machine

end GConnman.Foundation
