import Mathlib.Data.List.Basic

/-!
# Imperative actions that may raise

The outcome of an action is the state it leaves behind together with the
exception it raised, if any.  An exception does not undo what was done before
it, so a loop that raises leaves the effect of all earlier iterations and of
the part of the failing iteration that was already executed.
-/

namespace GConnman.Foundation

/-- The state an action leaves behind, and the exception it ended with. -/
structure Outcome (Fault State : Type*) where
  state : State
  raised : Option Fault

namespace Outcome

variable {Fault State Item : Type*}

/-- Normal completion. -/
def done (state : State) : Outcome Fault State := ⟨state, none⟩

@[simp] theorem done_state (state : State) : (done state : Outcome Fault State).state = state := rfl
@[simp] theorem done_raised (state : State) :
    (done state : Outcome Fault State).raised = none := rfl

/-- An action that either computes the next state or raises before changing anything. -/
def ofExcept (state : State) : Except Fault State → Outcome Fault State
  | .ok next => ⟨next, none⟩
  | .error fault => ⟨state, some fault⟩

@[simp] theorem ofExcept_ok (state next : State) :
    ofExcept state (.ok next : Except Fault State) = done next := rfl

@[simp] theorem ofExcept_error (state : State) (fault : Fault) :
    ofExcept state (.error fault : Except Fault State) = ⟨state, some fault⟩ := rfl

/-- Sequencing: the second action is skipped when the first one raised. -/
def andThen (first : Outcome Fault State) (next : State → Outcome Fault State) :
    Outcome Fault State :=
  match first.raised with
  | none => next first.state
  | some _ => first

theorem andThen_of_done {first : Outcome Fault State} (normal : first.raised = none)
    (next : State → Outcome Fault State) : first.andThen next = next first.state := by
  rw [andThen, normal]

theorem andThen_of_raised {first : Outcome Fault State} {fault : Fault}
    (raised : first.raised = some fault) (next : State → Outcome Fault State) :
    first.andThen next = first := by
  rw [andThen, raised]

/-- A loop over a list, left at the first exception. -/
def forEach (body : State → Item → Outcome Fault State) :
    State → List Item → Outcome Fault State
  | state, [] => done state
  | state, item :: rest => (body state item).andThen (fun next => forEach body next rest)

/-- An action that raised nothing is the normal completion in its state. -/
theorem eq_done_of_raised {outcome : Outcome Fault State} (normal : outcome.raised = none) :
    outcome = done outcome.state := by
  cases outcome with
  | mk state raised =>
      cases normal
      rfl

variable (body : State → Item → Outcome Fault State)

@[simp] theorem forEach_nil (state : State) : forEach body state [] = done state := rfl

theorem forEach_cons (state : State) (item : Item) (rest : List Item) :
    forEach body state (item :: rest) =
      (body state item).andThen (fun next => forEach body next rest) := rfl

theorem forEach_singleton (state : State) (item : Item) :
    forEach body state [item] = body state item := by
  rw [forEach_cons]
  cases ended : (body state item).raised with
  | none =>
      rw [andThen_of_done ended]
      exact (eq_done_of_raised ended).symm
  | some fault => exact andThen_of_raised ended _

theorem forEach_append (state : State) (first second : List Item) :
    forEach body state (first ++ second) =
      (forEach body state first).andThen fun next => forEach body next second := by
  induction first generalizing state with
  | nil => rfl
  | cons item rest ih =>
      rw [List.cons_append, forEach_cons, forEach_cons]
      cases ended : (body state item).raised with
      | none =>
          rw [andThen_of_done ended, andThen_of_done ended]
          exact ih _
      | some fault =>
          rw [andThen_of_raised ended, andThen_of_raised ended, andThen_of_raised ended]

theorem forEach_map {Source : Type*} (convert : Source → Item) (state : State)
    (items : List Source) :
    forEach body state (items.map convert) =
      forEach (fun state item => body state (convert item)) state items := by
  induction items generalizing state with
  | nil => rfl
  | cons item rest ih =>
      rw [List.map_cons, forEach_cons, forEach_cons]
      exact congrArg _ (funext ih)

/-- What every iteration preserves, raising or not, the loop preserves. -/
theorem forEach_invariant {Inv : State → Prop}
    (preserved : ∀ state item, Inv state → Inv (body state item).state)
    {state : State} (initial : Inv state) (items : List Item) :
    Inv (forEach body state items).state := by
  induction items generalizing state with
  | nil => exact initial
  | cons item rest ih =>
      have first := preserved state item initial
      rw [forEach_cons]
      cases ended : (body state item).raised with
      | none =>
          rw [andThen_of_done ended]
          exact ih first
      | some fault =>
          rw [andThen_of_raised ended]
          exact first

/-- A loop whose body raises for certain items raises if it has one of them. -/
theorem forEach_raised_iff {fails : Item → Prop}
    (raises : ∀ state item, (body state item).raised ≠ none ↔ fails item) {state : State}
    {items : List Item} :
    (forEach body state items).raised ≠ none ↔ ∃ item ∈ items, fails item := by
  induction items generalizing state with
  | nil => simp
  | cons item rest ih =>
      rw [forEach_cons, List.exists_mem_cons_iff, ← raises state item]
      cases ended : (body state item).raised with
      | none =>
          rw [andThen_of_done ended, ih]
          simp
      | some fault =>
          rw [andThen_of_raised ended, ended]
          simp

end Outcome

end GConnman.Foundation
