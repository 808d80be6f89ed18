import GConnman.Foundation.Outcome

/-!
# Construction and unwinding

An object is built part by part.  When a later part raises, what was built before it
is released in the reverse order; the part that raised must clean up after itself.
An action is a transaction when it either raises and leaves the state as it was or
builds.  Transactions whose builds are undone by their releases make a transaction.
-/

namespace GConnman.Foundation.Outcome

variable {Fault State : Type*}

/-- Release what is held when an exception passes. -/
def unwind (outcome : Outcome Fault State) (release : State → State) : Outcome Fault State :=
  match outcome.raised with
  | none => outcome
  | some fault => ⟨release outcome.state, some fault⟩

/-- Build a part and then the rest, holding the part. -/
def holding (part : State → Outcome Fault State) (release : State → State)
    (rest : State → Outcome Fault State) (state : State) : Outcome Fault State :=
  (part state).andThen fun built => (rest built).unwind release

/-- An action that raises and leaves the state as it was, or builds. -/
def Transacts (action : State → Outcome Fault State) (build : State → State) : Prop :=
  ∀ state, (∃ fault, action state = ⟨state, some fault⟩) ∨ action state = done (build state)

variable {part rest : State → Outcome Fault State} {release build more : State → State}
  {state : State}

theorem holding_of_raised {left : State} {fault : Fault}
    (raised : part state = ⟨left, some fault⟩) :
    holding part release rest state = ⟨left, some fault⟩ := by
  rw [holding, raised, andThen_of_raised rfl]

theorem holding_of_done {built : State} (normal : part state = done built) :
    holding part release rest state = (rest built).unwind release := by
  rw [holding, normal, andThen_of_done rfl, done_state]

theorem Transacts.holding (first : Transacts part build)
    (undone : ∀ state, release (build state) = state) (second : Transacts rest more) :
    Transacts (Outcome.holding part release rest) (more ∘ build) := by
  intro state
  rcases first state with ⟨fault, raised⟩ | normal
  · exact .inl ⟨fault, holding_of_raised raised⟩
  · rw [holding_of_done normal]
    rcases second (build state) with ⟨fault, raised⟩ | built
    · refine .inl ⟨fault, ?_⟩
      rw [raised, unwind, undone]
    · refine .inr ?_
      rw [built]
      rfl

end GConnman.Foundation.Outcome
