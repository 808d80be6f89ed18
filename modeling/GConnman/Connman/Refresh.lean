import GConnman.Connman.WriteThrough

/-!
# Records that have been refreshed

A proxy begins with a record of its own making and learns of changes only.  Once connman
has answered one GetProperties on the object, the messages about it carry all that connman
has, and they arrive in order: no change can fall between the answer and the signals, and
no answer can undo a change that was announced before.
-/

namespace GConnman.Connman

open GConnman.GLib GConnman.DBus GConnman.Foundation

/-- The message answers GetProperties on the object. -/
def ObjectMessage.answers (object : Endpoint) : ObjectMessage → Bool
  | properties other _ => other = object
  | changed _ | listed _ _ => false

namespace WriteState

variable {kind : Endpoint → Interface} {loop : UserThread} {state next : WriteState kind}
  {event : WriteEvent kind}

/-- connman has answered GetProperties on the object. -/
def Refreshed (object : Endpoint) (state : WriteState kind) : Prop :=
  state.sent.any (ObjectMessage.answers object) = true

/-- Of an object that has been refreshed, connman has said last what it has. -/
def Complete (state : WriteState kind) : Prop :=
  ∀ object, Refreshed object state →
    TakenFrom (state.values object) (entriesAbout object state.sent)

/-- Another message refreshes nothing. -/
theorem refreshed_before {object : Endpoint} {message : ObjectMessage}
    (other : message.answers object = false)
    (refreshed : (state.sent ++ [message]).any (ObjectMessage.answers object) = true) :
    Refreshed object state := by
  simpa [Refreshed, other] using refreshed

theorem Complete.change (complete : Complete state) (change : Change) :
    Complete (state.change change) := by
  intro object refreshed
  have before : Refreshed object state := refreshed_before rfl refreshed
  change TakenFrom (Function.update state.values change.1 _ object)
    (entriesAbout object (state.sent ++ [.changed change]))
  by_cases same : change.1 = object
  · subst same
    have own : (ObjectMessage.changed change).object = change.1 := rfl
    rw [entriesAbout_concat_self state.sent _ own, Function.update_self]
    exact (complete change.1 before).assign_back change.2.1 change.2.2
  · rw [entriesAbout_concat_of_ne state.sent (.changed change) same,
      Function.update_of_ne (Ne.symm same)]
    exact complete object before

/-- The answer says everything. -/
theorem Complete.answer (complete : Complete state) (object : Endpoint) :
    Complete (state.announce (.properties object (state.values object))) := by
  intro other refreshed
  change TakenFrom (state.values other)
    (entriesAbout other (state.sent ++ [.properties object (state.values object)]))
  by_cases same : object = other
  · subst same
    have own : (ObjectMessage.properties object (state.values object)).object = object := rfl
    rw [entriesAbout_concat_self state.sent _ own]
    exact (TakenFrom.refl (state.values object)).append_left _
  · rw [entriesAbout_concat_of_ne state.sent (.properties object _) same]
    have elsewhere : (ObjectMessage.properties object (state.values object)).answers other =
        false := decide_eq_false same
    exact complete other (refreshed_before elsewhere refreshed)

/-- What is said again was said before. -/
theorem Complete.list (complete : Complete state) (object : Endpoint) (names : List String) :
    Complete (state.announce (.listed object
      ((state.values object).filter fun pair => pair.1 ∈ names))) := by
  intro other refreshed
  have before : Refreshed other state := refreshed_before rfl refreshed
  have carried := complete other before
  change TakenFrom (state.values other) (entriesAbout other (state.sent ++ [.listed object _]))
  by_cases same : object = other
  · subst same
    have own : (ObjectMessage.listed object
      ((state.values object).filter fun pair => pair.1 ∈ names)).object = object := rfl
    rw [entriesAbout_concat_self state.sent _ own]
    intro name value current
    exact (TakenFrom.names names (state.values object)).lastCarried_append current
      (carried name value current)
  · rw [entriesAbout_concat_of_ne state.sent (.listed object _) same]
    exact carried

theorem Complete.step (complete : Complete state) (stepped : state.step? loop event = some next) :
    Complete next := by
  cases effect_of_step stepped with
  | call thread request => exact complete
  | send sends => exact complete
  | takeOver takes asks => exact Complete.change complete _
  | @answer call queue takes asks => exact Complete.answer complete call.2.object
  | take takes leaves => exact complete
  | change change => exact complete.change change
  | list names service => exact complete.list _ names
  | deliver pending accepted => exact complete

variable {values : Endpoint → List (String × GVariant)}
  {origin : (object : Endpoint) → DBusProxy (kind object).Properties}
  {events : List (WriteEvent kind)} {finish : WriteState kind}

end WriteState

end GConnman.Connman
