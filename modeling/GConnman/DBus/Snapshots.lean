import GConnman.DBus.PropertyMessages
import GConnman.Connman.Properties
import GConnman.Foundation.TransitionSystem

/-!
# Property snapshots

The loop thread applies the messages of a proxy one `update` at a time, and other
threads call `properties()` in between.  `properties()` takes the mutex of the
proxy, as `prepareCallback` and `executeCallBack` do, but `updateProperties` and
`update_property` do not, so the mutex does not keep a reader out of the middle of
a dictionary.  An update that raises ends the program and has no next state.
-/

namespace GConnman.DBus

open GConnman.GLib GConnman.Foundation GConnman.Connman

namespace PropertyMessage

variable {Properties : Type} [PropertyRecord Properties]

/-- `update_property` for one entry after the other. -/
def applyEntries (proxy : DBusProxy Properties) (entries : List (String × GVariant)) :
    Outcome Fault (DBusProxy Properties) :=
  .forEach (fun proxy pair => proxy.updateProperty (GVariant.entry pair)) proxy entries

theorem applyEntries_append (proxy : DBusProxy Properties)
    (first second : List (String × GVariant)) :
    applyEntries proxy (first ++ second) =
      (applyEntries proxy first).andThen fun next => applyEntries next second :=
  Outcome.forEach_append _ proxy first second

theorem apply_eq_applyEntries (proxy : DBusProxy Properties) (message : PropertyMessage) :
    apply proxy message = applyEntries proxy message.entries := by
  cases message with
  | dictionary entries =>
      rw [apply, DBusProxy.updateProperties, GVariant.children_dictionary]
      exact Outcome.forEach_map _ GVariant.entry proxy entries
  | changed name value =>
      rw [entries, applyEntries, Outcome.forEach_singleton]
      rfl

theorem applyAll_eq_applyEntries (proxy : DBusProxy Properties)
    (messages : List PropertyMessage) :
    applyAll proxy messages = applyEntries proxy (carriedEntries messages) := by
  unfold applyAll
  induction messages generalizing proxy with
  | nil => rfl
  | cons message rest ih =>
      rw [Outcome.forEach_cons, carriedEntries_cons, applyEntries_append, apply_eq_applyEntries]
      exact congrArg _ (funext ih)

theorem applyAll_append (proxy : DBusProxy Properties) (first second : List PropertyMessage) :
    applyAll proxy (first ++ second) =
      (applyAll proxy first).andThen fun next => applyAll next second :=
  Outcome.forEach_append _ proxy first second

end PropertyMessage

open PropertyMessage

/-! ## The machine -/

/-- A proxy with the message the loop thread applies to it. -/
structure SnapshotState (Properties : Type) where
  proxy : DBusProxy Properties
  /-- Whether `mtx_` is held. -/
  locked : Bool := false
  /-- The proxy when the latest message began, and the entries applied since and left. -/
  before : DBusProxy Properties
  applied : List (String × GVariant) := []
  left : List (String × GVariant) := []
  received : List PropertyMessage := []
  /-- What the calls of `properties()` returned. -/
  returned : List Properties := []

inductive SnapshotEvent where
  /-- The loop thread starts a reply, an announcement dictionary or a signal. -/
  | receive (message : PropertyMessage)
  /-- One `update(key, value)`. -/
  | update
  /-- A critical section of `prepareCallback` or `executeCallBack`. -/
  | lock
  | unlock
  /-- A call of `properties()`, on any thread. -/
  | properties

namespace SnapshotState

variable {Properties : Type} [PropertyRecord Properties]

def start (proxy : DBusProxy Properties) : SnapshotState Properties where
  proxy := proxy
  before := proxy

def step? (state : SnapshotState Properties) :
    SnapshotEvent → Option (SnapshotState Properties)
  | .receive message =>
      match state.left with
      | [] =>
          some { state with
            before := state.proxy
            applied := []
            left := message.entries
            received := state.received ++ [message] }
      | _ :: _ => none
  | .update =>
      match state.left with
      | [] => none
      | pair :: rest =>
          let outcome := state.proxy.updateProperty (GVariant.entry pair)
          if outcome.raised = none then
            some { state with
              proxy := outcome.state
              applied := state.applied ++ [pair]
              left := rest }
          else none
  | .lock => if state.locked then none else some { state with locked := true }
  | .unlock => if state.locked then some { state with locked := false } else none
  | .properties =>
      if state.locked then none
      else some { state with returned := state.returned ++ [state.proxy.props] }

def machine : Machine (SnapshotState Properties) SnapshotEvent := ⟨step?⟩

/-- What a step does. -/
inductive Effect (state : SnapshotState Properties) :
    SnapshotEvent → SnapshotState Properties → Prop where
  | receive (message : PropertyMessage) (finished : state.left = []) :
      Effect state (.receive message)
        { state with
          before := state.proxy
          applied := []
          left := message.entries
          received := state.received ++ [message] }
  | update {pair : String × GVariant} {rest : List (String × GVariant)}
      (left : state.left = pair :: rest)
      (normal : (state.proxy.updateProperty (GVariant.entry pair)).raised = none) :
      Effect state .update
        { state with
          proxy := (state.proxy.updateProperty (GVariant.entry pair)).state
          applied := state.applied ++ [pair]
          left := rest }
  | lock : Effect state .lock { state with locked := true }
  | unlock : Effect state .unlock { state with locked := false }
  | properties :
      Effect state .properties { state with returned := state.returned ++ [state.proxy.props] }

theorem effect_of_step {state next : SnapshotState Properties} {event : SnapshotEvent}
    (stepped : state.step? event = some next) : Effect state event next := by
  cases event with
  | receive message =>
      simp only [step?] at stepped
      split at stepped
      · rename_i finished
        cases stepped
        exact .receive message finished
      · cases stepped
  | update =>
      simp only [step?] at stepped
      split at stepped
      · cases stepped
      · rename_i pair rest left
        split at stepped
        · rename_i normal
          cases stepped
          exact .update left normal
        · cases stepped
  | lock =>
      simp only [step?] at stepped
      split at stepped
      · cases stepped
      · cases stepped
        exact .lock
  | unlock =>
      simp only [step?] at stepped
      split at stepped
      · cases stepped
        exact .unlock
      · cases stepped
  | properties =>
      simp only [step?] at stepped
      split at stepped
      · cases stepped
      · cases stepped
        exact .properties

/-- The state of the record after a whole number of the messages. -/
def Whole (initial : DBusProxy Properties) (messages : List PropertyMessage)
    (props : Properties) : Prop :=
  ∃ count ≤ messages.length,
    (applyAll initial (messages.take count)).raised = none ∧
      (applyAll initial (messages.take count)).state.props = props

/-- The entries can be applied and leave the properties as they are. -/
def ChangesNothing (proxy : DBusProxy Properties) (entries : List (String × GVariant)) : Prop :=
  (applyEntries proxy entries).raised = none ∧
    (applyEntries proxy entries).state.props = proxy.props

/-- No `properties()` between two updates of one message that change something. -/
def Undivided (state : SnapshotState Properties) : SnapshotEvent → Prop
  | .properties =>
      ChangesNothing state.before state.applied ∨ ChangesNothing state.proxy state.left
  | _ => True

/-! ## The messages so far -/

/-- The earlier messages led to the proxy before the latest one, and the entries
applied since led from there to the proxy as it is. -/
def Tracked (initial : DBusProxy Properties) (state : SnapshotState Properties) : Prop :=
  ∃ earlier latest, state.received = earlier ++ latest ∧
    carriedEntries latest = state.applied ++ state.left ∧
    applyAll initial earlier = .done state.before ∧
    applyEntries state.before state.applied = .done state.proxy

theorem tracked_start (initial : DBusProxy Properties) : Tracked initial (start initial) :=
  ⟨[], [], rfl, rfl, rfl, rfl⟩

/-- Once the entries left have been applied, all messages have been. -/
theorem applyAll_received {initial : DBusProxy Properties} {state : SnapshotState Properties}
    (tracked : Tracked initial state) :
    applyAll initial state.received = applyEntries state.proxy state.left := by
  obtain ⟨earlier, latest, received, entries, before, now⟩ := tracked
  rw [received, applyAll_append, before, Outcome.andThen_of_done rfl]
  rw [applyAll_eq_applyEntries, entries, applyEntries_append]
  change (applyEntries state.before state.applied).andThen _ = _
  rw [now, Outcome.andThen_of_done rfl]
  rfl

theorem tracked_step {initial : DBusProxy Properties} {state next : SnapshotState Properties}
    {event : SnapshotEvent} (tracked : Tracked initial state)
    (stepped : state.step? event = some next) : Tracked initial next := by
  cases effect_of_step stepped with
  | receive message finished =>
      have all := applyAll_received tracked
      rw [finished] at all
      exact ⟨state.received, [message], rfl, List.append_nil _, all, rfl⟩
  | @update pair rest left normal =>
      obtain ⟨earlier, latest, received, entries, before, now⟩ := tracked
      refine ⟨earlier, latest, received, ?_, before, ?_⟩
      · rw [entries, left, List.append_assoc]
        rfl
      · change applyEntries state.before (state.applied ++ [pair]) = _
        rw [applyEntries_append, now, Outcome.andThen_of_done rfl]
        exact (Outcome.forEach_singleton _ state.proxy pair).trans
          (Outcome.eq_done_of_raised normal)
  | _ => exact tracked

/-! ## Snapshots -/

theorem whole_append {initial : DBusProxy Properties} {messages : List PropertyMessage}
    {props : Properties} (whole : Whole initial messages props) (later : List PropertyMessage) :
    Whole initial (messages ++ later) props := by
  obtain ⟨count, bound, reached⟩ := whole
  refine ⟨count, bound.trans (by simp), ?_⟩
  rw [List.take_append_of_le_length bound]
  exact reached

/-- A record that the entries applied so far, or the entries left, do not change is
the one before the latest message, or the one after it. -/
theorem whole_of_undivided {initial : DBusProxy Properties} {state : SnapshotState Properties}
    (tracked : Tracked initial state) (undivided : Undivided state .properties) :
    Whole initial state.received state.proxy.props := by
  rcases undivided with unchanged | unchanged
  · obtain ⟨earlier, latest, received, -, before, now⟩ := tracked
    have same : state.proxy.props = state.before.props := by
      have kept := unchanged.2
      rw [now] at kept
      exact kept
    rw [received, same]
    refine whole_append ⟨earlier.length, le_rfl, ?_⟩ latest
    rw [List.take_length, before]
    exact ⟨rfl, rfl⟩
  · refine ⟨state.received.length, le_rfl, ?_⟩
    rw [List.take_length, applyAll_received tracked]
    exact unchanged

/-- Everything `properties()` returned is the record after a whole number of messages. -/
def Consistent (initial : DBusProxy Properties) (state : SnapshotState Properties) : Prop :=
  ∀ props ∈ state.returned, Whole initial state.received props

theorem consistent_step {initial : DBusProxy Properties}
    {state next : SnapshotState Properties} {event : SnapshotEvent}
    (tracked : Tracked initial state) (consistent : Consistent initial state)
    (undivided : Undivided state event) (stepped : state.step? event = some next) :
    Consistent initial next := by
  cases effect_of_step stepped with
  | receive message finished =>
      exact fun props member => whole_append (consistent props member) [message]
  | properties =>
      intro props member
      rcases List.mem_append.mp member with earlier | latest
      · exact consistent props earlier
      · rw [List.mem_singleton.mp latest]
        exact whole_of_undivided tracked undivided
  | _ => exact consistent

/-- In every run in which no `properties()` falls between two updates of one message
that change something, every snapshot is the record after a whole number of
messages. -/
theorem snapshots_whole (initial : DBusProxy Properties) {events : List SnapshotEvent}
    {state : SnapshotState Properties}
    (run : machine.Run Undivided (start initial) events state) : Consistent initial state := by
  have tracked : Tracked initial state ∧ Consistent initial state := by
    induction run with
    | refl => exact ⟨tracked_start initial, fun _ member => nomatch member⟩
    | tail _ undivided stepped ih =>
        exact ⟨tracked_step ih.1 stepped, consistent_step ih.1 ih.2 undivided stepped⟩
  exact tracked.2

instance [DecidableEq Properties] (proxy : DBusProxy Properties)
    (entries : List (String × GVariant)) : Decidable (ChangesNothing proxy entries) :=
  inferInstanceAs (Decidable (_ ∧ _))

instance [DecidableEq Properties] (state : SnapshotState Properties) :
    (event : SnapshotEvent) → Decidable (Undivided state event)
  | .properties => inferInstanceAs (Decidable (_ ∨ _))
  | .receive _ => .isTrue trivial
  | .update => .isTrue trivial
  | .lock => .isTrue trivial
  | .unlock => .isTrue trivial

/-- A clock that is read before, and inside a dictionary whose second entry changes
nothing. -/
theorem clock_snapshots_whole :
    ∃ state : SnapshotState ClockProperties,
      machine.Run Undivided (start ⟨"/", {}, 0, fun _ => none, none⟩)
          [.properties, .receive (.dictionary [("Timezone", .string "UTC"), ("Zone", .string "")]),
            .update, .properties, .update, .properties]
          state ∧
        state.returned.length = 3 ∧
        Consistent ⟨"/", {}, 0, fun _ => none, none⟩ state := by
  have executes : (machine.exec? Undivided
      (start (⟨"/", {}, 0, fun _ => none, none⟩ : DBusProxy ClockProperties))
      [.properties, .receive (.dictionary [("Timezone", .string "UTC"), ("Zone", .string "")]),
        .update, .properties, .update, .properties]).any
      (fun state => state.returned.length = 3) = true := by
    decide
  obtain ⟨state, run, passes⟩ := Machine.Run.exists_of_exec executes
  exact ⟨state, run, of_decide_eq_true passes, snapshots_whole _ run⟩

/-- A `properties()` between the two updates of one dictionary returns a record with
one of them. -/
theorem clock_snapshot_divided :
    ¬ ∀ (events : List SnapshotEvent) (state : SnapshotState ClockProperties),
      machine.Run Machine.anyStep (start ⟨"/", {}, 0, fun _ => none, none⟩) events state →
        Consistent ⟨"/", {}, 0, fun _ => none, none⟩ state := by
  intro claim
  have run : machine.Run Machine.anyStep
      (start (⟨"/", {}, 0, fun _ => none, none⟩ : DBusProxy ClockProperties))
      [.receive (.dictionary [("Timezone", .string "UTC"), ("TimeUpdates", .string "auto")]),
        .update, .properties] _ := Machine.Run.of_exec rfl
  obtain ⟨count, bound, reached⟩ := claim _ _ run { timezone := "UTC" } List.mem_cons_self
  change count ≤ 1 at bound
  obtain rfl | rfl : count = 0 ∨ count = 1 := by omega
  · revert reached
    decide
  · revert reached
    decide

end SnapshotState

end GConnman.DBus
