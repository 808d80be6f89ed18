import GConnman.Connman.MethodCalls
import GConnman.DBus.CurrentValues
import GConnman.Foundation.CallQueue
import GConnman.Foundation.TransitionSystem

/-!
# Writing properties through the daemon

Threads make requests on any number of objects.  A request made on another thread than
the loop waits in the context until the loop sends it; one made in a callback is sent at
once.  connman takes the calls in the order in which they arrive.  It refuses a call, or
takes over the value of a setter, or answers GetProperties with the values it has.  It
announces every change of a property, its own ones too, in a PropertyChanged signal; to
set a property to the value it has is no change.  A ServicesChanged signal may carry any
of the values of a service.  The loop folds what it gets into the records, message by
message and in the order in which connman has sent them.

A record is therefore always behind the daemon by the messages on their way, and each
thread's requests take effect in the order in which it makes them.  All proxies have
subscribed to the signals of their objects; how a list comes to have the proxies it has
is left out.
-/

namespace GConnman.Connman

open GConnman.GLib GConnman.DBus GConnman.Foundation
open PropertyRecord KnownProperties

/-- An object of connman and its proxy. -/
abbrev Endpoint := Nat

/-- A thread that makes requests. -/
abbrev UserThread := Nat

/-- A changed property of an object. -/
abbrev Change := Endpoint × String × GVariant

/-- A request on one of the objects, which are of these interfaces. -/
structure ObjectRequest (kind : Endpoint → Interface) where
  object : Endpoint
  request : ProxyRequest (kind object)
  deriving DecidableEq

namespace ObjectRequest

variable {kind : Endpoint → Interface} (call : ObjectRequest kind)

/-- The change a request asks for. -/
def change : Option Change :=
  match call.request with
  | .set setter => some (call.object, setter.property, setter.value)
  | _ => none

end ObjectRequest

/-- The change is one of this property of this object. -/
def Change.of (object : Endpoint) (property : String) (change : Change) : Bool :=
  change.1 = object ∧ change.2.1 = property

/-- The request asks for a change of this property of this object. -/
def ObjectRequest.sets {kind : Endpoint → Interface} (object : Endpoint) (property : String)
    (call : ObjectRequest kind) : Bool :=
  call.change.any (Change.of object property)

/-- What connman sends about an object. -/
inductive ObjectMessage where
  /-- A PropertyChanged signal. -/
  | changed (change : Change)
  /-- The answer to GetProperties. -/
  | properties (object : Endpoint) (entries : List (String × GVariant))
  /-- What a ServicesChanged signal says of a service. -/
  | listed (object : Endpoint) (entries : List (String × GVariant))

namespace ObjectMessage

def object : ObjectMessage → Endpoint
  | changed change => change.1
  | properties object _ => object
  | listed object _ => object

def entries : ObjectMessage → List (String × GVariant)
  | changed change => [change.2]
  | properties _ entries => entries
  | listed _ entries => entries

/-- What the handler of the message does to the proxy: `on_properties_changed_cb`,
`get_property_cb` and `process_services_changed`. -/
def handle {Properties : Type} [PropertyRecord Properties] (proxy : DBusProxy Properties) :
    ObjectMessage → Outcome Fault (DBusProxy Properties)
  | changed change => proxy.updateProperty (.tuple [.string change.2.1, .variant change.2.2])
  | properties _ entries => proxy.updateProperties (GVariant.dictionary entries)
  | listed _ entries => proxy.updateProperties (GVariant.dictionary entries)

end ObjectMessage

/-- The requests, the daemon's values, the messages on their way and the proxies.  `sent`
records all messages. -/
structure WriteState (kind : Endpoint → Interface) where
  queue : CallQueue UserThread (ObjectRequest kind) := {}
  /-- connman's values; the last one for a name counts. -/
  values : Endpoint → List (String × GVariant)
  sent : List ObjectMessage := []
  messages : List ObjectMessage := []
  proxies : (object : Endpoint) → DBusProxy (kind object).Properties

inductive WriteEvent (kind : Endpoint → Interface) where
  /-- A thread makes a request. -/
  | call (thread : UserThread) (request : ObjectRequest kind)
  /-- The loop sends the first request that waits. -/
  | send
  /-- connman takes a call and does what it asks, or nothing. -/
  | take (grants : Bool)
  /-- connman changes a property by itself. -/
  | change (change : Change)
  /-- connman lists a service with its values for these names. -/
  | list (object : Endpoint) (names : List String)
  /-- The loop handles the first message. -/
  | deliver

namespace WriteState

variable {kind : Endpoint → Interface} (state : WriteState kind)

/-- connman sends a message. -/
def announce (message : ObjectMessage) : WriteState kind :=
  { state with sent := state.sent ++ [message], messages := state.messages ++ [message] }

/-- connman changes a property and announces it. -/
def change (change : Change) : WriteState kind :=
  { state with
    values := Function.update state.values change.1
      (assign change.2.1 change.2.2 (state.values change.1)) }.announce (.changed change)

/-- connman does what the call asks. -/
def grant (call : ObjectRequest kind) : WriteState kind :=
  match call.change with
  | some change => state.change change
  | none =>
      match call.request with
      | .getProperties => state.announce (.properties call.object (state.values call.object))
      | _ => state

/-- connman lists a service. -/
def list (object : Endpoint) (names : List String) : Option (WriteState kind) :=
  if kind object = .service then
    some (state.announce (.listed object
      ((state.values object).filter fun pair => pair.1 ∈ names)))
  else none

/-- The loop handles a message; there is no next state when the update raises. -/
def deliver : Option (WriteState kind) :=
  match state.messages with
  | [] => none
  | message :: rest =>
      let outcome := message.handle (state.proxies message.object)
      match outcome.raised with
      | none =>
          some { state with
            messages := rest
            proxies := Function.update state.proxies message.object outcome.state }
      | some _ => none

def step? (loop : UserThread) : WriteEvent kind → Option (WriteState kind)
  | .call thread request => some { state with queue := state.queue.make loop thread request }
  | .send => state.queue.send.map fun queue => { state with queue }
  | .take grants =>
      state.queue.take.map fun taken =>
        if grants then { state with queue := taken.2 }.grant taken.1.2
        else { state with queue := taken.2 }
  | .change change => some (state.change change)
  | .list object names => state.list object names
  | .deliver => state.deliver

/-- The system whose loop runs on this thread. -/
def machine (loop : UserThread) : Machine (WriteState kind) (WriteEvent kind) :=
  ⟨fun state => state.step? loop⟩

/-- Nothing is on its way in either direction. -/
def Quiet : Prop := state.queue.Quiet ∧ state.messages = []

end WriteState

/-- What some messages say of an object, as entries. -/
def entriesAbout (object : Endpoint) (messages : List ObjectMessage) : List (String × GVariant) :=
  (messages.filter fun message => message.object = object).flatMap ObjectMessage.entries

section Entries

variable {object : Endpoint} (messages : List ObjectMessage) (message : ObjectMessage)

theorem entriesAbout_append (more : List ObjectMessage) :
    entriesAbout object (messages ++ more) =
      entriesAbout object messages ++ entriesAbout object more := by
  rw [entriesAbout, List.filter_append, List.flatMap_append]
  rfl

theorem entriesAbout_concat_self (same : message.object = object) :
    entriesAbout object (messages ++ [message]) =
      entriesAbout object messages ++ message.entries := by
  rw [entriesAbout_append]
  simp [entriesAbout, same]

theorem entriesAbout_concat_of_ne (different : message.object ≠ object) :
    entriesAbout object (messages ++ [message]) = entriesAbout object messages := by
  rw [entriesAbout_append]
  simp [entriesAbout, different]

/-- A change of something else does not count. -/
theorem lastCarried_concat_changed {property : String} {change : Change}
    (other : change.of object property = false) :
    lastCarried property (entriesAbout object (messages ++ [.changed change])) =
      lastCarried property (entriesAbout object messages) := by
  by_cases same : change.1 = object
  · have named : change.2.1 ≠ property := by simpa [Change.of, same] using other
    rw [entriesAbout_concat_self messages (.changed change) same, lastCarried_append]
    simp [ObjectMessage.entries, lastCarried, named]
  · rw [entriesAbout_concat_of_ne messages (.changed change) same]

end Entries

namespace ObjectMessage

variable {Properties : Type} [PropertyRecord Properties] [KnownProperties Properties]
  (proxy : DBusProxy Properties) (message : ObjectMessage)

/-- A message that carries known values is folded into the record. -/
theorem handle_of_known (accepted : knownEntries Properties message.entries = true) :
    message.handle proxy = .done { proxy with props := fold proxy.props message.entries } := by
  cases message with
  | changed change =>
      -- the body of the signal and an entry of a dictionary are read alike
      have single : known Properties change.2.1 change.2.2 = true := by
        simpa [entries, knownEntries] using accepted
      exact proxy.updateProperty_of_known single
  | properties object entries => exact proxy.updateProperties_of_known accepted
  | listed object entries => exact proxy.updateProperties_of_known accepted

theorem handle_raised_iff :
    (message.handle proxy).raised = none ↔ knownEntries Properties message.entries = true := by
  refine ⟨fun normal => ?_, fun accepted => by rw [message.handle_of_known proxy accepted]; rfl⟩
  cases message with
  | changed change =>
      by_contra unknown
      have single : known Properties change.2.1 change.2.2 = false := by
        simpa [entries, knownEntries] using unknown
      obtain ⟨fault, failed⟩ := proxy.updateProperty_of_unknown single
      change (proxy.updateProperty (GVariant.entry change.2)).raised = none at normal
      rw [failed] at normal
      cases normal
  | properties object entries => exact (proxy.updateProperties_raised entries).mp normal
  | listed object entries => exact (proxy.updateProperties_raised entries).mp normal

end ObjectMessage

namespace WriteState

variable {kind : Endpoint → Interface} {loop : UserThread} {state next : WriteState kind}
  {event : WriteEvent kind}

/-! ## What each event does -/

/-- The effect of an event. -/
inductive Effect (loop : UserThread) (state : WriteState kind) :
    WriteEvent kind → WriteState kind → Prop where
  | call (thread : UserThread) (request : ObjectRequest kind) :
      Effect loop state (.call thread request)
        { state with queue := state.queue.make loop thread request }
  | send {queue : CallQueue UserThread (ObjectRequest kind)}
      (sends : state.queue.send = some queue) :
      Effect loop state .send { state with queue }
  | takeOver {call : UserThread × ObjectRequest kind}
      {queue : CallQueue UserThread (ObjectRequest kind)} {change : Change}
      (takes : state.queue.take = some (call, queue)) (asks : call.2.change = some change) :
      Effect loop state (.take true) ({ state with queue }.change change)
  | answer {call : UserThread × ObjectRequest kind}
      {queue : CallQueue UserThread (ObjectRequest kind)}
      (takes : state.queue.take = some (call, queue)) (asks : call.2.request = .getProperties) :
      Effect loop state (.take true) ({ state with queue }.announce
        (.properties call.2.object (state.values call.2.object)))
  | take {grants : Bool} {call : UserThread × ObjectRequest kind}
      {queue : CallQueue UserThread (ObjectRequest kind)}
      (takes : state.queue.take = some (call, queue))
      (leaves : grants = true → call.2.change = none) :
      Effect loop state (.take grants) { state with queue }
  | change (change : Change) : Effect loop state (.change change) (state.change change)
  | list {object : Endpoint} (names : List String) (service : kind object = .service) :
      Effect loop state (.list object names)
        (state.announce (.listed object
          ((state.values object).filter fun pair => pair.1 ∈ names)))
  | deliver {message : ObjectMessage} {rest : List ObjectMessage}
      (pending : state.messages = message :: rest)
      (accepted : knownEntries (kind message.object).Properties message.entries = true) :
      Effect loop state .deliver
        { state with
          messages := rest
          proxies := Function.update state.proxies message.object
            { state.proxies message.object with
              props := fold (state.proxies message.object).props message.entries } }

theorem effect_of_deliver (delivers : state.deliver = some next) :
    Effect loop state .deliver next := by
  unfold deliver at delivers
  cases pending : state.messages with
  | nil => simp [pending] at delivers
  | cons message rest =>
      simp only [pending] at delivers
      cases raised : (message.handle (state.proxies message.object)).raised with
      | some fault => simp [raised] at delivers
      | none =>
          have accepted := (message.handle_raised_iff _).mp raised
          simp only [message.handle_of_known _ accepted, Outcome.done_raised, Outcome.done_state,
            Option.some.injEq] at delivers
          rw [← delivers]
          exact .deliver pending accepted

theorem effect_of_step (stepped : state.step? loop event = some next) :
    Effect loop state event next := by
  cases event with
  | call thread request =>
      cases stepped
      exact .call thread request
  | send =>
      obtain ⟨queue, sends, rfl⟩ := Option.map_eq_some_iff.mp stepped
      exact .send sends
  | take grants =>
      obtain ⟨⟨call, queue⟩, takes, rfl⟩ := Option.map_eq_some_iff.mp stepped
      cases grants with
      | false => exact .take takes nofun
      | true =>
          cases asks : call.2.change with
          | some change => simpa [grant, asks] using Effect.takeOver takes asks
          | none =>
              have taken : Effect loop state (.take true) { state with queue } :=
                .take takes fun _ => asks
              simp only [if_true, grant, asks]
              split
              · rename_i properties
                exact .answer takes properties
              · exact taken
  | change change =>
      cases stepped
      exact .change change
  | list object names =>
      obtain ⟨service, ⟨⟩⟩ := Option.ite_none_right_eq_some.mp stepped
      exact .list names service
  | deliver => exact effect_of_deliver stepped

/-! ## Records behind the daemon -/

/-- Every record is what the messages delivered so far have made of it; the others are
still on their way. -/
def Behind (origin : (object : Endpoint) → DBusProxy (kind object).Properties)
    (state : WriteState kind) : Prop :=
  ∃ delivered, state.sent = delivered ++ state.messages ∧
    ∀ object, knownEntries (kind object).Properties (entriesAbout object delivered) = true ∧
      state.proxies object =
        { origin object with
          props := fold (origin object).props (entriesAbout object delivered) }

/-- The next message is folded into its record. -/
theorem proxies_deliver {proxies origin : (object : Endpoint) → DBusProxy (kind object).Properties}
    {delivered : List ObjectMessage} (message : ObjectMessage)
    (accepted : knownEntries (kind message.object).Properties message.entries = true)
    (before : ∀ object,
      knownEntries (kind object).Properties (entriesAbout object delivered) = true ∧
        proxies object =
          { origin object with
            props := fold (origin object).props (entriesAbout object delivered) })
    (object : Endpoint) :
    knownEntries (kind object).Properties (entriesAbout object (delivered ++ [message])) = true ∧
      Function.update proxies message.object
          { proxies message.object with
            props := fold (proxies message.object).props message.entries } object =
        { origin object with
          props := fold (origin object).props (entriesAbout object (delivered ++ [message])) } := by
  obtain ⟨known, folded⟩ := before object
  by_cases same : message.object = object
  · subst same
    rw [entriesAbout_concat_self delivered message rfl, Function.update_self, folded, fold_append]
    refine ⟨?_, rfl⟩
    rw [knownEntries, List.all_append, Bool.and_eq_true]
    exact ⟨known, accepted⟩
  · rw [entriesAbout_concat_of_ne delivered message same, Function.update_of_ne (Ne.symm same)]
    exact ⟨known, folded⟩

theorem Behind.step {origin : (object : Endpoint) → DBusProxy (kind object).Properties}
    (behind : Behind origin state) (stepped : state.step? loop event = some next) :
    Behind origin next := by
  obtain ⟨delivered, split, records⟩ := behind
  have announced : ∀ message, state.sent ++ [message] =
      delivered ++ (state.messages ++ [message]) := by
    intro message
    rw [split, List.append_assoc]
  cases effect_of_step stepped with
  | call thread request => exact ⟨delivered, split, records⟩
  | send sends => exact ⟨delivered, split, records⟩
  | take takes leaves => exact ⟨delivered, split, records⟩
  | takeOver takes asks => exact ⟨delivered, announced _, records⟩
  | answer takes asks => exact ⟨delivered, announced _, records⟩
  | change change => exact ⟨delivered, announced _, records⟩
  | list names service => exact ⟨delivered, announced _, records⟩
  | @deliver message rest pending accepted =>
      refine ⟨delivered ++ [message], ?_, proxies_deliver message accepted records⟩
      rw [split, pending, List.append_assoc]
      rfl

/-- With no message about an object on its way, its record is what all of them have made
of it. -/
theorem Behind.of_delivered {origin : (object : Endpoint) → DBusProxy (kind object).Properties}
    (behind : Behind origin state) {object : Endpoint}
    (arrived : ∀ message ∈ state.messages, message.object ≠ object) :
    knownEntries (kind object).Properties (entriesAbout object state.sent) = true ∧
      state.proxies object =
        { origin object with
          props := fold (origin object).props (entriesAbout object state.sent) } := by
  obtain ⟨delivered, split, records⟩ := behind
  have nothing : entriesAbout object state.messages = [] := by
    have none : state.messages.filter (fun message => message.object = object) = [] :=
      List.filter_eq_nil_iff.mpr fun message member => by simpa using arrived message member
    rw [entriesAbout, none, List.flatMap_nil]
  rw [split, entriesAbout_append, nothing, List.append_nil]
  exact records object

/-! ## The order of the requests -/

/-- connman takes the requests of every thread in the order in which they are made. -/
def Ordered (loop : UserThread) (state : WriteState kind) : Prop :=
  CallQueue.InOrder loop state.queue

theorem Ordered.step (ordered : Ordered loop state)
    (stepped : state.step? loop event = some next) : Ordered loop next := by
  cases effect_of_step stepped with
  | call thread request => exact CallQueue.InOrder.make ordered thread request
  | send sends => exact CallQueue.InOrder.send ordered sends
  | takeOver takes asks => exact CallQueue.InOrder.take ordered takes
  | answer takes asks => exact CallQueue.InOrder.take ordered takes
  | take takes leaves => exact CallQueue.InOrder.take ordered takes
  | change change => exact ordered
  | list names service => exact ordered
  | deliver pending accepted => exact ordered

theorem Ordered.of_run {guard : WriteState kind → WriteEvent kind → Prop}
    {values : Endpoint → List (String × GVariant)}
    {origin : (object : Endpoint) → DBusProxy (kind object).Properties}
    {events : List (WriteEvent kind)} {finish : WriteState kind}
    (run : (machine loop).Run guard { values, proxies := origin } events finish) :
    Ordered loop finish :=
  run.invariant (fun _ _ _ ordered _ stepped => ordered.step stepped) (CallQueue.inOrder_start loop)

/-- For every thread, connman has taken the first of the requests it has made, each once
and in their order; when nothing is on its way, it has taken all of them. -/
theorem requests_in_order {values : Endpoint → List (String × GVariant)}
    {origin : (object : Endpoint) → DBusProxy (kind object).Properties}
    {events : List (WriteEvent kind)} {finish : WriteState kind}
    (run : (machine loop).Run Machine.anyStep { values, proxies := origin } events finish)
    (thread : UserThread) :
    CallQueue.callsOf thread finish.queue.taken <+: CallQueue.callsOf thread finish.queue.made ∧
      (finish.queue.Quiet →
        CallQueue.callsOf thread finish.queue.taken =
          CallQueue.callsOf thread finish.queue.made) :=
  have ordered : CallQueue.InOrder loop finish.queue := Ordered.of_run run
  ⟨ordered.taken_prefix thread, fun quiet => ordered.taken_of_quiet quiet thread⟩

/-- A request made in a callback overtakes one that another thread has made before. -/
theorem requests_in_order_callback :
    ∃ finish : WriteState fun _ => .service,
      finish.queue.taken.map (fun call => call.1) = [0, 1] ∧
        CallQueue.callsOf 1 finish.queue.taken = CallQueue.callsOf 1 finish.queue.made := by
  have executes : ((machine 0).exec? Machine.anyStep
      ({ values := fun _ => [], proxies := fun _ => { objPath := "/wifi", props := {} } } :
        WriteState fun _ => .service)
      [.call 1 ⟨0, .connect⟩, .call 0 ⟨1, .disconnect⟩, .send, .take true, .take false]).any
      (fun state => state.queue.waiting = [] ∧ state.queue.sent = [] ∧
        state.queue.taken.map (fun call => call.1) = [0, 1]) = true := by
    decide
  obtain ⟨finish, run, passes⟩ := Machine.Run.exists_of_exec executes
  obtain ⟨waiting, sent, overtaken⟩ := of_decide_eq_true passes
  exact ⟨finish, overtaken, (requests_in_order run 1).2 ⟨waiting, sent⟩⟩

/-! ## What connman has sent -/

/-- What connman has said of an object last is what it has. -/
def Truthful (state : WriteState kind) : Prop :=
  ∀ object, TakenFrom (entriesAbout object state.sent) (state.values object)

theorem Truthful.change (truthful : Truthful state) (change : Change) :
    Truthful (state.change change) := by
  intro object
  change TakenFrom (entriesAbout object (state.sent ++ [.changed change]))
    (Function.update state.values change.1 _ object)
  by_cases same : change.1 = object
  · subst same
    have own : (ObjectMessage.changed change).object = change.1 := rfl
    rw [entriesAbout_concat_self state.sent _ own, Function.update_self]
    exact (truthful change.1).assign change.2.1 change.2.2
  · rw [entriesAbout_concat_of_ne state.sent (.changed change) same,
      Function.update_of_ne (Ne.symm same)]
    exact truthful object

/-- connman may say again what it has. -/
theorem Truthful.announce (truthful : Truthful state) {message : ObjectMessage}
    (taken : TakenFrom message.entries (state.values message.object)) :
    Truthful (state.announce message) := by
  intro object
  change TakenFrom (entriesAbout object (state.sent ++ [message])) (state.values object)
  by_cases same : message.object = object
  · subst same
    rw [entriesAbout_concat_self state.sent message rfl]
    exact (truthful message.object).append taken
  · rw [entriesAbout_concat_of_ne state.sent message same]
    exact truthful object

theorem Truthful.step (truthful : Truthful state) (stepped : state.step? loop event = some next) :
    Truthful next := by
  cases effect_of_step stepped with
  | call thread request => exact truthful
  | send sends => exact truthful
  | takeOver takes asks => exact Truthful.change truthful _
  | answer takes asks => exact Truthful.announce truthful (TakenFrom.refl _)
  | take takes leaves => exact truthful
  | change change => exact truthful.change change
  | list names service => exact truthful.announce (TakenFrom.names names _)
  | deliver pending accepted => exact truthful

/-- What was said last of a property stays so when it is said again. -/
theorem Truthful.lastCarried_announce (truthful : Truthful state) (message : ObjectMessage)
    (taken : TakenFrom message.entries (state.values message.object)) {object : Endpoint}
    {property : String} {value : GVariant}
    (last : lastCarried property (entriesAbout object state.sent) = some value) :
    lastCarried property (entriesAbout object (state.sent ++ [message])) = some value := by
  by_cases same : message.object = object
  · subst same
    rw [entriesAbout_concat_self state.sent message rfl]
    exact taken.lastCarried_append (truthful message.object property value last) last
  · rw [entriesAbout_concat_of_ne state.sent message same]
    exact last

/-! ## The last write -/

/-- The requests among these that set the property of the object. -/
def setsOf (object : Endpoint) (property : String)
    (calls : List (UserThread × ObjectRequest kind)) : List (UserThread × ObjectRequest kind) :=
  calls.filter fun call => call.2.sets object property

/-- The property of the object is changed only by what this thread sets it to, and to
all of it; only to set it as before is no change. -/
def Owned (object : Endpoint) (property : String) (thread : UserThread)
    (state : WriteState kind) : WriteEvent kind → Prop
  | .call caller request => request.sets object property = true → caller = thread
  | .take grants =>
      grants = false → ∀ call ∈ state.queue.sent.head?, call.2.sets object property = true →
        (setsOf object property state.queue.taken).getLast?.map Prod.snd = some call.2
  | .change change => change.of object property = false
  | _ => True

instance (object : Endpoint) (property : String) (thread : UserThread) (state : WriteState kind) :
    (event : WriteEvent kind) → Decidable (Owned object property thread state event)
  | .call caller request =>
      inferInstanceAs (Decidable (request.sets object property = true → caller = thread))
  | .take grants =>
      inferInstanceAs (Decidable (grants = false →
        ∀ call ∈ state.queue.sent.head?, call.2.sets object property = true →
          (setsOf object property state.queue.taken).getLast?.map Prod.snd = some call.2))
  | .change change => inferInstanceAs (Decidable (change.of object property = false))
  | .send => .isTrue trivial
  | .list _ _ => .isTrue trivial
  | .deliver => .isTrue trivial

/-- What connman has said last of the property is the value of the last request that sets
it. -/
structure Tracked (object : Endpoint) (property : String) (thread : UserThread)
    (state : WriteState kind) : Prop where
  last : ∀ call ∈ (setsOf object property state.queue.taken).getLast?, ∀ value,
    call.2.change = some (object, property, value) →
      lastCarried property (entriesAbout object state.sent) = some value
  own : ∀ call ∈ state.queue.made, call.2.sets object property = true → call.1 = thread

theorem sets_eq_false_of_change_eq_none {object : Endpoint} {property : String}
    {call : ObjectRequest kind} (asksNothing : call.change = none) :
    call.sets object property = false := by
  rw [ObjectRequest.sets, asksNothing]
  rfl

theorem change_eq_none_of_getProperties {call : ObjectRequest kind}
    (asks : call.request = .getProperties) : call.change = none := by
  rw [ObjectRequest.change, asks]

/-- The last one that is picked is the new one or the one before. -/
theorem getLast?_filter_append {α : Type} (picks : α → Bool) (items : List α) (item : α) :
    ((items ++ [item]).filter picks).getLast? =
      if picks item then some item else (items.filter picks).getLast? := by
  cases picked : picks item <;> simp [picked]

section Tracking

variable {object : Endpoint} {property : String} {thread : UserThread}

/-- The value of the last request is that of the new one, or of the one before. -/
theorem Tracked.take (tracked : Tracked object property thread state)
    {call : UserThread × ObjectRequest kind} {queue : CallQueue UserThread (ObjectRequest kind)}
    (takes : state.queue.take = some (call, queue)) (next : WriteState kind)
    (queued : next.queue = queue)
    (kept : call.2.sets object property = false → ∀ value,
      lastCarried property (entriesAbout object state.sent) = some value →
        lastCarried property (entriesAbout object next.sent) = some value)
    (new : call.2.sets object property = true → ∀ value,
      call.2.change = some (object, property, value) →
        lastCarried property (entriesAbout object next.sent) = some value) :
    Tracked object property thread next := by
  obtain ⟨-, made, taken⟩ := CallQueue.records_of_take takes
  refine ⟨?_, ?_⟩
  · rw [queued, taken, setsOf, getLast?_filter_append]
    cases sets : call.2.sets object property with
    | true =>
        intro other same value asks
        cases same
        exact new sets value asks
    | false =>
        intro other last value asks
        exact kept sets value (tracked.last other last value asks)
  · rw [queued, made]
    exact tracked.own

theorem Tracked.step (tracked : Tracked object property thread state) (truthful : Truthful state)
    (owned : Owned object property thread state event)
    (stepped : state.step? loop event = some next) : Tracked object property thread next := by
  cases effect_of_step stepped with
  | call caller request =>
      refine ⟨?_, ?_⟩
      · change ∀ call ∈ (setsOf object property
          (state.queue.make loop caller request).taken).getLast?, _
        rw [CallQueue.taken_make]
        exact tracked.last
      · intro call member sets
        change call ∈ (state.queue.make loop caller request).made at member
        rw [CallQueue.made_make] at member
        rcases List.mem_append.mp member with before | last
        · exact tracked.own call before sets
        · cases List.mem_singleton.mp last
          exact owned sets
  | @send queue sends =>
      obtain ⟨made, taken⟩ := CallQueue.records_of_send sends
      refine ⟨?_, ?_⟩
      · change ∀ call ∈ (setsOf object property queue.taken).getLast?, _
        rw [taken]
        exact tracked.last
      · change ∀ call ∈ queue.made, _
        rw [made]
        exact tracked.own
  | @takeOver call queue change takes asks =>
      have concerns : call.2.sets object property = change.of object property := by
        rw [ObjectRequest.sets, asks]
        rfl
      refine tracked.take takes _ rfl (fun other value last => ?_) fun _ value carries => ?_
      · rw [concerns] at other
        exact (lastCarried_concat_changed state.sent other).trans last
      · rw [asks, Option.some.injEq] at carries
        subst carries
        change lastCarried property (entriesAbout object (state.sent ++ [_])) = _
        have own : (ObjectMessage.changed (object, property, value)).object = object := rfl
        rw [entriesAbout_concat_self state.sent _ own, lastCarried_append]
        simp [ObjectMessage.entries, lastCarried]
  | @answer call queue takes asks =>
      have unset : call.2.sets object property = false :=
        sets_eq_false_of_change_eq_none (change_eq_none_of_getProperties asks)
      refine tracked.take takes _ rfl (fun _ value last => ?_) fun sets => ?_
      · exact truthful.lastCarried_announce _ (TakenFrom.refl _) last
      · rw [unset] at sets
        cases sets
  | @take grants call queue takes leaves =>
      refine tracked.take takes _ rfl (fun _ value last => last) fun sets value carries => ?_
      -- the request repeats the one before
      have silent : grants = false := by
        rw [Bool.eq_false_iff]
        intro granted
        rw [leaves granted] at carries
        cases carries
      have head := (CallQueue.records_of_take takes).1
      obtain ⟨before, last, repeated⟩ :=
        Option.map_eq_some_iff.mp (owned silent call head sets)
      exact tracked.last before last value (repeated ▸ carries)
  | change change =>
      have other : change.of object property = false := owned
      refine ⟨fun call last value carries => ?_, tracked.own⟩
      exact (lastCarried_concat_changed state.sent other).trans
        (tracked.last call last value carries)
  | @list listed names service =>
      refine ⟨fun call last value carries => ?_, tracked.own⟩
      exact truthful.lastCarried_announce (.listed listed _)
        (TakenFrom.names names (state.values listed)) (tracked.last call last value carries)
  | deliver pending accepted => exact ⟨tracked.last, tracked.own⟩

end Tracking

variable {values : Endpoint → List (String × GVariant)}
  {origin : (object : Endpoint) → DBusProxy (kind object).Properties}
  {events : List (WriteEvent kind)} {finish : WriteState kind}

/-- When nothing is on its way, the record is as the last of the requests makes it. -/
theorem Tracked.assigned {object : Endpoint} {property : String} {thread : UserThread}
    (tracked : Tracked object property thread state) (behind : Behind origin state)
    (ordered : Ordered loop state) (quiet : state.Quiet) {setter : Setter (kind object)}
    (last : (setsOf object property state.queue.made).getLast? =
      some (thread, ⟨object, .set setter⟩)) :
    setter.assign (state.proxies object).props = (state.proxies object).props := by
  have arrived : ∀ message ∈ state.messages, message.object ≠ object := by
    rw [quiet.2]
    exact nofun
  obtain ⟨accepted, folded⟩ := behind.of_delivered arrived
  have named : setter.property = property := by
    obtain ⟨before, calls⟩ := List.getLast?_eq_some_iff.mp last
    have member : (thread, (⟨object, .set setter⟩ : ObjectRequest kind)) ∈
        setsOf object property state.queue.made := by
      rw [calls]
      exact List.mem_append_right _ List.mem_cons_self
    have sets := (List.mem_filter.mp member).2
    simpa [ObjectRequest.sets, ObjectRequest.change, Change.of] using sets
  have carried : lastCarried setter.property (entriesAbout object state.sent) =
      some setter.value := by
    have taken : setsOf object property state.queue.taken =
        setsOf object property state.queue.made :=
      CallQueue.InOrder.filter_taken_of_quiet ordered quiet.1 tracked.own
    rw [← taken] at last
    subst named
    exact tracked.last _ last setter.value rfl
  rw [folded]
  exact setter.assign_of_lastCarried (origin object).props accepted carried

end WriteState

end GConnman.Connman
