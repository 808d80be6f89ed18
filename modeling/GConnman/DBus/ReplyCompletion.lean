import GConnman.Connman.Properties
import GConnman.DBus.CallbackTable
import GConnman.DBus.PendingCalls

/-!
# Completing a property request

`get_property_cb` takes over its request, applies the reply and then completes
the request.  While it does, other threads and the callback itself go on.  An
error reply changes no property, so such a request is always completed.  A
dictionary is applied outside of any handler for exceptions: the request is
completed exactly when no entry raises.
-/

namespace GConnman.DBus

open GConnman.GLib GConnman.Foundation GConnman.Connman

namespace System

variable {Properties : ProxyId → Type}

/-- What can happen while a reply is handled: other threads and the running
callback prepare requests, and a thread stops the bus. -/
def Interference : Event → Prop
  | .prepare _ _ _ _ | .clearRunning | .quitWhenIdle => True
  | _ => False

/-- Interference, with fewer than `2 ^ 64` requests for every proxy. -/
def Meanwhile (system : System Properties) (event : Event) : Prop :=
  FewRequests system event ∧ Interference event

instance (event : Event) : Decidable (Interference event) :=
  match event with
  | .prepare _ _ _ _ | .clearRunning | .quitWhenIdle => .isTrue trivial
  | .dispatchReply _ _ | .enterCallBack | .leaveCallBack | .dispatchSignal _ _ | .leaveSignal
  | .loopReturns | .stopReturns => .isFalse id

/-- The request is completed without another call, and counted down. -/
structure Ends (before done : System Properties) (id : RequestId) : Prop where
  completed : done.completed = before.completed ++ [id]
  invocations : done.invocations = before.invocations
  pendingCalls : done.dbus.pendingCalls = before.dbus.pendingCalls - 1

variable [∀ proxy, PropertyRecord (Properties proxy)]

/-- Whatever happens meanwhile, the next step of the loop thread completes the request. -/
def CompletesPlain (replied : System Properties) (id : RequestId) : Prop :=
  ∀ events before, machine.Run Meanwhile replied events before →
    ∃ done, machine.step? before .enterCallBack = some done ∧ Ends before done id

/-- Whatever happens meanwhile, the next step of the loop thread calls the callback
with the argument, and the step after its return completes the request and
removes its entry. -/
def CompletesCalled (replied : System Properties) (id : RequestId) (proxy : ProxyId)
    (callback : CallbackId) (argument : Argument Properties) (counter : UInt64) : Prop :=
  ∀ events before, machine.Run Meanwhile replied events before →
    ∃ called, machine.step? before .enterCallBack = some called ∧
      called.invocations = before.invocations ++ [⟨id, callback, argument⟩] ∧
      called.dbus = before.dbus ∧
      ∀ events after, machine.Run Meanwhile called events after →
        ∃ done, machine.step? after .leaveCallBack = some done ∧ Ends after done id ∧
          (done.proxies proxy).callbacks counter = none

/-- The reply to a request leads to its completion: its callback, if it has one, is
called exactly once, its entry is removed and the counter is decremented. -/
def Completes (system : System Properties) (id : RequestId) (request : Request)
    (reply : Option GVariant) : Prop :=
  ∃ argument replied, machine.step? system (.dispatchReply id reply) = some replied ∧
    replied.activity = .replied id argument ∧ replied.dbus = system.dbus ∧
    match request.callback with
    | none => CompletesPlain replied id
    | some callback => ∃ counter, request.counter = some counter ∧
        CompletesCalled replied id request.proxy callback argument counter

/-! ## Interference -/

/-- Interference leaves the loop thread where it is, and requests are only added. -/
theorem meanwhile_effect {system next : System Properties} {event : Event}
    (interferes : Interference event) (effect : Effect system event next) :
    next.activity = system.activity ∧ system.prepared <+: next.prepared := by
  cases effect with
  | prepare proxy operation callback allowed => exact ⟨rfl, List.prefix_append _ _⟩
  | clearRunning phase => exact ⟨rfl, List.prefix_refl _⟩
  | quitWhenIdle phase => exact ⟨rfl, List.prefix_refl _⟩
  | _ => cases interferes

/-- What interference keeps: the tables are exact, the loop thread does what it did,
and the request is the one it was. -/
structure Handling (activity : Activity Properties) (id : RequestId) (request : Request)
    (system : System Properties) : Prop where
  tabled : Tabled system
  activity : system.activity = activity
  stored : system.prepared[id]? = some request

theorem handling_run {activity : Activity Properties} {id : RequestId} {request : Request}
    {system last : System Properties} {events : List Event}
    (handling : Handling activity id request system)
    (run : machine.Run Meanwhile system events last) : Handling activity id request last := by
  refine run.invariant ?_ handling
  intro state event next held guarded stepped
  have effect := effect_of_step stepped
  obtain ⟨same, added⟩ := meanwhile_effect guarded.2 effect
  obtain ⟨inside, found⟩ := List.getElem?_eq_some_iff.mp held.stored
  constructor
  · exact tabled_effect held.tabled guarded.1 effect
  · rw [same, held.activity]
  · rw [List.prefix_iff_getElem?.mp added id inside, found]

/-! ## The rest of the completion -/

theorem completesPlain_of_handling {replied : System Properties} {id : RequestId}
    {request : Request} {argument : Argument Properties}
    (handling : Handling (.replied id argument) id request replied)
    (plain : request.callback = none) : CompletesPlain replied id := by
  intro events before run
  have held := handling_run handling run
  obtain ⟨done, stepped⟩ := Option.isSome_iff_exists.mp
    (enterCallBack_isSome held.tabled held.activity)
  refine ⟨done, stepped, ?_⟩
  have carries := held.tabled.carried id request held.stored
  rw [plain] at carries
  have effect : Effect before .enterCallBack done := effect_of_step stepped
  cases effect with
  | finish activity stored uncounted =>
      rw [held.activity] at activity
      cases activity
      exact ⟨rfl, rfl, DBusState.onAnyAsyncDone_pendingCalls⟩
  | enter activity stored counted found =>
      rw [held.activity] at activity
      cases activity
      rw [held.stored] at stored
      cases stored
      rw [counted] at carries
      cases carries

theorem leaves_of_handling {after : System Properties} {id : RequestId} {request : Request}
    {counter : UInt64} (handling : Handling (.invoking id) id request after)
    (counted : request.counter = some counter) :
    ∃ done, machine.step? after .leaveCallBack = some done ∧ Ends after done id ∧
      (done.proxies request.proxy).callbacks counter = none := by
  have stepped : machine.step? after .leaveCallBack =
      some ({ after with
        proxies := Function.update after.proxies request.proxy
          ((after.proxies request.proxy).eraseCallBack counter) }.complete id) := by
    change after.leaveCallBack = _
    rw [leaveCallBack, handling.activity]
    simp only [handling.stored, Option.bind_some, counted, Option.map_some]
  refine ⟨_, stepped, ⟨rfl, rfl, DBusState.onAnyAsyncDone_pendingCalls⟩, ?_⟩
  change (Function.update after.proxies request.proxy _ request.proxy).callbacks counter = none
  rw [Function.update_self]
  exact Function.update_self ..

theorem completesCalled_of_handling {replied : System Properties} {id : RequestId}
    {request : Request} {argument : Argument Properties} {callback : CallbackId}
    {counter : UInt64} (handling : Handling (.replied id argument) id request replied)
    (called : request.callback = some callback) (counted : request.counter = some counter) :
    CompletesCalled replied id request.proxy callback argument counter := by
  intro events before run
  have held := handling_run handling run
  obtain ⟨entered, stepped⟩ := Option.isSome_iff_exists.mp
    (enterCallBack_isSome held.tabled held.activity)
  have active : id ∈ before.activity.requests := by
    rw [held.activity]
    exact List.mem_singleton_self id
  have outstanding := outstanding_of_active held.tabled.accounted active
  have effect : Effect before .enterCallBack entered := effect_of_step stepped
  have few : FewRequests before .enterCallBack := trivial
  have tabled := tabled_effect held.tabled few effect
  cases effect with
  | finish activity stored uncounted =>
      rw [held.activity] at activity
      cases activity
      rw [held.stored] at stored
      cases stored
      rw [counted] at uncounted
      cases uncounted
  | enter activity stored counted' found =>
      rw [held.activity] at activity
      cases activity
      rw [held.stored] at stored
      cases stored
      rw [counted] at counted'
      cases counted'
      obtain ⟨given, carried, result⟩ := held.tabled.found outstanding held.stored counted
      rw [called] at carried
      cases carried
      rw [result] at found
      cases found
      refine ⟨_, stepped, rfl, rfl, ?_⟩
      intro events after later
      have invoking : Handling (.invoking id) id request _ := ⟨tabled, rfl, held.stored⟩
      exact leaves_of_handling (handling_run invoking later) counted

/-! ## Completion and unknown entries -/

variable [∀ proxy, KnownProperties (Properties proxy)]

variable (Properties) in
/-- The reply is an error, or a dictionary whose values the record of its proxy knows. -/
def Decodable (request : Request) (reply : Option (List (String × GVariant))) : Prop :=
  ∀ entries, reply = some entries →
    knownEntries (Properties request.proxy) entries = true

/-- The reply to a `GetProperties` request is handled up to its completion exactly
when it decodes. -/
theorem handle_getPropertyCb_isSome_iff {request : Request}
    (proxy : DBusProxy (Properties request.proxy)) (reply : Option (List (String × GVariant))) :
    (∃ handled, ReplyHandler.getPropertyCb.handle request.proxy proxy
      (reply.map GVariant.dictionary) = some handled) ↔
        Decodable Properties request reply := by
  cases reply with
  | none => exact iff_of_true ⟨_, rfl⟩ (by rintro entries ⟨⟩)
  | some entries =>
      have decodable : Decodable Properties request (some entries) ↔
          knownEntries (Properties request.proxy) entries = true := by
        constructor
        · exact fun known => known entries rfl
        · rintro known _ ⟨⟩
          exact known
      rw [decodable, ← proxy.updateProperties_raised entries]
      simp only [Option.map_some, ReplyHandler.handle]
      cases (proxy.updateProperties (GVariant.dictionary entries)).raised with
      | none => exact iff_of_true ⟨_, rfl⟩ rfl
      | some fault => exact iff_of_false nofun nofun

theorem handler_of_getProperties {request : Request} (read : request.operation = .getProperties) :
    request.operation.replyHandler = .getPropertyCb := by
  rw [read]
  rfl

/-- In every run with fewer than `2 ^ 64` requests for each proxy, a request for
properties is completed by its reply exactly when the reply is an error or all of
its entries decode. -/
theorem getProperties_completes_iff {objPath : ProxyId → String}
    {props : (proxy : ProxyId) → Properties proxy} {events : List Event}
    {system : System Properties}
    (run : machine.Run FewRequests (start objPath props) events system)
    (ready : system.ready = true) {id : RequestId} (waiting : id ∈ system.inFlight)
    {request : Request} (stored : system.prepared[id]? = some request)
    (read : request.operation = .getProperties) (reply : Option (List (String × GVariant))) :
    Completes system id request (reply.map GVariant.dictionary) ↔
      Decodable Properties request reply := by
  have tabled := tabled_run run
  have handles := handle_getPropertyCb_isSome_iff (system.proxies request.proxy) reply
  constructor
  · rintro ⟨argument, replied, stepped, -⟩
    have effect : Effect system (.dispatchReply id _) replied := effect_of_step stepped
    cases effect with
    | reply ready member found result =>
        rw [stored] at found
        cases found
        rw [handler_of_getProperties read] at result
        exact handles.mp ⟨_, result⟩
  · intro decodable
    obtain ⟨handled, result⟩ := handles.mpr decodable
    have stepped : machine.step? system (.dispatchReply id (reply.map GVariant.dictionary)) =
        some { system with
          proxies := Function.update system.proxies request.proxy handled.1
          inFlight := system.inFlight.erase id
          activity := .replied id handled.2
          served := system.served ++ [⟨id, reply.map GVariant.dictionary, system.proxies⟩] } := by
      change system.dispatchReply id _ = _
      rw [dispatchReply, if_pos ⟨ready, waiting⟩, stored, Option.bind_some,
        handler_of_getProperties read, result]
      rfl
    have few : FewRequests system (.dispatchReply id (reply.map GVariant.dictionary)) := trivial
    have handling : Handling (.replied id handled.2) id request _ :=
      ⟨tabled_effect tabled few (effect_of_step stepped), rfl, stored⟩
    refine ⟨handled.2, _, stepped, rfl, rfl, ?_⟩
    cases given : request.callback with
    | none => exact completesPlain_of_handling handling given
    | some callback =>
        have carries := tabled.carried id request stored
        rw [given] at carries
        obtain ⟨counter, counted⟩ := Option.isSome_iff_exists.mp carries
        exact ⟨counter, counted, completesCalled_of_handling handling given counted⟩

/-- A clock request with a callback is completed by a dictionary it can decode. -/
theorem clock_request_completes :
    ∃ system : System fun _ => ClockProperties,
      machine.Run FewRequests (start (fun _ => "/") fun _ => {})
          [.prepare .thread 0 .getProperties (some 1)] system ∧
        Completes system 0 ⟨0, .getProperties, some 1, some 1, none⟩
          (some (.dictionary [("TimeUpdates", .string "auto")])) := by
  have executes : (machine.exec? FewRequests
      (start (fun _ => "/") fun _ => ({} : ClockProperties))
      [.prepare .thread 0 .getProperties (some 1)]).any
      (fun system => system.ready ∧ 0 ∈ system.inFlight ∧
        system.prepared[0]? = some ⟨0, .getProperties, some 1, some 1, none⟩) = true := by
    decide
  obtain ⟨system, run, passes⟩ := Machine.Run.exists_of_exec executes
  obtain ⟨ready, waiting, stored⟩ := of_decide_eq_true passes
  refine ⟨system, run, (getProperties_completes_iff run ready waiting stored rfl
    (some [("TimeUpdates", .string "auto")])).mpr ?_⟩
  rintro _ ⟨⟩
  decide

/-- A state of a service that the table does not list leaves its request for ever
incomplete. -/
theorem unknown_state_never_completes :
    ∃ system : System fun _ => ServProperties,
      machine.Run FewRequests (start (fun _ => "/service") fun _ => {})
          [.prepare .thread 0 .getProperties (some 1)] system ∧
        system.ready = true ∧ 0 ∈ system.inFlight ∧
        system.prepared[0]? = some ⟨0, .getProperties, some 1, some 1, none⟩ ∧
        ¬ Completes system 0 ⟨0, .getProperties, some 1, some 1, none⟩
          (some (.dictionary [("State", .string "suspended")])) := by
  have executes : (machine.exec? FewRequests
      (start (fun _ => "/service") fun _ => ({} : ServProperties))
      [.prepare .thread 0 .getProperties (some 1)]).any
      (fun system => system.ready ∧ 0 ∈ system.inFlight ∧
        system.prepared[0]? = some ⟨0, .getProperties, some 1, some 1, none⟩ ∧
        (machine.step? system (.dispatchReply 0
          (some (.dictionary [("State", .string "suspended")])))).isNone) = true := by
    decide
  obtain ⟨system, run, passes⟩ := Machine.Run.exists_of_exec executes
  obtain ⟨ready, waiting, stored, raises⟩ := of_decide_eq_true passes
  refine ⟨system, run, ready, waiting, stored, ?_⟩
  rintro ⟨argument, replied, stepped, -⟩
  rw [stepped] at raises
  cases raises

end System

end GConnman.DBus
