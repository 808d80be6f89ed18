import GConnman.DBus.Proxy
import GConnman.Foundation.Census
import GConnman.Foundation.TransitionSystem

/-!
# Requests, completions and the end of the loop

Any number of proxies share one bus.  A request is prepared on any thread, its
reply is dispatched on the loop thread, and its completion ends with a decrement
of the shared counter of pending calls.  Another thread stops the bus in two
phases.  Each critical section is one step, so user callbacks run between the
steps that enter and leave them, and requests prepared meanwhile interleave.

Requests are numbered in the order of their preparation.  Every proxy has a
property record of its own type.
-/

namespace GConnman.DBus

open GConnman.GLib GConnman.Foundation

/-! ## The bus -/

inductive LoopState where
  | running
  /-- `g_main_loop_quit` has been called. -/
  | quitting
  /-- `g_main_loop_run` has returned, and `loop_` is null. -/
  | returned
  deriving DecidableEq, Repr

/-- The members of `DBus` that requests and the shutdown use. -/
structure DBusState where
  running : Bool := true
  pendingCalls : UInt32 := 0
  loop : LoopState := .running
  deriving DecidableEq, Repr

namespace DBusState

variable (dbus : DBusState)

/-- `g_main_loop_quit` on a loop that is not null. -/
def quit : DBusState := if dbus.loop = .running then { dbus with loop := .quitting } else dbus

def onAnyAsyncStart : DBusState := { dbus with pendingCalls := dbus.pendingCalls + 1 }

def onAnyAsyncDone : DBusState :=
  let decremented := { dbus with pendingCalls := dbus.pendingCalls - 1 }
  if dbus.pendingCalls = 1 ∧ dbus.running = false ∧ dbus.loop ≠ .returned then decremented.quit
  else decremented

/-- The first phase of `stop`. -/
def clearRunning : DBusState := { dbus with running := false }

/-- The second phase of `stop`, up to the join. -/
def quitWhenIdle : DBusState :=
  if dbus.loop = .running ∧ dbus.pendingCalls = 0 then dbus.quit else dbus

end DBusState

/-! ## Operations -/

/-- The public operations that prepare a request. -/
inductive Operation where
  | getProperties
  | setOfflineMode | registerAgent | unregisterAgent
  | setPowered | setTethering | setTetheringIdentifier | setTetheringPassphrase
  | setTetheringFreq | scan
  | connect | disconnect | remove | setAutoconnect | setNameServers
  | setTime | setTimeZone | setTimeUpdates | setTimeZoneUpdates | setTimeServers
  deriving DecidableEq, Repr

/-- The completion handlers a request can be sent with. -/
inductive ReplyHandler where
  | finishAsyncCall
  | getPropertyCb
  deriving DecidableEq, Repr

/-- The type of the callback parameter of an operation. -/
def Operation.callbackType : Operation → CallbackType
  | .getProperties => .properties
  | _ => .propertiesSet

/-- The handler an operation sends its request with. -/
def Operation.replyHandler : Operation → ReplyHandler
  | .getProperties => .getPropertyCb
  | _ => .finishAsyncCall

/-- The type a handler asks `executeCallBack` for. -/
def ReplyHandler.castType : ReplyHandler → CallbackType
  | .finishAsyncCall => .propertiesSet
  | .getPropertyCb => .properties

theorem Operation.castType_replyHandler (operation : Operation) :
    operation.replyHandler.castType = operation.callbackType := by
  cases operation <;> rfl

/-! ## The callback table of one proxy -/

namespace DBusProxy

variable {Record : Type} (proxy : DBusProxy Record)

/-- The part of `prepareCallback` that concerns the table. -/
def prepareCallback (type : CallbackType) (callback : Option CallbackId) :
    DBusProxy Record × Option UInt64 :=
  match callback with
  | none => (proxy, none)
  | some callback =>
      let index := proxy.callbackCounter + 1
      ({ proxy with
          callbackCounter := index
          callbacks := Function.update proxy.callbacks index (some (.stored type callback)) },
        some index)

/-- The first critical section of `executeCallBack`: `callbacks_[counter]` inserts
an empty entry where there is none. -/
def findCallBack (type : CallbackType) (counter : UInt64) :
    DBusProxy Record × Except Fault CallbackId :=
  let entry := (proxy.callbacks counter).getD .empty
  ({ proxy with callbacks := Function.update proxy.callbacks counter (some entry) },
    entry.cast type)

/-- The erasure in the second critical section of `executeCallBack`. -/
def eraseCallBack (counter : UInt64) : DBusProxy Record :=
  { proxy with callbacks := Function.update proxy.callbacks counter none }

end DBusProxy

/-! ## The system -/

abbrev ProxyId := Nat
abbrev RequestId := Nat

/-- A prepared request: the operation with its callback, the counter its
`CallbackData` holds, and the request whose callback prepared it. -/
structure Request where
  proxy : ProxyId
  operation : Operation
  callback : Option CallbackId
  counter : Option UInt64
  parent : Option RequestId
  deriving DecidableEq, Repr

/-- What a user callback is called with. -/
inductive Argument (Properties : ProxyId → Type) where
  | success (value : Bool)
  | properties (proxy : ProxyId) (value : Properties proxy)

/-- What the loop thread is doing. -/
inductive Activity (Properties : ProxyId → Type) where
  | idle
  /-- A reply has been processed up to `executeCallBack`. -/
  | replied (request : RequestId) (argument : Argument Properties)
  /-- The callback of a request runs. -/
  | invoking (request : RequestId)
  /-- A callback for a signal or a list reply runs. -/
  | signalled

/-- The request a completion is in progress for. -/
def Activity.requests {Properties : ProxyId → Type} : Activity Properties → List RequestId
  | idle => []
  | replied request _ => [request]
  | invoking request => [request]
  | signalled => []

/-- How far `stop` has come. -/
inductive StopPhase where
  | notCalled
  | flagged
  | joining
  | returned
  deriving DecidableEq, Repr

/-- A dispatched reply, with the proxies as they were before it. -/
structure Served (Properties : ProxyId → Type) where
  request : RequestId
  reply : Option GVariant
  proxies : (proxy : ProxyId) → DBusProxy (Properties proxy)

/-- A call of a user callback. -/
structure Invocation (Properties : ProxyId → Type) where
  request : RequestId
  callback : CallbackId
  argument : Argument Properties

/-- The bus, the proxies and the requests.  `served` and `invocations` only record. -/
structure System (Properties : ProxyId → Type) where
  dbus : DBusState := {}
  proxies : (proxy : ProxyId) → DBusProxy (Properties proxy)
  prepared : List Request := []
  inFlight : List RequestId := []
  activity : Activity Properties := .idle
  completed : List RequestId := []
  stop : StopPhase := .notCalled
  served : List (Served Properties) := []
  invocations : List (Invocation Properties) := []

/-- Where a request is prepared: on a user thread, or in the running callback. -/
inductive Origin where
  | thread
  | callback
  deriving DecidableEq, Repr

inductive Event where
  | prepare (origin : Origin) (proxy : ProxyId) (operation : Operation)
      (callback : Option CallbackId)
  /-- A reply arrives; `none` is an error. -/
  | dispatchReply (request : RequestId) (reply : Option GVariant)
  | enterCallBack
  | leaveCallBack
  /-- A signal or a list reply with its callback; a property change comes first. -/
  | dispatchSignal (proxy : ProxyId) (change : Option (String × GVariant))
  | leaveSignal
  | clearRunning
  | quitWhenIdle
  | loopReturns
  | stopReturns

namespace System

variable {Properties : ProxyId → Type}

/-- Before the first request. -/
def start (objPath : ProxyId → String) (props : (proxy : ProxyId) → Properties proxy) :
    System Properties where
  proxies proxy := { objPath := objPath proxy, props := props proxy }

variable (system : System Properties)

/-- The loop thread can dispatch the next message. -/
def ready : Bool :=
  match system.activity with
  | .idle => system.dbus.loop ≠ .returned
  | _ => false

/-- The request whose callback runs, for each origin; `none` when no callback runs. -/
def parentOf : Origin → Option (Option RequestId)
  | .thread => some none
  | .callback =>
      match system.activity with
      | .invoking request => some (some request)
      | .signalled => some none
      | _ => none

/-- `prepareCallback` and the call after it. -/
def prepare (parent : Option RequestId) (proxy : ProxyId) (operation : Operation)
    (callback : Option CallbackId) : System Properties :=
  let prepared := (system.proxies proxy).prepareCallback operation.callbackType callback
  { system with
    dbus := system.dbus.onAnyAsyncStart
    proxies := Function.update system.proxies proxy prepared.1
    prepared := system.prepared ++ [⟨proxy, operation, callback, prepared.2, parent⟩]
    inFlight := system.inFlight ++ [system.prepared.length] }

/-- The end of `executeCallBack`. -/
def complete (request : RequestId) : System Properties :=
  { system with
    dbus := system.dbus.onAnyAsyncDone
    activity := .idle
    completed := system.completed ++ [request] }

end System

section Handlers

variable {Properties : ProxyId → Type} [∀ proxy, PropertyRecord (Properties proxy)]

/-- `finishAsyncCall` and `get_property_cb` up to `executeCallBack`; `none` when the
update raises. -/
def ReplyHandler.handle (handler : ReplyHandler) (id : ProxyId) (proxy : DBusProxy (Properties id))
    (reply : Option GVariant) : Option (DBusProxy (Properties id) × Argument Properties) :=
  match handler, reply with
  | .finishAsyncCall, reply => some (proxy, .success reply.isSome)
  | .getPropertyCb, none => some (proxy, .properties id proxy.props)
  | .getPropertyCb, some outProperties =>
      match (proxy.updateProperties outProperties).raised with
      | none =>
          some ((proxy.updateProperties outProperties).state,
            .properties id (proxy.updateProperties outProperties).state.props)
      | some _ => none

/-- The update before the callback of a signal; `none` when it raises. -/
def DBusProxy.change {id : ProxyId} (proxy : DBusProxy (Properties id)) :
    Option (String × GVariant) → Option (DBusProxy (Properties id))
  | none => some proxy
  | some pair =>
      match (proxy.updateProperty (.tuple [.string pair.1, .variant pair.2])).raised with
      | none => some (proxy.updateProperty (.tuple [.string pair.1, .variant pair.2])).state
      | some _ => none

namespace System

variable (system : System Properties)

def dispatchReply (id : RequestId) (reply : Option GVariant) : Option (System Properties) :=
  if system.ready ∧ id ∈ system.inFlight then
    system.prepared[id]?.bind fun request =>
      (request.operation.replyHandler.handle request.proxy (system.proxies request.proxy)
        reply).map fun handled =>
          { system with
            proxies := Function.update system.proxies request.proxy handled.1
            inFlight := system.inFlight.erase id
            activity := .replied id handled.2
            served := system.served ++ [⟨id, reply, system.proxies⟩] }
  else none

/-- `executeCallBack` up to the call, or to its end when there is no callback;
`none` when the cast throws. -/
def enterCallBack : Option (System Properties) :=
  match system.activity with
  | .replied id argument =>
      system.prepared[id]?.bind fun request =>
        match request.counter with
        | none => some (system.complete id)
        | some counter =>
            let found := (system.proxies request.proxy).findCallBack
              request.operation.replyHandler.castType counter
            match found.2 with
            | .error _ => none
            | .ok callback =>
                some { system with
                  proxies := Function.update system.proxies request.proxy found.1
                  activity := .invoking id
                  invocations := system.invocations ++ [⟨id, callback, argument⟩] }
  | _ => none

/-- `executeCallBack` after the call. -/
def leaveCallBack : Option (System Properties) :=
  match system.activity with
  | .invoking id =>
      system.prepared[id]?.bind fun request =>
        request.counter.map fun counter =>
          { system with
            proxies := Function.update system.proxies request.proxy
              ((system.proxies request.proxy).eraseCallBack counter) }.complete id
  | _ => none

def dispatchSignal (id : ProxyId) (change : Option (String × GVariant)) :
    Option (System Properties) :=
  if system.ready then
    ((system.proxies id).change change).map fun proxy =>
      { system with
        proxies := Function.update system.proxies id proxy
        activity := .signalled }
  else none

def leaveSignal : Option (System Properties) :=
  match system.activity with
  | .signalled => some { system with activity := .idle }
  | _ => none

/-- The loop leaves `g_main_loop_run` between two dispatches. -/
def loopReturns : Option (System Properties) :=
  match system.activity with
  | .idle =>
      if system.dbus.loop = .quitting then
        some { system with dbus := { system.dbus with loop := .returned } }
      else none
  | _ => none

def step? : Event → Option (System Properties)
  | .prepare origin proxy operation callback =>
      (system.parentOf origin).map fun parent => system.prepare parent proxy operation callback
  | .dispatchReply request reply => system.dispatchReply request reply
  | .enterCallBack => system.enterCallBack
  | .leaveCallBack => system.leaveCallBack
  | .dispatchSignal proxy change => system.dispatchSignal proxy change
  | .leaveSignal => system.leaveSignal
  | .clearRunning =>
      if system.stop = .notCalled then
        some { system with dbus := system.dbus.clearRunning, stop := .flagged }
      else none
  | .quitWhenIdle =>
      if system.stop = .flagged then
        some { system with dbus := system.dbus.quitWhenIdle, stop := .joining }
      else none
  | .loopReturns => system.loopReturns
  | .stopReturns =>
      if system.stop = .joining ∧ system.dbus.loop = .returned then
        some { system with stop := .returned }
      else none

def machine : Machine (System Properties) Event := ⟨step?⟩

end System

end Handlers

end GConnman.DBus
