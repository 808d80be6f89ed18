import GConnman.DBus.RequestRuns

/-!
# The life of a Connman

`Connman::Connman` asks for both lists without counting the calls and then asks,
counted, for the properties of the clock.  `Connman::~Connman` stops the bus, drops
its references to the manager and to the clock, and destroys the bus, which still
dispatches what is ready in its context.  In between the loop sends calls, handles
replies, signals and method calls of the agent, and RequestInput workers run on
threads of their own.

A call made on another thread than the loop waits in the context until the loop
sends it; a call made in a callback is sent at once.  The handlers of requests hold
a reference to their proxy, the handlers of the list calls do not.
-/

namespace GConnman.Connman

open GConnman.GLib GConnman.Foundation GConnman.DBus

/-! ## State -/

def clockProxy : ProxyId := 0

def managerProxy : ProxyId := 1

inductive ListRequest where
  | technologies
  | services
  deriving DecidableEq, Repr

/-- A method call to connman. -/
inductive Call where
  | list (request : ListRequest)
  | request (id : RequestId)
  deriving DecidableEq, Repr

/-- How far the constructor has come. -/
inductive Stage where
  /-- The clock and the base of the manager are built, and the loop runs. -/
  | opened
  | technologiesRequested
  | servicesRequested
  /-- The signals of the manager are connected. -/
  | connected
  | constructed
  deriving DecidableEq, Repr

/-- How far the destructor has come after `stop`. -/
inductive Teardown where
  | notBegun
  | managerReset
  | clockReset
  /-- `DBus::~DBus` iterates the context. -/
  | draining
  /-- Nothing was ready in the last iteration. -/
  | drained
  /-- The context has been released. -/
  | released
  deriving DecidableEq, Repr

/-- What a RequestInput worker still has to do. -/
inductive WorkerStage where
  /-- It has not called the handler of the manager yet. -/
  | starting
  | inHandler
  /-- It has a result to hand to the context. -/
  | posting
  deriving DecidableEq, Repr

/-- What can be used after its destruction. -/
inductive Resource where
  | manager
  | context
  deriving DecidableEq, Repr

/-- `listed` and `lateUses` only record. -/
structure Session (Properties : ProxyId → Type) where
  system : System Properties
  stage : Stage := .opened
  /-- Calls that wait in the context. -/
  attached : List Call := []
  /-- Calls sent and not answered. -/
  sent : List Call := []
  workers : List WorkerStage := []
  /-- Results of workers that wait in the context. -/
  posted : Nat := 0
  teardown : Teardown := .notBegun
  /-- The list replies `get_proxies_cb` handled for a live manager. -/
  listed : List ListRequest := []
  lateUses : List Resource := []

inductive SessionEvent where
  /-- The next statement of the constructor. -/
  | construct
  /-- A request, a reply, a signal, a callback or a part of `stop`. -/
  | bus (event : Event)
  /-- The loop sends the oldest call that waits. -/
  | send
  | listReply (request : ListRequest)
  /-- The agent dispatches a RequestInput call to a new worker. -/
  | requestInput
  | enterHandler (worker : Nat)
  | leaveHandler (worker : Nat) (threw : Bool)
  | post (worker : Nat)
  /-- The loop runs a result that was posted. -/
  | runPosted
  | resetManager
  | resetClock
  | destroyDBus
  | endDrain
  | releaseContext

namespace Session

variable {Properties : ProxyId → Type}

def start (objPath : ProxyId → String) (props : (proxy : ProxyId) → Properties proxy) :
    Session Properties where
  system := .start objPath props

variable (session : Session Properties)

/-- All calls on their way, in the order in which they are answered if no other comes
in between. -/
def line : List Call := session.sent ++ session.attached

/-! ## Who is alive -/

/-- The `CallbackData` of a request of the manager is in use. -/
def requestHolds (id : RequestId) : Bool :=
  session.system.prepared[id]?.any fun request => request.proxy = managerProxy

/-- The Connman holds the manager, or some request does. -/
def managerAlive : Bool :=
  session.teardown = .notBegun ∨
    ((session.system.inFlight ++ session.system.activity.requests).any session.requestHolds)

/-- The `GDBusProxy` of the manager is held by the manager and by the calls sent on
it.  Its destructor disconnects the handlers of a null function, which are none, so
they stay connected as long as it lives. -/
def managerSubscribed : Bool :=
  session.managerAlive ∨ (.list .technologies ∈ session.sent ∨ .list .services ∈ session.sent)

def contextAlive : Bool := session.teardown ≠ .released

/-! ## The bus -/

/-- The bus as the iteration of the context sees it: `~DBus` dispatches once more,
and a quit has no effect. -/
def view : System Properties :=
  if session.teardown = .draining then
    { session.system with dbus := { session.system.dbus with loop := .quitting } }
  else session.system

/-- Back from the view. -/
def settle (system : System Properties) : System Properties :=
  if session.teardown = .draining then
    { system with dbus := { system.dbus with loop := .returned } }
  else system

/-- The loop, or `~DBus`, can dispatch what is ready in the context. -/
def dispatches : Bool :=
  (session.teardown = .notBegun ∨ session.teardown = .draining) ∧ session.view.ready

/-- When an event of the bus can happen in the life of the Connman. -/
def allows : Event → Bool
  | .prepare .thread _ _ _ =>
      session.stage = .constructed ∧ session.teardown = .notBegun
  | .prepare .callback proxy _ _ =>
      session.stage = .constructed ∧ (proxy = managerProxy → session.managerAlive)
  | .dispatchReply id _ => .request id ∈ session.sent
  | .dispatchSignal proxy _ => proxy = managerProxy → session.managerSubscribed
  | .clearRunning => session.stage = .constructed
  | .loopReturns => session.teardown = .notBegun
  | _ => true

/-- The calls that wait, and those sent, after an event of the bus. -/
def queues : Event → List Call × List Call
  | .prepare .thread _ _ _ =>
      (session.attached ++ [.request session.system.prepared.length], session.sent)
  | .prepare .callback _ _ _ =>
      (session.attached, session.sent ++ [.request session.system.prepared.length])
  | .dispatchReply id _ => (session.attached, session.sent.erase (.request id))
  | _ => (session.attached, session.sent)

/-- The handlers that use the manager: those of its requests, and of its signals. -/
def handlesManager : Event → Bool
  | .dispatchReply id _ => session.requestHolds id
  | .enterCallBack | .leaveCallBack => session.system.activity.requests.any session.requestHolds
  | .dispatchSignal proxy _ => proxy = managerProxy
  | _ => false

/-- Record a use of the manager. -/
def useManager (uses : Bool) : List Resource :=
  if uses ∧ ¬ session.managerAlive then session.lateUses ++ [.manager] else session.lateUses

/-- Record a use of the context. -/
def useContext : List Resource :=
  if session.contextAlive then session.lateUses else session.lateUses ++ [.context]

section View

variable {session}

theorem view_of_notBegun (teardown : session.teardown = .notBegun) :
    session.view = session.system := by
  unfold view
  rw [teardown]
  exact if_neg Teardown.noConfusion

theorem settle_of_notBegun (teardown : session.teardown = .notBegun)
    (system : System Properties) : session.settle system = system := by
  unfold settle
  rw [teardown]
  exact if_neg Teardown.noConfusion

theorem managerAlive_of_notBegun (teardown : session.teardown = .notBegun) :
    session.managerAlive = true := decide_eq_true (.inl teardown)

theorem view_stop : session.view.stop = session.system.stop := by
  unfold view
  split <;> rfl

theorem view_inFlight : session.view.inFlight = session.system.inFlight := by
  unfold view
  split <;> rfl

theorem settle_stop (system : System Properties) : (session.settle system).stop = system.stop := by
  unfold settle
  split <;> rfl

end View

/-- A worker takes its next step. -/
def worker? (index : Nat) (stage : WorkerStage) (next : List WorkerStage)
    (lateUses : List Resource) : Option (Session Properties) :=
  if session.workers[index]? = some stage then
    some { session with
      workers := session.workers.take index ++ next ++ session.workers.drop (index + 1)
      lateUses }
  else none

theorem worker?_eq_some {session next : Session Properties} {index : Nat} {stage : WorkerStage}
    {left : List WorkerStage} {lateUses : List Resource}
    (stepped : session.worker? index stage left lateUses = some next) :
    session.workers[index]? = some stage ∧
      next = { session with
        workers := session.workers.take index ++ left ++ session.workers.drop (index + 1)
        lateUses } := by
  unfold worker? at stepped
  split at stepped
  · rename_i found
    cases stepped
    exact ⟨found, rfl⟩
  · cases stepped

variable [∀ proxy, PropertyRecord (Properties proxy)]

def bus? (event : Event) : Option (Session Properties) :=
  if session.allows event then
    (session.view.step? event).map fun system =>
      { session with
        system := session.settle system
        attached := (session.queues event).1
        sent := (session.queues event).2
        lateUses := session.useManager (session.handlesManager event) }
  else none

/-- `Connman::Connman`, one call at a time. -/
def construct? : Option (Session Properties) :=
  match session.stage with
  | .opened =>
      some { session with
        attached := session.attached ++ [.list .technologies]
        stage := .technologiesRequested }
  | .technologiesRequested =>
      some { session with
        attached := session.attached ++ [.list .services]
        stage := .servicesRequested }
  | .servicesRequested =>
      -- `connectSignal` waits for the loop, which sends the calls that wait first
      if session.attached = [] then some { session with stage := .connected } else none
  | .connected =>
      some { session with
        system := session.system.prepare none clockProxy .getProperties none
        attached := session.attached ++ [.request session.system.prepared.length]
        stage := .constructed }
  | .constructed => none

/-- A call leaves the context. -/
def send? : Option (Session Properties) :=
  if session.dispatches then
    match session.attached with
    | [] => none
    | call :: rest => some { session with attached := rest, sent := session.sent ++ [call] }
  else none

/-- `get_proxies_cb`, up to the end of its critical section. -/
def listReply? (request : ListRequest) : Option (Session Properties) :=
  if .list request ∈ session.sent then
    (session.view.step? (.dispatchSignal managerProxy none)).map fun system =>
      { session with
        system := session.settle system
        sent := session.sent.erase (.list request)
        listed := if session.managerAlive then session.listed ++ [request] else session.listed
        lateUses := session.useManager true }
  else none

/-- The object of the agent is registered as long as the manager lives. -/
def requestInput? : Option (Session Properties) :=
  if session.dispatches ∧ session.managerAlive then
    some { session with workers := session.workers ++ [.starting] }
  else none

def step? : SessionEvent → Option (Session Properties)
  | .construct => session.construct?
  | .bus event => session.bus? event
  | .send => session.send?
  | .listReply request => session.listReply? request
  | .requestInput => session.requestInput?
  | .enterHandler index => session.worker? index .starting [.inHandler] (session.useManager true)
  | .leaveHandler index threw =>
      session.worker? index .inHandler (if threw then [] else [.posting])
        (session.useManager true)
  | .post index =>
      (session.worker? index .posting [] session.useContext).map fun next =>
        { next with posted := next.posted + 1 }
  | .runPosted =>
      if session.dispatches ∧ 0 < session.posted then
        some { session with posted := session.posted - 1 }
      else none
  | .resetManager =>
      if session.system.stop = .returned ∧ session.teardown = .notBegun then
        some { session with teardown := .managerReset }
      else none
  | .resetClock =>
      if session.teardown = .managerReset then some { session with teardown := .clockReset }
      else none
  | .destroyDBus =>
      if session.teardown = .clockReset then some { session with teardown := .draining }
      else none
  | .endDrain =>
      if session.teardown = .draining ∧ session.dispatches ∧ session.attached = [] ∧
          session.posted = 0 then
        some { session with teardown := .drained }
      else none
  | .releaseContext =>
      if session.teardown = .drained then some { session with teardown := .released }
      else none

def machine : Machine (Session Properties) SessionEvent :=
  ⟨fun session event => session.step? event⟩

/-! ## Effects -/

/-- What the events do, with everything that held before. -/
inductive Moves (session : Session Properties) : SessionEvent → Session Properties → Prop where
  | technologies (stage : session.stage = .opened) :
      Moves session .construct
        { session with
          attached := session.attached ++ [.list .technologies]
          stage := .technologiesRequested }
  | services (stage : session.stage = .technologiesRequested) :
      Moves session .construct
        { session with
          attached := session.attached ++ [.list .services]
          stage := .servicesRequested }
  | connect (stage : session.stage = .servicesRequested) (attached : session.attached = []) :
      Moves session .construct { session with stage := .connected }
  | clock (stage : session.stage = .connected) :
      Moves session .construct
        { session with
          system := session.system.prepare none clockProxy .getProperties none
          attached := session.attached ++ [.request session.system.prepared.length]
          stage := .constructed }
  | bus {event : Event} {system : System Properties} (allowed : session.allows event = true)
      (effect : System.Effect session.view event system) :
      Moves session (.bus event)
        { session with
          system := session.settle system
          attached := (session.queues event).1
          sent := (session.queues event).2
          lateUses := session.useManager (session.handlesManager event) }
  | send {call : Call} {rest : List Call} (attached : session.attached = call :: rest) :
      Moves session .send { session with attached := rest, sent := session.sent ++ [call] }
  | listReply {request : ListRequest} {system : System Properties}
      (waiting : .list request ∈ session.sent)
      (effect : System.Effect session.view (.dispatchSignal managerProxy none) system) :
      Moves session (.listReply request)
        { session with
          system := session.settle system
          sent := session.sent.erase (.list request)
          listed := if session.managerAlive then session.listed ++ [request] else session.listed
          lateUses := session.useManager true }
  | requestInput (dispatches : session.dispatches = true)
      (alive : session.managerAlive = true) :
      Moves session .requestInput { session with workers := session.workers ++ [.starting] }
  | enterHandler {index : Nat} (stage : session.workers[index]? = some .starting) :
      Moves session (.enterHandler index)
        { session with
          workers := session.workers.take index ++ [.inHandler] ++
            session.workers.drop (index + 1)
          lateUses := session.useManager true }
  | leaveHandler {index : Nat} (threw : Bool)
      (stage : session.workers[index]? = some .inHandler) :
      Moves session (.leaveHandler index threw)
        { session with
          workers := session.workers.take index ++ (if threw then [] else [.posting]) ++
            session.workers.drop (index + 1)
          lateUses := session.useManager true }
  | post {index : Nat} (stage : session.workers[index]? = some .posting) :
      Moves session (.post index)
        { session with
          workers := session.workers.take index ++ [] ++ session.workers.drop (index + 1)
          posted := session.posted + 1
          lateUses := session.useContext }
  | runPosted : Moves session .runPosted { session with posted := session.posted - 1 }
  | resetManager (stopped : session.system.stop = .returned)
      (teardown : session.teardown = .notBegun) :
      Moves session .resetManager { session with teardown := .managerReset }
  | resetClock (teardown : session.teardown = .managerReset) :
      Moves session .resetClock { session with teardown := .clockReset }
  | destroyDBus (teardown : session.teardown = .clockReset) :
      Moves session .destroyDBus { session with teardown := .draining }
  | endDrain (teardown : session.teardown = .draining) :
      Moves session .endDrain { session with teardown := .drained }
  | releaseContext (teardown : session.teardown = .drained) :
      Moves session .releaseContext { session with teardown := .released }

theorem moves_of_step {session next : Session Properties} {event : SessionEvent}
    (stepped : session.step? event = some next) : Moves session event next := by
  cases event with
  | construct =>
      simp only [step?, construct?] at stepped
      split at stepped
      · rename_i stage
        cases stepped
        exact .technologies stage
      · rename_i stage
        cases stepped
        exact .services stage
      · rename_i stage
        split at stepped
        · rename_i attached
          cases stepped
          exact .connect stage attached
        · cases stepped
      · rename_i stage
        cases stepped
        exact .clock stage
      · cases stepped
  | bus event =>
      simp only [step?, bus?] at stepped
      split at stepped
      · rename_i allowed
        obtain ⟨system, moved, rfl⟩ := Option.map_eq_some_iff.mp stepped
        exact .bus allowed (System.effect_of_step moved)
      · cases stepped
  | send =>
      simp only [step?, send?] at stepped
      split at stepped
      · split at stepped
        · cases stepped
        · rename_i call rest attached
          cases stepped
          exact .send attached
      · cases stepped
  | listReply request =>
      simp only [step?, listReply?] at stepped
      split at stepped
      · rename_i waiting
        obtain ⟨system, moved, rfl⟩ := Option.map_eq_some_iff.mp stepped
        exact .listReply waiting (System.effect_of_step moved)
      · cases stepped
  | requestInput =>
      simp only [step?, requestInput?] at stepped
      split at stepped
      · rename_i both
        cases stepped
        exact .requestInput both.1 both.2
      · cases stepped
  | enterHandler index =>
      obtain ⟨stage, rfl⟩ := worker?_eq_some stepped
      exact .enterHandler stage
  | leaveHandler index threw =>
      obtain ⟨stage, rfl⟩ := worker?_eq_some stepped
      exact .leaveHandler threw stage
  | post index =>
      obtain ⟨worked, moved, rfl⟩ := Option.map_eq_some_iff.mp stepped
      obtain ⟨stage, rfl⟩ := worker?_eq_some moved
      exact .post stage
  | runPosted =>
      simp only [step?] at stepped
      split at stepped
      · cases stepped
        exact .runPosted
      · cases stepped
  | resetManager =>
      simp only [step?] at stepped
      split at stepped
      · rename_i both
        cases stepped
        exact .resetManager both.1 both.2
      · cases stepped
  | resetClock =>
      simp only [step?] at stepped
      split at stepped
      · rename_i teardown
        cases stepped
        exact .resetClock teardown
      · cases stepped
  | destroyDBus =>
      simp only [step?] at stepped
      split at stepped
      · rename_i teardown
        cases stepped
        exact .destroyDBus teardown
      · cases stepped
  | endDrain =>
      simp only [step?] at stepped
      split at stepped
      · rename_i drained
        cases stepped
        exact .endDrain drained.1
      · cases stepped
  | releaseContext =>
      simp only [step?] at stepped
      split at stepped
      · rename_i teardown
        cases stepped
        exact .releaseContext teardown
      · cases stepped

/-- Nothing is constructed twice. -/
theorem constructed_of_moves {session next : Session Properties} {event : SessionEvent}
    (moves : Moves session event next) (built : session.stage = .constructed) :
    next.stage = .constructed := by
  cases moves with
  | technologies stage =>
      rw [built] at stage
      cases stage
  | services stage =>
      rw [built] at stage
      cases stage
  | connect stage attached =>
      rw [built] at stage
      cases stage
  | clock stage => rfl
  | _ => exact built

/-- The teardown is not taken back. -/
theorem notBegun_of_moves {session next : Session Properties} {event : SessionEvent}
    (moves : Moves session event next) (still : next.teardown = .notBegun) :
    session.teardown = .notBegun := by
  cases moves with
  | resetManager => cases still
  | resetClock => cases still
  | destroyDBus => cases still
  | endDrain => cases still
  | releaseContext => cases still
  | _ => exact still

/-- The teardown begins after `stop` has returned. -/
theorem returned_of_begun {session next : Session Properties} {event : SessionEvent}
    (moves : Moves session event next) (before : session.teardown = .notBegun)
    (begun : next.teardown ≠ .notBegun) : session.system.stop = .returned := by
  cases moves with
  | resetManager stopped _ => exact stopped
  | resetClock after =>
      rw [before] at after
      cases after
  | destroyDBus after =>
      rw [before] at after
      cases after
  | endDrain after =>
      rw [before] at after
      cases after
  | releaseContext after =>
      rw [before] at after
      cases after
  | _ => exact absurd before begun

end Session

end GConnman.Connman
