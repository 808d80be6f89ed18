import GConnman.Connman.ServiceList
import GConnman.Connman.TechnologyList

/-!
# The constructor of the manager against the daemon

The constructor asks for the two lists before it connects the handlers of the
signals that report their changes, each in a step of the loop of its own.  The
daemon changes its list at any time and reports every change; replies and signals
travel in one queue.  A signal that is dispatched while its handler is missing is
dropped.  That is harmless as long as the reply to GetServices is still to come,
since the reply is the later of the two; after the reply it loses a change.
-/

namespace GConnman.Connman

open GConnman.GLib GConnman.DBus GConnman.Foundation

/-- The step the constructor takes next. -/
inductive ConstructorStep where
  | getTechnologies
  | getServices
  | connectTechnologyRemoved
  | connectTechnologyAdded
  | connectServicesChanged
  | returned
  deriving DecidableEq, Repr

namespace ConstructorStep

def next? : ConstructorStep → Option ConstructorStep
  | getTechnologies => some getServices
  | getServices => some connectTechnologyRemoved
  | connectTechnologyRemoved => some connectTechnologyAdded
  | connectTechnologyAdded => some connectServicesChanged
  | connectServicesChanged => some returned
  | returned => none

/-- GetServices has been sent. -/
def servicesRequested : ConstructorStep → Bool
  | getTechnologies => false
  | getServices => false
  | _ => true

/-- The handler of a technology signal is connected. -/
def technologyConnected (step : ConstructorStep) : TechnologySignal → Bool
  | .removed _ _ =>
      step = connectTechnologyAdded ∨ step = connectServicesChanged ∨ step = returned
  | .added _ _ _ => step = connectServicesChanged ∨ step = returned

/-- The handler of ServicesChanged is connected. -/
def servicesConnected (step : ConstructorStep) : Bool := step = returned

end ConstructorStep

inductive DaemonCall where
  | getTechnologies
  | getServices
  deriving DecidableEq, Repr

/-- What travels from the daemon to the loop. -/
inductive BusMessage where
  | technologies (all : List Announcement) (byte : UInt8)
  | services (all : List Announcement)
  | servicesChanged (changed : List Announcement) (removed : List String)
  | technology (signal : TechnologySignal)

/-- The constructor, the daemon with its ordered list of service paths, the calls
and messages in flight, and the manager under construction. -/
structure Subscription where
  step : ConstructorStep
  calls : List DaemonCall
  daemon : List String
  bus : List BusMessage
  manager : Manager

/-- What happens next, on either side. -/
inductive SubscriptionEvent where
  /-- The constructor takes its next step. -/
  | construct
  /-- The daemon answers GetTechnologies. -/
  | answerTechnologies (all : List Announcement) (byte : UInt8)
  /-- The daemon answers GetServices with its list as it is. -/
  | answerServices (all : List Announcement)
  /-- The daemon changes its list and emits ServicesChanged. -/
  | change (changed : List Announcement) (removed : List String)
  /-- The daemon emits a technology signal. -/
  | technology (signal : TechnologySignal)
  /-- The loop dispatches the oldest message. -/
  | dispatch

namespace Subscription

/-- Before the constructor runs, with any list on the daemon's side. -/
def start (noop : CallbackId) (daemon : List String) : Subscription where
  step := .getTechnologies
  calls := []
  daemon := daemon
  bus := []
  manager := .constructed noop

/-- The call a step of the constructor sends. -/
def sent : ConstructorStep → List DaemonCall
  | .getTechnologies => [.getTechnologies]
  | .getServices => [.getServices]
  | _ => []

/-- Dispatch one message; `none` when the handler raises. -/
def deliver (step : ConstructorStep) (manager : Manager) : BusMessage → Option Manager
  | .technologies all byte => (manager.getTechnologiesCb byte (some (announcements all))).next?
  | .services all => (manager.getServicesCb (some (announcements all))).next?
  | .servicesChanged changed removed =>
      if step.servicesConnected then
        (manager.onServicesChangedCb (servicesChangedParameters changed removed)).next?
      else some manager
  | .technology signal =>
      if step.technologyConnected signal then (manager.onTechnologySignal signal).next?
      else some manager

def step? (state : Subscription) : SubscriptionEvent → Option Subscription
  | .construct =>
      state.step.next?.map fun next =>
        { state with step := next, calls := state.calls ++ sent state.step }
  | .answerTechnologies all byte =>
      if .getTechnologies ∈ state.calls then
        some { state with
          calls := state.calls.erase .getTechnologies
          bus := state.bus ++ [.technologies all byte] }
      else none
  | .answerServices all =>
      if .getServices ∈ state.calls ∧ all.map Prod.fst = state.daemon then
        some { state with
          calls := state.calls.erase .getServices
          bus := state.bus ++ [.services all] }
      else none
  | .change changed removed =>
      some { state with
        daemon := changed.map Prod.fst
        bus := state.bus ++ [.servicesChanged changed removed] }
  | .technology signal => some { state with bus := state.bus ++ [.technology signal] }
  | .dispatch =>
      match state.bus with
      | [] => none
      | message :: rest =>
          (deliver state.step state.manager message).map fun manager =>
            { state with bus := rest, manager := manager }

/-- The constructor has returned and every message has been dispatched. -/
structure Settled (state : Subscription) : Prop where
  returned : state.step = .returned
  answered : state.calls = []
  dispatched : state.bus = []

instance (state : Subscription) : Decidable state.Settled :=
  decidable_of_iff (state.step = .returned ∧ state.calls = [] ∧ state.bus.isEmpty = true)
    ⟨fun ⟨returned, answered, dispatched⟩ =>
      ⟨returned, answered, List.isEmpty_iff.mp dispatched⟩,
     fun ⟨returned, answered, dispatched⟩ =>
      ⟨returned, answered, List.isEmpty_iff.mpr dispatched⟩⟩

/-- The daemon has answered GetServices. -/
def answered (state : Subscription) : Bool :=
  state.step.servicesRequested && decide (.getServices ∉ state.calls)

end Subscription

namespace BusMessage

/-- The message is the reply to GetServices. -/
def isServices : BusMessage → Bool
  | services _ => true
  | _ => false

/-- The service paths after a message, if it is handled. -/
def pathsAfter (current : List String) : BusMessage → List String
  | technologies _ _ => current
  | services all => all.map Prod.fst
  | servicesChanged changed _ => changed.map Prod.fst
  | technology _ => current

/-- A change that is dispatched while its handler is missing. -/
def missedBy (step : ConstructorStep) : BusMessage → Bool
  | servicesChanged _ _ => !step.servicesConnected
  | _ => false

end BusMessage

namespace Subscription

def machine : Machine Subscription SubscriptionEvent := ⟨step?⟩

/-- A change is only missed while the reply to GetServices is still to come. -/
def LosesNothing (state : Subscription) : SubscriptionEvent → Prop
  | .dispatch => ∀ message rest, state.bus = message :: rest →
      message.missedBy state.step = true →
        state.answered = false ∨ rest.any BusMessage.isServices = true
  | _ => True

instance (state : Subscription) (event : SubscriptionEvent) :
    Decidable (LosesNothing state event) :=
  match event, queued : state.bus with
  | .dispatch, [] => .isTrue fun message rest queue => by rw [queued] at queue; cases queue
  | .dispatch, message :: rest =>
      decidable_of_iff (message.missedBy state.step = true →
          state.answered = false ∨ rest.any BusMessage.isServices = true)
        ⟨fun keeps _ _ queue => by rw [queued] at queue; cases queue; exact keeps,
          fun keeps => keeps message rest queued⟩
  | .construct, _ | .answerTechnologies _ _, _ | .answerServices _, _ | .change _ _, _
  | .technology _, _ => .isTrue trivial

/-- The paths the list will have when everything in flight has been dispatched. -/
def arriving (paths : List String) (bus : List BusMessage) : List String :=
  bus.foldl BusMessage.pathsAfter paths

/-- Once the daemon has answered, what is in flight leads to the list it has. -/
def InStep (state : Subscription) : Prop :=
  state.answered = true → arriving (paths state.manager.services) state.bus = state.daemon

theorem arriving_append (paths : List String) (bus : List BusMessage) (message : BusMessage) :
    arriving paths (bus ++ [message]) = message.pathsAfter (arriving paths bus) :=
  List.foldl_concat ..

/-- What is there before a reply to GetServices does not matter. -/
theorem arriving_of_services {bus : List BusMessage}
    (reply : bus.any BusMessage.isServices = true) (first second : List String) :
    arriving first bus = arriving second bus := by
  induction bus generalizing first second with
  | nil => cases reply
  | cons message rest ih =>
      cases message with
      | services all => rfl
      | servicesChanged changed removed => rfl
      | technologies all byte => exact ih reply first second
      | technology signal => exact ih reply first second

theorem getTechnologiesCb_services {manager next : Manager} {byte : UInt8}
    {reply : Option GVariant}
    (survived : (manager.getTechnologiesCb byte reply).next? = some next) :
    next.services = manager.services := by
  obtain ⟨-, rfl⟩ := Reaction.next?_eq_some.mp survived
  unfold Manager.getTechnologiesCb
  cases reply with
  | none => rfl
  | some outProperties =>
      dsimp only
      split <;> rfl

/-- A message that is not missed leaves the paths it announces. -/
theorem deliver_paths {step : ConstructorStep} {manager next : Manager} {message : BusMessage}
    (delivered : deliver step manager message = some next)
    (handled : message.missedBy step = false) :
    paths next.services = message.pathsAfter (paths manager.services) := by
  cases message with
  | technologies all byte =>
      rw [getTechnologiesCb_services delivered]
      rfl
  | services all => exact getServicesCb_paths delivered
  | servicesChanged changed removed =>
      have connected : step.servicesConnected = true := by
        simpa [BusMessage.missedBy] using handled
      simp only [deliver, if_pos connected] at delivered
      exact onServicesChangedCb_paths delivered
  | technology signal =>
      simp only [deliver, onTechnologySignal_eq] at delivered
      split at delivered
      · obtain ⟨-, rfl⟩ := Reaction.next?_eq_some.mp delivered
        rfl
      · cases delivered
        rfl

/-- A missed change leaves the manager alone. -/
theorem deliver_missed {step : ConstructorStep} {manager next : Manager} {message : BusMessage}
    (delivered : deliver step manager message = some next)
    (missed : message.missedBy step = true) : next = manager := by
  cases message with
  | technologies all byte => cases missed
  | services all => cases missed
  | technology signal => cases missed
  | servicesChanged changed removed =>
      have missing : ¬ step.servicesConnected = true := by
        simpa [BusMessage.missedBy] using missed
      simp only [deliver, if_neg missing, Option.some.injEq] at delivered
      exact delivered.symm

/-- A step of the constructor does not answer anything. -/
theorem answered_of_construct {state : Subscription} {step : ConstructorStep}
    (advance : state.step.next? = some step)
    (isAnswered : answered { state with step, calls := state.calls ++ sent state.step } = true) :
    state.answered = true := by
  obtain ⟨current, calls, daemon, bus, manager⟩ := state
  cases current with
  | getTechnologies =>
      cases advance
      cases isAnswered
  | getServices =>
      cases advance
      simp [answered, sent] at isAnswered
  | returned => cases advance
  | connectTechnologyRemoved | connectTechnologyAdded | connectServicesChanged =>
      cases advance
      simpa [answered, sent, ConstructorStep.servicesRequested] using isAnswered

/-- Every step that loses nothing keeps the list in step with the daemon. -/
theorem inStep_step {state next : Subscription} {event : SubscriptionEvent}
    (inStep : InStep state) (keeps : LosesNothing state event)
    (stepped : step? state event = some next) : InStep next := by
  intro isAnswered
  cases event with
  | construct =>
      obtain ⟨step, advance, rfl⟩ := Option.map_eq_some_iff.mp stepped
      exact inStep (answered_of_construct advance isAnswered)
  | answerTechnologies all byte =>
      simp only [step?] at stepped
      split at stepped
      · cases stepped
        rw [arriving_append]
        apply inStep
        simpa [answered, List.mem_erase_of_ne] using isAnswered
      · cases stepped
  | answerServices all =>
      simp only [step?] at stepped
      split at stepped
      · rename_i asked
        cases stepped
        rw [arriving_append]
        exact asked.2
      · cases stepped
  | change changed removed =>
      cases stepped
      rw [arriving_append]
      rfl
  | technology signal =>
      cases stepped
      rw [arriving_append]
      exact inStep isAnswered
  | dispatch =>
      simp only [step?] at stepped
      cases queued : state.bus with
      | nil => rw [queued] at stepped; cases stepped
      | cons message rest =>
          rw [queued] at stepped
          obtain ⟨manager, delivered, rfl⟩ := Option.map_eq_some_iff.mp stepped
          have current : state.answered = true := isAnswered
          have before := inStep current
          rw [queued] at before
          change arriving (paths manager.services) rest = state.daemon
          cases missed : message.missedBy state.step with
          | false =>
              rw [deliver_paths delivered missed]
              exact before
          | true =>
              rcases keeps message rest queued missed with pending | reply
              · rw [current] at pending
                cases pending
              · rw [deliver_missed delivered missed, ← before]
                exact arriving_of_services reply _ _

/-- In a run that loses no change, once the constructor has returned and every
message has been dispatched, the listed paths are the daemon's. -/
theorem settled_subscription_in_step {noop : CallbackId} {initial : List String}
    {events : List SubscriptionEvent} {state : Subscription}
    (run : machine.Run LosesNothing (start noop initial) events state)
    (settled : state.Settled) : paths state.manager.services = state.daemon := by
  have inStep : InStep state := by
    refine run.invariant ?_ fun unanswered => nomatch unanswered
    intro before event after held keeps stepped
    exact inStep_step held keeps stepped
  have isAnswered : state.answered = true := by
    simp [answered, settled.returned, settled.answered, ConstructorStep.servicesRequested]
  have arrived := inStep isAnswered
  rw [settled.dispatched] at arrived
  exact arrived

/-- A change is missed while the reply that already carries it is on its way, and
a second one arrives after the handler has been connected. -/
def harmlessRun : List SubscriptionEvent :=
  [.construct, .construct, .change [("/wifi", [])] [], .answerServices [("/wifi", [])],
    .dispatch, .dispatch, .answerTechnologies [] 0, .construct, .construct, .construct,
    .change [("/wired", []), ("/wifi", [])] [], .dispatch, .dispatch]

theorem harmlessRun_in_step :
    ∃ state, machine.Run LosesNothing (start 0 []) harmlessRun state ∧ state.Settled ∧
      state.daemon = ["/wired", "/wifi"] ∧ paths state.manager.services = state.daemon := by
  have executes : (machine.exec? LosesNothing (start 0 []) harmlessRun).any
      (fun state => state.Settled ∧ state.daemon = ["/wired", "/wifi"]) = true := by decide
  obtain ⟨state, run, passes⟩ := Machine.Run.exists_of_exec executes
  obtain ⟨settled, daemon⟩ := of_decide_eq_true passes
  exact ⟨state, run, settled, daemon, settled_subscription_in_step run settled⟩

/-- A change that follows the reply before the handler is connected. -/
def losingRun : List SubscriptionEvent :=
  [.construct, .construct, .answerServices [], .dispatch, .change [("/wifi", [])] [], .dispatch,
    .answerTechnologies [] 0, .construct, .construct, .construct, .dispatch]

/-- The list stays empty while the daemon has a service. -/
theorem losingRun_loses_change :
    ¬ ∀ (noop : CallbackId) (initial : List String) (events : List SubscriptionEvent)
      (state : Subscription), machine.Run Machine.anyStep (start noop initial) events state →
        state.Settled → paths state.manager.services = state.daemon := by
  intro claim
  have executes : (machine.exec? Machine.anyStep (start 0 []) losingRun).any
      (fun state => state.Settled ∧ paths state.manager.services ≠ state.daemon) = true := by
    decide
  obtain ⟨state, run, passes⟩ := Machine.Run.exists_of_exec executes
  obtain ⟨settled, differs⟩ := of_decide_eq_true passes
  exact differs (claim 0 [] losingRun state run settled)

end Subscription

end GConnman.Connman
