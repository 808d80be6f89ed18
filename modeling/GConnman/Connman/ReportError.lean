import GConnman.Connman.Agent
import GConnman.Connman.ServiceList

/-!
# Reported errors

A ReportError call passes through three layers: the agent, which catches what
its handler throws, the handler of the manager, which looks the service up and
copies the callback under one lock, and the user's callback.  Over a run of list
updates, installations of the callback and ReportError calls, a retry is
requested exactly when all three agree.
-/

namespace GConnman.Connman

open GConnman.GLib GConnman.DBus GConnman.Foundation

/-- A call of the user's report-error callback. -/
structure ReportCall where
  callback : CallbackId
  service : Ref
  error : String
  deriving DecidableEq, Repr

/-- What the report-error handler of `setup_agent` calls: the service found and
the callback copied under the lock. -/
def Manager.reportCall (manager : Manager) (servicePath error : String) : Option ReportCall :=
  match manager.services.find? (fun service => service.objPath = servicePath),
    manager.reportErrorCb with
  | some foundService, some callback => some ⟨callback, foundService, error⟩
  | _, _ => none

/-- The report-error handler of `setup_agent`: its result and the calls it makes.
`callback` is how a call of the user's callback ends. -/
def Manager.reportError (manager : Manager) (callback : ReportCall → HandlerOutcome Bool)
    (servicePath error : String) : HandlerOutcome Bool × List ReportCall :=
  match manager.reportCall servicePath error with
  | none => (.returned false, [])
  | some call => (callback call, [call])

/-- `onReportError`: a null callback removes the installed one. -/
def Manager.onReportError (manager : Manager) (callback : Option CallbackId) : Manager :=
  { manager with reportErrorCb := callback }

/-- The parameters of a ReportError call. -/
def reportErrorCall (servicePath error : String) : AgentCall where
  methodName := "ReportError"
  parameters := .tuple [.objectPath servicePath, .string error]
  typed := rfl

/-- The manager with its agent; `calls` records the calls of the user's callback. -/
structure ReportSystem where
  manager : Manager
  agent : Agent := {}
  calls : List ReportCall := []

inductive ReportEvent where
  | list (event : ListEvent)
  | onReportError (callback : Option CallbackId)
  | reportError (servicePath error : String) (callback : ReportCall → HandlerOutcome Bool)

/-- What connman asks for another attempt with. -/
def Reply.retry : Reply := .dbusError "net.connman.Agent.Error.Retry" "Retry"

/-- An empty success reply. -/
def Reply.success : Reply := .value none

/-- The answer to a ReportError call, by how its handler ended. -/
def reportAnswer : HandlerOutcome Bool → Reply
  | .returned true => .retry
  | _ => .success

theorem reportAnswer_eq_retry_iff (outcome : HandlerOutcome Bool) :
    reportAnswer outcome = .retry ↔ outcome = .returned true := by
  unfold reportAnswer
  split
  · exact iff_of_true rfl rfl
  · rename_i otherwise
    exact iff_of_false nofun otherwise

namespace ReportSystem

variable (system : ReportSystem)

/-- The agent as the manager sets it up: its handler reads the manager. -/
def agentWith (callback : ReportCall → HandlerOutcome Bool) : Agent :=
  { system.agent with
    reportErrorCb := some fun _ servicePath error =>
      (system.manager.reportError callback servicePath error).1 }

def step? : ReportEvent → Option ReportSystem
  | .list event => (system.manager.handle event).next?.map fun manager => { system with manager }
  | .onReportError callback =>
      some { system with manager := system.manager.onReportError callback }
  | .reportError servicePath error callback =>
      ((system.agentWith callback).dispatchMethodCall (reportErrorCall servicePath error)).map
        fun agent =>
          { system with
            agent
            calls := system.calls ++
              (system.manager.reportError callback servicePath error).2 }

def machine : Machine ReportSystem ReportEvent := ⟨step?⟩

/-- A ReportError call is answered at once, by how the handler ends. -/
theorem step_reportError (servicePath error : String)
    (callback : ReportCall → HandlerOutcome Bool) :
    system.step? (.reportError servicePath error callback) =
      some { system with
        agent := ((system.agentWith callback).receive (reportErrorCall servicePath error)).reply
          system.agent.received.length
          (reportAnswer (system.manager.reportError callback servicePath error).1)
        calls := system.calls ++
          (system.manager.reportError callback servicePath error).2 } := by
  have dispatched : (system.agentWith callback).dispatchMethodCall
      (reportErrorCall servicePath error) = some (((system.agentWith callback).receive
        (reportErrorCall servicePath error)).reply system.agent.received.length
          (reportAnswer (system.manager.reportError callback servicePath error).1)) := by
    have named : (reportErrorCall servicePath error).methodName = "ReportError" := rfl
    unfold Agent.dispatchMethodCall
    rw [named, if_neg fun taken => absurd taken.1 (by decide), if_neg (by decide),
      if_neg (by decide), if_pos rfl]
    change some (Agent.reply _ _ _) = some (Agent.reply _ _ _)
    congr 2
    have consulted :
        ((system.agentWith callback).reportErrorCb.map fun handler =>
            handler (system.agentWith callback).received.length servicePath error) =
          some (system.manager.reportError callback servicePath error).1 := rfl
    rw [consulted]
    rcases (system.manager.reportError callback servicePath error).1 with retry | _
    · cases retry <;> rfl
    · rfl
  rw [step?, dispatched]
  rfl

def constructed (noop : CallbackId) : ReportSystem where
  manager := .constructed noop

end ReportSystem

/-! ## What the run has announced and installed -/

/-- The paths of the last list update. -/
def listedAfter (listed : List String) : ReportEvent → List String
  | .list (.getServicesReply (some all)) => all.map Prod.fst
  | .list (.servicesChanged changed _) => changed.map Prod.fst
  | _ => listed

def lastListed (events : List ReportEvent) : List String := events.foldl listedAfter []

/-- The callback of the last installation. -/
def installedAfter (installed : Option CallbackId) : ReportEvent → Option CallbackId
  | .onReportError callback => callback
  | _ => installed

def lastInstalled (events : List ReportEvent) : Option CallbackId :=
  events.foldl installedAfter none

/-- The manager knows what the run has announced and installed. -/
structure Follows (events : List ReportEvent) (system : ReportSystem) : Prop where
  listed : paths system.manager.services = lastListed events
  installed : system.manager.reportErrorCb = lastInstalled events

/-- List events leave the report-error callback alone. -/
theorem handle_reportErrorCb (manager : Manager) (event : ListEvent) :
    (manager.handle event).manager.reportErrorCb = manager.reportErrorCb := by
  cases event with
  | getServicesReply reply =>
      cases reply with
      | none => rfl
      | some all =>
          simp only [Manager.handle, Manager.getServicesCb, Option.map_some]
          split <;> rfl
  | servicesChanged changed removed =>
      simp only [Manager.handle, Manager.onServicesChangedCb]
      split
      · rfl
      · split <;> rfl
  | onServicesChanged callback => cases callback <;> rfl
  | propertyChanged ref pair => rfl
  | onPropertyChanged ref callback => rfl

/-- A list event that does not raise leaves the announced paths. -/
theorem paths_of_handle {manager next : Manager} {event : ListEvent} {listed : List String}
    (before : paths manager.services = listed)
    (survived : (manager.handle event).next? = some next) :
    paths next.services = listedAfter listed (.list event) := by
  cases event with
  | getServicesReply reply =>
      cases reply with
      | none =>
          cases survived
          exact before
      | some all => exact getServicesCb_paths survived
  | servicesChanged changed removed => exact onServicesChangedCb_paths survived
  | onServicesChanged callback =>
      obtain ⟨-, rfl⟩ := Reaction.next?_eq_some.mp survived
      cases callback <;> exact before
  | propertyChanged ref pair =>
      obtain ⟨-, rfl⟩ := Reaction.next?_eq_some.mp survived
      exact (paths_updateService manager ref fun service =>
        updateProperty_objPath service _).trans before
  | onPropertyChanged ref callback =>
      obtain ⟨-, rfl⟩ := Reaction.next?_eq_some.mp survived
      exact (paths_updateService manager ref fun service =>
        onPropertyChanged_objPath service callback).trans before

theorem follows_step {events : List ReportEvent} {system next : ReportSystem}
    {event : ReportEvent} (follows : Follows events system)
    (stepped : system.step? event = some next) : Follows (events ++ [event]) next := by
  have listed : lastListed (events ++ [event]) = listedAfter (lastListed events) event :=
    List.foldl_concat ..
  have installed :
      lastInstalled (events ++ [event]) = installedAfter (lastInstalled events) event :=
    List.foldl_concat ..
  constructor
  · rw [listed]
    cases event with
    | list event =>
        obtain ⟨manager, survived, rfl⟩ := Option.map_eq_some_iff.mp stepped
        exact paths_of_handle follows.listed survived
    | onReportError callback =>
        cases stepped
        exact follows.listed
    | reportError servicePath error callback =>
        rw [ReportSystem.step_reportError] at stepped
        cases stepped
        exact follows.listed
  · rw [installed]
    cases event with
    | list event =>
        obtain ⟨manager, survived, rfl⟩ := Option.map_eq_some_iff.mp stepped
        obtain ⟨-, rfl⟩ := Reaction.next?_eq_some.mp survived
        exact (handle_reportErrorCb system.manager event).trans follows.installed
    | onReportError callback =>
        cases stepped
        rfl
    | reportError servicePath error callback =>
        rw [ReportSystem.step_reportError] at stepped
        cases stepped
        exact follows.installed

theorem follows_run {noop : CallbackId} {events : List ReportEvent} {system : ReportSystem}
    (run : ReportSystem.machine.Run Machine.anyStep (.constructed noop) events system) :
    Follows events system := by
  induction run with
  | refl => exact ⟨rfl, rfl⟩
  | tail _ _ stepped ih => exact follows_step ih stepped

/-! ## One ReportError call -/

/-- The handler calls the user exactly when a service is listed for the path and a
callback is installed. -/
theorem reportCall_eq_some_iff {manager : Manager} {servicePath error : String}
    {call : ReportCall} :
    manager.reportCall servicePath error = some call ↔
      lookup manager.services servicePath = some call.service ∧
        manager.reportErrorCb = some call.callback ∧ call.error = error := by
  obtain ⟨callback, service, text⟩ := call
  unfold Manager.reportCall
  change (match lookup manager.services servicePath, manager.reportErrorCb with
    | some foundService, some callback => some (ReportCall.mk callback foundService error)
    | _, _ => none) = _ ↔ _
  cases lookup manager.services servicePath with
  | none => exact iff_of_false nofun fun both => nomatch both.1
  | some found =>
      cases manager.reportErrorCb with
      | none => exact iff_of_false nofun fun both => nomatch both.2.1
      | some installed =>
          simp only [Option.some.injEq, ReportCall.mk.injEq]
          constructor
          · rintro ⟨rfl, rfl, rfl⟩
            exact ⟨rfl, rfl, rfl⟩
          · rintro ⟨rfl, rfl, rfl⟩
            exact ⟨rfl, rfl, rfl⟩

/-- A user's callback that is called exactly once, with the service that the last
list update lists under the path and the reported error. -/
structure Consulted (events : List ReportEvent) (system next : ReportSystem)
    (servicePath error : String) (call : ReportCall) : Prop where
  listed : servicePath ∈ lastListed events
  service : call.service ∈ system.manager.services.refs ∧
    ∃ service, system.manager.services.store.get? call.service = some service ∧
      service.objPath = servicePath
  installed : lastInstalled events = some call.callback
  error : call.error = error
  calls : next.calls = system.calls ++ [call]

theorem mem_paths_of_lookup {services : SharedList Service} {path : String} {ref : Ref}
    (found : lookup services path = some ref) : path ∈ paths services := by
  by_contra absent
  rw [lookup_none.mpr absent] at found
  cases found

theorem lookup_isSome_of_mem {services : SharedList Service} {path : String}
    (listed : path ∈ paths services) : ∃ ref, lookup services path = some ref := by
  cases found : lookup services path with
  | none => exact absurd listed (lookup_none.mp found)
  | some ref => exact ⟨ref, rfl⟩

/-- A call that the handler makes consults the user as announced and installed. -/
theorem consulted_of_reportCall {events : List ReportEvent} {system next : ReportSystem}
    (follows : Follows events system) {servicePath error : String} {call : ReportCall}
    (called : system.manager.reportCall servicePath error = some call)
    (calls : next.calls = system.calls ++ [call]) :
    Consulted events system next servicePath error call := by
  obtain ⟨found, installed, same⟩ := reportCall_eq_some_iff.mp called
  exact {
    listed := by
      rw [← follows.listed]
      exact mem_paths_of_lookup found
    service := lookup_some found
    installed := by rw [← follows.installed, installed]
    error := same
    calls := calls }

/-- Where a service is listed and a callback installed, the handler calls it. -/
theorem reportCall_isSome {events : List ReportEvent} {system : ReportSystem}
    (follows : Follows events system) {servicePath : String} (error : String)
    {callback : CallbackId} (listed : servicePath ∈ lastListed events)
    (installed : lastInstalled events = some callback) :
    ∃ ref, system.manager.reportCall servicePath error = some ⟨callback, ref, error⟩ := by
  rw [← follows.listed] at listed
  rw [← follows.installed] at installed
  obtain ⟨ref, found⟩ := lookup_isSome_of_mem listed
  exact ⟨ref, reportCall_eq_some_iff.mpr ⟨found, installed, rfl⟩⟩

/-- After any run of list updates, installations and ReportError calls, the next
ReportError is answered at once, with a retry or with an empty success.  It is a
retry exactly when the user's callback was consulted and returned true.  The
callback is consulted whenever the path is listed and a callback is installed,
and otherwise no callback is called. -/
theorem reportError_answered {noop : CallbackId} {events : List ReportEvent}
    {system : ReportSystem}
    (run : ReportSystem.machine.Run Machine.anyStep (.constructed noop) events system)
    (servicePath error : String) (callback : ReportCall → HandlerOutcome Bool) :
    ∃ next answer,
      ReportSystem.machine.step? system (.reportError servicePath error callback) = some next ∧
      next.agent.replies = system.agent.replies ++ [(system.agent.received.length, answer)] ∧
      (answer = .retry ∨ answer = .success) ∧
      (answer = .retry ↔ ∃ call, Consulted events system next servicePath error call ∧
        callback call = .returned true) ∧
      (servicePath ∈ lastListed events → ∀ installed, lastInstalled events = some installed →
        ∃ service, Consulted events system next servicePath error ⟨installed, service, error⟩) ∧
      (servicePath ∉ lastListed events ∨ lastInstalled events = none →
        next.calls = system.calls) := by
  have follows := follows_run run
  refine ⟨_, _, system.step_reportError servicePath error callback, rfl, ?_, ?_, ?_, ?_⟩
  · unfold reportAnswer
    split
    · exact .inl rfl
    · exact .inr rfl
  · rw [reportAnswer_eq_retry_iff]
    unfold Manager.reportError
    cases called : system.manager.reportCall servicePath error with
    | none =>
        refine iff_of_false nofun ?_
        rintro ⟨call, consulted, -⟩
        obtain ⟨ref, expected⟩ :=
          reportCall_isSome follows error consulted.listed consulted.installed
        rw [called] at expected
        cases expected
    | some call =>
        constructor
        · intro agreed
          exact ⟨call, consulted_of_reportCall follows called rfl, agreed⟩
        · rintro ⟨other, consulted, agreed⟩
          have same := List.append_cancel_left consulted.calls
          cases same
          exact agreed
  · intro listed installed held
    obtain ⟨ref, called⟩ := reportCall_isSome follows error listed held
    refine ⟨ref, consulted_of_reportCall follows called ?_⟩
    simp only [Manager.reportError, called]
  · intro missing
    have uncalled : system.manager.reportCall servicePath error = none := by
      cases called : system.manager.reportCall servicePath error with
      | none => rfl
      | some call =>
          have consulted : Consulted events system
              { system with calls := system.calls ++ [call] } servicePath error call :=
            consulted_of_reportCall follows called rfl
          rcases missing with unlisted | removed
          · exact absurd consulted.listed unlisted
          · rw [consulted.installed] at removed
            cases removed
    simp only [Manager.reportError, uncalled, List.append_nil]

/-- A failure of a listed service is retried when the callback asks for it. -/
theorem listed_service_retried :
    ∃ system next answer,
      ReportSystem.machine.Run Machine.anyStep (.constructed 0)
          [.list (.getServicesReply (some [("/wifi", [])])), .onReportError (some 7)] system ∧
        ReportSystem.machine.step? system
          (.reportError "/wifi" "invalid-key" fun _ => .returned true) = some next ∧
        next.agent.replies = system.agent.replies ++ [(system.agent.received.length, answer)] ∧
        answer = .retry := by
  have executes : (ReportSystem.machine.exec? Machine.anyStep (.constructed 0)
      [.list (.getServicesReply (some [("/wifi", [])])), .onReportError (some 7)]).any
      (fun _ => true) = true := by
    decide
  obtain ⟨system, run, -⟩ := Machine.Run.exists_of_exec executes
  obtain ⟨next, answer, stepped, replies, -, retried, consults, -⟩ :=
    reportError_answered run "/wifi" "invalid-key" fun _ => .returned true
  obtain ⟨service, consulted⟩ := consults (by decide) 7 rfl
  exact ⟨system, next, answer, run, stepped, replies, retried.mpr ⟨_, consulted, rfl⟩⟩

end GConnman.Connman
