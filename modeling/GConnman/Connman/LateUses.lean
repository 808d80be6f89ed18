import GConnman.Connman.Lifetime
import GConnman.Connman.Properties

/-!
# Handlers of a destroyed manager

The handlers of requests hold a reference to their proxy, but a RequestInput worker
and the reply of a list call only hold a pointer to the manager, a worker one to the
context as well, and the signal handlers stay connected while a list call keeps the
`GDBusProxy` alive.  None of them runs too late when, at the destruction of the
manager, no worker still has to run its handler and no list call is unanswered, and
at the release of the context no worker is left.
-/

namespace GConnman.Connman

open GConnman.GLib GConnman.Foundation GConnman.DBus

namespace Session

variable {Properties : ProxyId → Type} {session next : Session Properties}

/-! ## The condition -/

/-- Nothing that only holds a pointer to the manager will use it. -/
structure Quiet (session : Session Properties) : Prop where
  starting : .starting ∉ session.workers
  inHandler : .inHandler ∉ session.workers
  answered : ∀ request, .list request ∉ session.line

instance : Decidable (Quiet session) :=
  decidable_of_iff
    (.starting ∉ session.workers ∧ .inHandler ∉ session.workers ∧
      .list .technologies ∉ session.line ∧ .list .services ∉ session.line)
    ⟨fun quiet => ⟨quiet.1, quiet.2.1, fun request => by
        cases request with
        | technologies => exact quiet.2.2.1
        | services => exact quiet.2.2.2⟩,
      fun quiet => ⟨quiet.starting, quiet.inHandler, quiet.answered _, quiet.answered _⟩⟩

instance : (event : SessionEvent) → Decidable (event = .releaseContext)
  | .releaseContext => .isTrue rfl
  | .construct | .bus _ | .send | .listReply _ | .requestInput | .enterHandler _
  | .leaveHandler _ _ | .post _ | .runPosted | .resetManager | .resetClock | .destroyDBus
  | .endDrain => .isFalse nofun

section Condition

variable [∀ proxy, PropertyRecord (Properties proxy)]

/-- The event drops the last reference to the manager. -/
def destroysManager (session : Session Properties) (event : SessionEvent) : Bool :=
  session.managerAlive ∧ (session.step? event).any fun next => ! next.managerAlive

/-- The manager is destroyed when it is quiet, and the context is released when no
worker is left. -/
def Timely (session : Session Properties) (event : SessionEvent) : Prop :=
  (session.destroysManager event = true → Quiet session) ∧
    (event = .releaseContext → session.workers = [])

instance (session : Session Properties) (event : SessionEvent) :
    Decidable (Timely session event) :=
  inferInstanceAs (Decidable (_ ∧ _))

end Condition

/-! ## Invariant -/

/-- No handler has run too late, and none can. -/
structure Clean (session : Session Properties) : Prop where
  constructed : session.system.stop ≠ .notCalled → session.stage = .constructed
  stopped : session.teardown ≠ .notBegun → session.stage = .constructed
  quiet : session.managerAlive = false → Quiet session
  finished : session.teardown = .released → session.workers = []
  timely : session.lateUses = []

theorem clean_start (objPath : ProxyId → String)
    (props : (proxy : ProxyId) → Properties proxy) : Clean (start objPath props) where
  constructed called := absurd rfl called
  stopped begun := absurd rfl begun
  quiet dead := by cases dead
  finished released := by cases released
  timely := rfl

theorem managerAlive_of_begun (dead : session.managerAlive = false) :
    session.teardown ≠ .notBegun := by
  intro teardown
  rw [managerAlive_of_notBegun teardown] at dead
  cases dead

/-- A request that holds the manager keeps it alive. -/
theorem managerAlive_of_holds {id : RequestId}
    (member : id ∈ session.system.inFlight ++ session.system.activity.requests)
    (holds : session.requestHolds id = true) : session.managerAlive = true :=
  decide_eq_true (.inr (List.any_eq_true.mpr ⟨id, member, holds⟩))

theorem useManager_of_alive (timely : session.lateUses = []) {uses : Bool}
    (alive : uses = true → session.managerAlive = true) : session.useManager uses = [] := by
  unfold useManager
  rw [if_neg fun late => late.2 (alive late.1)]
  exact timely

theorem useContext_of_alive (timely : session.lateUses = [])
    (alive : session.teardown ≠ .released) : session.useContext = [] := by
  have living : session.contextAlive = true := decide_eq_true alive
  rw [useContext, if_pos living]
  exact timely

theorem mem_of_worker {index : Nat} {stage : WorkerStage}
    (found : session.workers[index]? = some stage) : stage ∈ session.workers :=
  List.mem_of_getElem? found

/-- While a list call can be answered the manager is alive. -/
theorem managerAlive_of_list (clean : Clean session) {request : ListRequest}
    (waiting : .list request ∈ session.sent) : session.managerAlive = true := by
  by_contra dead
  exact (clean.quiet (eq_false_of_ne_true dead)).answered request
    (List.mem_append_left _ waiting)

/-- The signals of the manager are delivered to a live manager. -/
theorem managerAlive_of_subscribed (clean : Clean session)
    (subscribed : session.managerSubscribed = true) : session.managerAlive = true := by
  rcases of_decide_eq_true subscribed with alive | waiting | waiting
  · exact alive
  · exact managerAlive_of_list clean waiting
  · exact managerAlive_of_list clean waiting

/-- No event of the bus sends a list call. -/
theorem mem_line_of_bus {event : Event} {request : ListRequest}
    (member : .list request ∈ (session.queues event).2 ++ (session.queues event).1) :
    .list request ∈ session.line := by
  cases event with
  | prepare origin proxy operation callback =>
      cases origin with
      | thread =>
          rw [queues, ← List.append_assoc, List.mem_append, List.mem_singleton] at member
          exact member.resolve_right nofun
      | callback =>
          rw [queues, List.append_assoc, List.mem_append, List.singleton_append,
            List.mem_cons] at member
          rcases member with before | wrong | after
          · exact List.mem_append_left _ before
          · cases wrong
          · exact List.mem_append_right _ after
  | dispatchReply id reply =>
      rcases List.mem_append.mp member with waiting | behind
      · exact List.mem_append_left _ (List.mem_of_mem_erase waiting)
      · exact List.mem_append_right _ behind
  | _ => exact member

theorem mem_of_mem_splice {index : Nat} {stage : WorkerStage}
    (member : stage ∈ session.workers.take index ++ session.workers.drop (index + 1)) :
    stage ∈ session.workers := by
  rcases List.mem_append.mp member with before | after
  · exact List.mem_of_mem_take before
  · exact List.mem_of_mem_drop after

variable [∀ proxy, PropertyRecord (Properties proxy)]

/-! ## Steps -/

/-- The handlers of the bus use a live manager. -/
theorem managerAlive_of_handles {event : Event} {system : System Properties}
    (clean : Clean session) (allowed : session.allows event = true)
    (effect : System.Effect session.view event system)
    (handles : session.handlesManager event = true) : session.managerAlive = true := by
  have completing : session.system.activity.requests.any session.requestHolds = true →
      session.managerAlive = true := by
    intro some
    obtain ⟨id, active, holds⟩ := List.any_eq_true.mp some
    exact managerAlive_of_holds (List.mem_append_right _ active) holds
  cases effect with
  | reply ready member stored result =>
      rw [view_inFlight] at member
      exact managerAlive_of_holds (List.mem_append_left _ member) handles
  | finish => exact completing handles
  | enter => exact completing handles
  | leave => exact completing handles
  | signal ready result =>
      exact managerAlive_of_subscribed clean
        (of_decide_eq_true allowed (of_decide_eq_true handles))
  | _ => cases handles

/-- Nothing starts to point at a dead manager. -/
theorem quiet_moves {event : SessionEvent} (clean : Clean session) (quiet : Quiet session)
    (dead : next.managerAlive = false) (moves : Moves session event next) : Quiet next := by
  have begun := managerAlive_of_begun dead
  have building : session.stage ≠ .constructed → next.teardown = session.teardown → False := by
    intro building same
    rw [same] at begun
    exact building (clean.stopped begun)
  cases moves with
  | technologies stage => exact (building (by rw [stage]; exact Stage.noConfusion) rfl).elim
  | services stage => exact (building (by rw [stage]; exact Stage.noConfusion) rfl).elim
  | connect stage attached => exact ⟨quiet.starting, quiet.inHandler, quiet.answered⟩
  | clock stage => exact (building (by rw [stage]; exact Stage.noConfusion) rfl).elim
  | bus allowed effect =>
      exact ⟨quiet.starting, quiet.inHandler,
        fun request member => quiet.answered request (mem_line_of_bus member)⟩
  | @send call rest attached =>
      refine ⟨quiet.starting, quiet.inHandler, fun request member => quiet.answered request ?_⟩
      rw [line, attached]
      rwa [line, List.append_assoc] at member
  | listReply waiting effect =>
      exact absurd (List.mem_append_left _ waiting) (quiet.answered _)
  | requestInput dispatches alive =>
      have still : session.managerAlive = false := dead
      rw [still] at alive
      cases alive
  | enterHandler stage => exact absurd (mem_of_worker stage) quiet.starting
  | leaveHandler threw stage => exact absurd (mem_of_worker stage) quiet.inHandler
  | post stage =>
      refine ⟨fun member => quiet.starting ?_, fun member => quiet.inHandler ?_, quiet.answered⟩
      · rw [List.append_nil] at member
        exact mem_of_mem_splice member
      · rw [List.append_nil] at member
        exact mem_of_mem_splice member
  | _ => exact ⟨quiet.starting, quiet.inHandler, quiet.answered⟩

/-- A timely step uses nothing that is destroyed. -/
theorem timely_moves {event : SessionEvent} (clean : Clean session)
    (moves : Moves session event next) : next.lateUses = [] := by
  have dead_of_late : ∀ {uses : Bool}, (session.managerAlive = false → Quiet session → False) →
      session.useManager uses = [] := by
    intro uses refuted
    refine useManager_of_alive clean.timely fun _ => ?_
    by_contra dead
    have gone := eq_false_of_ne_true dead
    exact refuted gone (clean.quiet gone)
  cases moves with
  | bus allowed effect =>
      exact useManager_of_alive clean.timely (managerAlive_of_handles clean allowed effect)
  | listReply waiting effect =>
      exact useManager_of_alive clean.timely fun _ => managerAlive_of_list clean waiting
  | enterHandler stage =>
      exact dead_of_late fun _ quiet => quiet.starting (mem_of_worker stage)
  | leaveHandler threw stage =>
      exact dead_of_late fun _ quiet => quiet.inHandler (mem_of_worker stage)
  | post stage =>
      refine useContext_of_alive clean.timely fun released => ?_
      have member := mem_of_worker stage
      rw [clean.finished released] at member
      cases member
  | _ => exact clean.timely

/-- `stop` is called on a constructed Connman. -/
theorem constructed_of_bus {event : Event} {system : System Properties} (clean : Clean session)
    (called : (session.settle system).stop ≠ .notCalled) (allowed : session.allows event = true)
    (effect : System.Effect session.view event system) : session.stage = .constructed := by
  rw [settle_stop] at called
  have before : session.view.stop ≠ .notCalled → session.stage = .constructed := by
    rw [view_stop]
    exact clean.constructed
  cases effect with
  | clearRunning phase => exact of_decide_eq_true allowed
  | quitWhenIdle phase => exact before (by rw [phase]; exact StopPhase.noConfusion)
  | stopReturns phase returned => exact before (by rw [phase]; exact StopPhase.noConfusion)
  | _ => exact before called

theorem constructed_moves {event : SessionEvent} (clean : Clean session)
    (moves : Moves session event next) (called : next.system.stop ≠ .notCalled) :
    next.stage = .constructed := by
  have stays := constructed_of_moves moves
  cases moves with
  | bus allowed effect => exact stays (constructed_of_bus clean called allowed effect)
  | listReply waiting effect =>
      have allowed : session.allows (.dispatchSignal managerProxy none) = true := by
        refine decide_eq_true fun _ => ?_
        exact decide_eq_true (.inl (managerAlive_of_list clean waiting))
      exact stays (constructed_of_bus clean called allowed effect)
  | _ => exact stays (clean.constructed called)

theorem stopped_moves {event : SessionEvent} (clean : Clean session)
    (moves : Moves session event next) (begun : next.teardown ≠ .notBegun) :
    next.stage = .constructed := by
  apply constructed_of_moves moves
  by_cases teardown : session.teardown = .notBegun
  · apply clean.constructed
    rw [returned_of_begun moves teardown begun]
    exact StopPhase.noConfusion
  · exact clean.stopped teardown

/-- No worker is left once the context has been released, and none starts. -/
theorem finished_moves {event : SessionEvent} (clean : Clean session)
    (timely : Timely session event) (moves : Moves session event next)
    (released : next.teardown = .released) : next.workers = [] := by
  have none_left : ∀ {stage : WorkerStage}, stage ∈ session.workers →
      session.teardown = .released → False := by
    intro stage member ended
    rw [clean.finished ended] at member
    cases member
  cases moves with
  | requestInput dispatches alive =>
      have ended : session.teardown = .released := released
      rcases (of_decide_eq_true dispatches).1 with before | draining
      · rw [ended] at before
        cases before
      · rw [ended] at draining
        cases draining
  | enterHandler stage => exact (none_left (mem_of_worker stage) released).elim
  | leaveHandler threw stage => exact (none_left (mem_of_worker stage) released).elim
  | post stage => exact (none_left (mem_of_worker stage) released).elim
  | resetManager => cases released
  | resetClock => cases released
  | destroyDBus => cases released
  | endDrain => cases released
  | releaseContext before => exact timely.2 rfl
  | _ => exact clean.finished released

theorem clean_step {event : SessionEvent} (clean : Clean session)
    (timely : Timely session event) (stepped : session.step? event = some next) :
    Clean next where
  constructed := constructed_moves clean (moves_of_step stepped)
  stopped := stopped_moves clean (moves_of_step stepped)
  quiet dead := by
    refine quiet_moves clean ?_ dead (moves_of_step stepped)
    by_cases alive : session.managerAlive = true
    · apply timely.1
      refine decide_eq_true ⟨alive, ?_⟩
      rw [stepped, Option.any_some, dead]
      rfl
    · exact clean.quiet (eq_false_of_ne_true alive)
  finished := finished_moves clean timely (moves_of_step stepped)
  timely := timely_moves clean (moves_of_step stepped)

/-! ## Runs -/

/-- In every run in which the manager is destroyed when no worker still has to run its
handler and no list call is unanswered, and the context is released when no worker is
left, nothing uses either of them after its destruction. -/
theorem no_late_uses {objPath : ProxyId → String} {props : (proxy : ProxyId) → Properties proxy}
    {events : List SessionEvent}
    (run : machine.Run Timely (start objPath props) events session) :
    session.lateUses = [] := by
  have clean : Clean session :=
    run.invariant (fun _ _ _ held timely stepped => clean_step held timely stepped)
      (clean_start objPath props)
  exact clean.timely

/-- A Connman whose worker has posted its result and whose lists have been answered
when it is destroyed. -/
theorem finished_worker_timely :
    ∃ session : Session fun _ => ClockProperties,
      machine.Run Timely (start (fun _ => "/") fun _ => {})
          [.construct, .construct, .send, .send, .construct, .construct, .send,
            .listReply .technologies, .bus .leaveSignal, .listReply .services,
            .bus .leaveSignal, .bus (.dispatchReply 0 none), .bus .enterCallBack,
            .requestInput, .enterHandler 0, .leaveHandler 0 false, .bus .clearRunning,
            .bus .quitWhenIdle, .bus .loopReturns, .bus .stopReturns, .resetManager,
            .resetClock, .post 0, .destroyDBus, .runPosted, .endDrain, .releaseContext]
          session ∧
        session.managerAlive = false ∧ session.contextAlive = false ∧
        session.lateUses = [] := by
  have executes : (machine.exec? Timely (start (fun _ => "/") fun _ => ({} : ClockProperties))
      [.construct, .construct, .send, .send, .construct, .construct, .send,
        .listReply .technologies, .bus .leaveSignal, .listReply .services,
        .bus .leaveSignal, .bus (.dispatchReply 0 none), .bus .enterCallBack,
        .requestInput, .enterHandler 0, .leaveHandler 0 false, .bus .clearRunning,
        .bus .quitWhenIdle, .bus .loopReturns, .bus .stopReturns, .resetManager,
        .resetClock, .post 0, .destroyDBus, .runPosted, .endDrain, .releaseContext]).any
      (fun session => session.managerAlive = false ∧ session.contextAlive = false) = true := by
    decide
  obtain ⟨session, run, passes⟩ := Machine.Run.exists_of_exec executes
  obtain ⟨manager, context⟩ := of_decide_eq_true passes
  exact ⟨session, run, manager, context, no_late_uses run⟩

/-- A worker that starts after the destruction of the manager runs its handler. -/
theorem late_worker_uses_manager :
    ¬ ∀ (events : List SessionEvent) (session : Session fun _ => ClockProperties),
      machine.Run Machine.anyStep (start (fun _ => "/") fun _ => {}) events session →
        session.lateUses = [] := by
  intro claim
  have executes : (machine.exec? Machine.anyStep
      (start (fun _ => "/") fun _ => ({} : ClockProperties))
      [.construct, .construct, .send, .send, .construct, .construct, .send,
        .listReply .technologies, .bus .leaveSignal, .listReply .services,
        .bus .leaveSignal, .bus (.dispatchReply 0 none), .bus .enterCallBack,
        .requestInput, .bus .clearRunning, .bus .quitWhenIdle, .bus .loopReturns,
        .bus .stopReturns, .resetManager, .enterHandler 0]).any
      (fun session => session.lateUses = [.manager]) = true := by
    decide
  obtain ⟨session, run, passes⟩ := Machine.Run.exists_of_exec executes
  have late := of_decide_eq_true passes
  rw [claim _ session run] at late
  cases late

end Session

end GConnman.Connman
