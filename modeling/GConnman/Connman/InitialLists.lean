import GConnman.Connman.Lifetime
import GConnman.DBus.Shutdown
import GConnman.Foundation.Queue

/-!
# The initial lists and the end of the loop

The calls for the lists are not counted, but the counted call for the properties of
the clock is sent after them.  When connman answers in order and the loop dispatches
in order, the loop is only quit after the clock has been answered, and so after both
lists have been, provided that the counter does not wrap around.
-/

namespace GConnman.Connman

open GConnman.GLib GConnman.Foundation GConnman.DBus

namespace Session

variable {Properties : ProxyId → Type}

/-! ## Assumptions -/

/-- Calls are answered in the order they were sent, and the answers are dispatched in
that order. -/
def InOrder (session : Session Properties) : SessionEvent → Prop
  | .bus (.dispatchReply id _) => session.sent.head? = some (.request id)
  | .listReply request => session.sent.head? = some (.list request)
  | _ => True

/-- Fewer than `2 ^ 32` counted requests are outstanding at once. -/
def FewCounted (session : Session Properties) : SessionEvent → Prop
  | .bus event => System.FewOutstanding session.system event
  | _ => True

def Orderly (session : Session Properties) (event : SessionEvent) : Prop :=
  InOrder session event ∧ FewCounted session event

instance (session : Session Properties) :
    (event : SessionEvent) → Decidable (InOrder session event)
  | .bus (.dispatchReply _ _) => inferInstanceAs (Decidable (_ = _))
  | .listReply _ => inferInstanceAs (Decidable (_ = _))
  | .bus (.prepare _ _ _ _) | .bus .enterCallBack | .bus .leaveCallBack
  | .bus (.dispatchSignal _ _) | .bus .leaveSignal | .bus .clearRunning | .bus .quitWhenIdle
  | .bus .loopReturns | .bus .stopReturns | .construct | .send | .requestInput
  | .enterHandler _ | .leaveHandler _ _ | .post _ | .runPosted | .resetManager | .resetClock
  | .destroyDBus | .endDrain | .releaseContext => .isTrue trivial

instance (session : Session Properties) :
    (event : SessionEvent) → Decidable (FewCounted session event)
  | .bus event => inferInstanceAs (Decidable (System.FewOutstanding session.system event))
  | .construct | .send | .listReply _ | .requestInput | .enterHandler _ | .leaveHandler _ _
  | .post _ | .runPosted | .resetManager | .resetClock | .destroyDBus | .endDrain
  | .releaseContext => .isTrue trivial

instance (session : Session Properties) (event : SessionEvent) :
    Decidable (Orderly session event) :=
  inferInstanceAs (Decidable (_ ∧ _))

/-! ## The barrier -/

/-- The first request has been completed once the loop has been quit. -/
structure FirstServed (system : System Properties) : Prop where
  counting : System.Counting system
  quit : system.dbus.loop ≠ .running → 0 ∈ system.completed
  joined : system.stop = .returned → system.dbus.loop ≠ .running

/-- The list has been asked for. -/
def Stage.Issued : Stage → ListRequest → Prop
  | .opened, _ => False
  | .technologiesRequested, request => request = .technologies
  | _, _ => True

/-- The list has been handled, or its call is on its way, ahead of the one for the
properties of the clock, which is the first request. -/
def Fetched (session : Session Properties) (request : ListRequest) : Prop :=
  request ∈ session.listed ∨
    Ahead (.list request) (.request 0) session.line ∧
      (0 < session.system.prepared.length → 0 ∈ session.system.inFlight)

/-- What holds until the manager is reset. -/
structure Guarded (session : Session Properties) : Prop where
  served : FirstServed session.system
  unprepared : session.stage ≠ .constructed → session.system.prepared = []
  prepared : session.stage = .constructed → 0 < session.system.prepared.length
  constructed : session.system.stop ≠ .notCalled → session.stage = .constructed
  numbered : ∀ id, .request id ∈ session.line → id < session.system.prepared.length
  fetched : ∀ request, Stage.Issued session.stage request → Fetched session request

/-- Before the reset the barrier holds, and after it both lists have been handled. -/
def Barrier (session : Session Properties) : Prop :=
  (session.teardown = .notBegun → Guarded session) ∧
    (session.teardown ≠ .notBegun → ∀ request, request ∈ session.listed)

theorem guarded_start (objPath : ProxyId → String)
    (props : (proxy : ProxyId) → Properties proxy) : Guarded (start objPath props) where
  served := {
    counting := System.counting_start objPath props
    quit := fun quitting => absurd rfl quitting
    joined := fun returned => by cases returned }
  unprepared _ := rfl
  prepared constructed := by cases constructed
  constructed called := absurd rfl called
  numbered _ member := nomatch member
  fetched _ issued := issued.elim

/-- When `stop` has returned, the clock has been answered, and so have the lists. -/
theorem listed_of_returned {session : Session Properties} (guarded : Guarded session)
    (returned : session.system.stop = .returned) (request : ListRequest) :
    request ∈ session.listed := by
  have constructed := guarded.constructed (by rw [returned]; exact StopPhase.noConfusion)
  have done := guarded.served.quit (guarded.served.joined returned)
  rcases guarded.fetched request (by rw [constructed]; trivial) with listed | ⟨-, waiting⟩
  · exact listed
  · have elsewhere := Census.disjoint guarded.served.counting.accounted
      (waiting (guarded.prepared constructed))
    exact absurd (List.mem_append.mpr (.inr done)) elsewhere

/-! ## Steps of the bus -/

section Bus

variable {system next : System Properties} {event : Event}

/-- The end of a completion: if it quits the loop, nothing is left. -/
theorem firstServed_complete {id : RequestId} (served : FirstServed system)
    (active : system.activity.requests = [id]) (counting : System.Counting next)
    (dbus : next.dbus = system.dbus.onAnyAsyncDone) (stop : next.stop = system.stop)
    (prepared : next.prepared = system.prepared)
    (completed : next.completed = system.completed ++ [id]) : FirstServed next where
  counting
  quit quitting := by
    by_cases before : system.dbus.loop = .running
    · rw [dbus] at quitting
      have idle := DBusState.onAnyAsyncDone_last before quitting
      rw [← dbus] at idle
      have begun := System.lt_of_active served.counting.accounted
        (show id ∈ system.activity.requests by rw [active]; exact List.mem_singleton_self id)
      refine counting.completed_of_idle idle ?_
      rw [prepared]
      exact Nat.zero_lt_of_lt begun
    · rw [completed]
      exact List.mem_append_left _ (served.quit before)
  joined returned := by
    rw [stop] at returned
    rw [dbus]
    exact DBusState.onAnyAsyncDone_loop_ne_of_ne (served.joined returned)

variable [∀ proxy, PropertyRecord (Properties proxy)]

/-- The steps of the bus keep the order, when `stop` is called after the first request. -/
theorem firstServed_effect (served : FirstServed system)
    (begun : system.stop ≠ .notCalled → 0 < system.prepared.length)
    (few : System.FewOutstanding system event) (effect : System.Effect system event next) :
    FirstServed next := by
  have counting := System.counting_effect served.counting few effect
  cases effect with
  | finish activity stored plain =>
      exact firstServed_complete served (congrArg Activity.requests activity) counting
        rfl rfl rfl rfl
  | leave activity stored counted =>
      exact firstServed_complete served (congrArg Activity.requests activity) counting
        rfl rfl rfl rfl
  | quitWhenIdle phase =>
      exact {
        counting
        quit := fun quitting => by
          by_cases before : system.dbus.loop = .running
          · refine served.counting.completed_of_idle
              (DBusState.quitWhenIdle_idle before quitting) (begun ?_)
            rw [phase]
            exact StopPhase.noConfusion
          · exact served.quit before
        joined := fun returned => by cases returned }
  | loopReturns activity quitting =>
      exact {
        counting
        quit := fun _ => served.quit (by rw [quitting]; exact LoopState.noConfusion)
        joined := fun _ => LoopState.noConfusion }
  | stopReturns phase returned =>
      exact {
        counting
        quit := served.quit
        joined := fun _ => by
          change system.dbus.loop ≠ .running
          rw [returned]
          exact LoopState.noConfusion }
  | clearRunning phase =>
      exact { counting, quit := served.quit, joined := fun returned => by cases returned }
  | _ => exact { counting, quit := served.quit, joined := served.joined }

end Bus

section Steps

variable {session : Session Properties}

theorem constructed_of_prepare {origin : Origin} {proxy : ProxyId} {operation : Operation}
    {callback : Option CallbackId}
    (allowed : session.allows (.prepare origin proxy operation callback) = true) :
    session.stage = .constructed := by
  cases origin with
  | thread => exact (of_decide_eq_true allowed).1
  | callback => exact (of_decide_eq_true allowed).1

/-- The calls on their way after an event of the bus: those before, or the new request. -/
theorem mem_line_bus {event : Event} {id : RequestId}
    (member : .request id ∈ (session.queues event).2 ++ (session.queues event).1) :
    .request id ∈ session.line ∨
      (∃ origin proxy operation callback, event = .prepare origin proxy operation callback) ∧
        id = session.system.prepared.length := by
  have added : ∀ {front back : List Call},
      .request id ∈ front ++ .request session.system.prepared.length :: back →
        .request id ∈ front ++ back ∨ id = session.system.prepared.length := by
    intro front back member
    rcases List.mem_append.mp member with before | after
    · exact .inl (List.mem_append_left back before)
    · rcases List.mem_cons.mp after with same | behind
      · cases same
        exact .inr rfl
      · exact .inl (List.mem_append_right front behind)
  cases event with
  | prepare origin proxy operation callback =>
      cases origin with
      | thread =>
          rw [queues, ← List.append_assoc] at member
          rcases added member with before | new
          · rw [List.append_nil] at before
            exact .inl before
          · exact .inr ⟨⟨_, _, _, _, rfl⟩, new⟩
      | callback =>
          rw [queues, List.append_assoc] at member
          rcases added member with before | new
          · exact .inl before
          · exact .inr ⟨⟨_, _, _, _, rfl⟩, new⟩
  | dispatchReply other reply =>
      refine .inl ?_
      rcases List.mem_append.mp member with waiting | behind
      · exact List.mem_append_left _ (List.mem_of_mem_erase waiting)
      · exact List.mem_append_right _ behind
  | _ => exact .inl member

/-- What leaves the bus and the queues alone. -/
theorem guarded_of_same {next : Session Properties} (guarded : Guarded session)
    (system : next.system = session.system) (stage : next.stage = session.stage)
    (line : next.line = session.line) (listed : next.listed = session.listed) :
    Guarded next where
  served := by
    rw [system]
    exact guarded.served
  unprepared := by
    rw [system, stage]
    exact guarded.unprepared
  prepared := by
    rw [system, stage]
    exact guarded.prepared
  constructed := by
    rw [system, stage]
    exact guarded.constructed
  numbered := by
    rw [system, line]
    exact guarded.numbered
  fetched request issued := by
    rw [stage] at issued
    unfold Fetched
    rw [system, line, listed]
    exact guarded.fetched request issued

/-- The constructor asks for a list before anything counted has been prepared. -/
theorem guarded_ask {request : ListRequest} {stage : Stage} (guarded : Guarded session)
    (before : session.stage ≠ .constructed) (after : stage ≠ .constructed)
    (issued : ∀ other, Stage.Issued stage other →
      other = request ∨ Stage.Issued session.stage other) :
    Guarded { session with attached := session.attached ++ [.list request], stage } where
  served := guarded.served
  unprepared _ := guarded.unprepared before
  prepared constructed := absurd constructed after
  constructed called := absurd (guarded.constructed called) before
  numbered id member := by
    have split : .request id ∈ session.sent ++ (session.attached ++ [.list request]) := member
    rw [← List.append_assoc, List.mem_append, List.mem_singleton] at split
    rcases split with earlier | same
    · exact guarded.numbered id earlier
    · cases same
  fetched other asked := by
    have empty := guarded.unprepared before
    have unprepared : ¬ 0 < session.system.prepared.length := by
      rw [empty]
      exact Nat.not_lt_zero 0
    have absent : .request 0 ∉ session.sent ++ session.attached :=
      fun member => unprepared (guarded.numbered 0 member)
    have put : Fetched { session with attached := session.attached ++ [.list request], stage }
        request := by
      refine .inr ⟨?_, fun begun => absurd begun unprepared⟩
      change Ahead _ _ (session.sent ++ (session.attached ++ [_]))
      rw [← List.append_assoc]
      exact ahead_concat absent
    rcases issued other asked with rfl | earlier
    · exact put
    · rcases guarded.fetched other earlier with listed | ⟨ahead, waiting⟩
      · exact .inl listed
      · refine .inr ⟨?_, waiting⟩
        change Ahead _ _ (session.sent ++ (session.attached ++ [_]))
        rw [← List.append_assoc]
        exact ahead.append _

variable [∀ proxy, PropertyRecord (Properties proxy)]

/-- No event of the bus lets a request overtake a list call. -/
theorem fetched_bus {event : Event} {system : System Properties} {request : ListRequest}
    (guarded : Guarded session) (allowed : session.allows event = true)
    (inOrder : InOrder session (.bus event))
    (effect : System.Effect session.system event system) (lateUses : List Resource)
    (fetched : Fetched session request) :
    Fetched { session with
      system
      attached := (session.queues event).1
      sent := (session.queues event).2
      lateUses } request := by
  rcases fetched with listed | ⟨ahead, waiting⟩
  · exact .inl listed
  · refine .inr ?_
    cases effect with
    | @prepare origin parent proxy operation callback permitted =>
        have begun := guarded.prepared (constructed_of_prepare allowed)
        have first := waiting begun
        refine ⟨?_, fun _ => List.mem_append_left _ first⟩
        have other : (.request session.system.prepared.length : Call) ≠ .request 0 := by
          intro same
          exact Nat.ne_of_gt begun (Call.request.inj same)
        cases origin with
        | thread =>
            change Ahead _ _ (session.sent ++ (session.attached ++ [_]))
            rw [← List.append_assoc]
            exact ahead.append _
        | callback =>
            change Ahead _ _ (session.sent ++ [_] ++ session.attached)
            rw [List.append_assoc]
            exact ahead.insert other
    | @reply id reply prepared handled ready member stored result =>
        obtain ⟨rest, sent⟩ := List.head?_eq_some_iff.mp inOrder
        have taken : Ahead (.list request) (.request 0)
            (.request id :: (rest ++ session.attached)) := by
          have before := ahead
          rw [line, sent] at before
          exact before
        rcases taken.taken with same | ⟨other, behind⟩
        · cases same
        · have different : 0 ≠ id := fun same => other (by rw [same])
          refine ⟨?_, fun begun => (List.mem_erase_of_ne different).mpr (waiting begun)⟩
          change Ahead _ _ (session.sent.erase (.request id) ++ session.attached)
          rw [sent, List.erase_cons_head]
          exact behind
    | _ => exact ⟨ahead, waiting⟩

theorem guarded_bus {event : Event} {system : System Properties} (guarded : Guarded session)
    (allowed : session.allows event = true) (orderly : Orderly session (.bus event))
    (effect : System.Effect session.system event system) (lateUses : List Resource) :
    Guarded { session with
      system
      attached := (session.queues event).1
      sent := (session.queues event).2
      lateUses } where
  served := firstServed_effect guarded.served
    (fun called => guarded.prepared (guarded.constructed called)) orderly.2 effect
  unprepared building := by
    cases effect with
    | prepare proxy operation callback permitted =>
        exact absurd (constructed_of_prepare allowed) building
    | _ => exact guarded.unprepared building
  prepared constructed := by
    have begun := guarded.prepared constructed
    change 0 < system.prepared.length
    rcases System.prepared_effect effect with same | ⟨request, added, -⟩
    · rw [same]
      exact begun
    · rw [added, List.length_append]
      exact Nat.lt_add_right _ begun
  constructed called := by
    cases effect with
    | clearRunning phase => exact of_decide_eq_true allowed
    | quitWhenIdle phase =>
        exact guarded.constructed (by rw [phase]; exact StopPhase.noConfusion)
    | stopReturns phase returned =>
        exact guarded.constructed (by rw [phase]; exact StopPhase.noConfusion)
    | _ => exact guarded.constructed called
  numbered id member := by
    change id < system.prepared.length
    have grown : session.system.prepared.length ≤ system.prepared.length := by
      rcases System.prepared_effect effect with same | ⟨request, added, -⟩
      · rw [same]
      · rw [added, List.length_append]
        exact Nat.le_add_right _ _
    rcases mem_line_bus member with before | ⟨⟨origin, proxy, operation, callback, rfl⟩, rfl⟩
    · exact Nat.lt_of_lt_of_le (guarded.numbered id before) grown
    · cases effect with
      | prepare _ _ _ permitted =>
          change _ < (session.system.prepared ++ [_]).length
          rw [List.length_append, List.length_singleton]
          exact Nat.lt_succ_self _
  fetched request issued :=
    fetched_bus guarded allowed orderly.1 effect lateUses (guarded.fetched request issued)

/-! ## Steps of the session -/

/-- The counted request of the constructor is the first one. -/
theorem guarded_clock (guarded : Guarded session) (stage : session.stage = .connected) :
    Guarded { session with
      system := session.system.prepare none clockProxy .getProperties none
      attached := session.attached ++ [.request session.system.prepared.length]
      stage := .constructed } := by
  have empty : session.system.prepared = [] :=
    guarded.unprepared (by rw [stage]; exact Stage.noConfusion)
  have few : System.FewOutstanding session.system
      (.prepare .thread clockProxy .getProperties none) := by
    change session.system.outstanding.length + 1 < UInt32.size
    rw [System.outstanding, empty, List.length_nil, List.range_zero, List.filter_nil]
    decide
  have served := firstServed_effect guarded.served
    (fun called => guarded.prepared (guarded.constructed called)) few
    (.prepare clockProxy .getProperties none rfl)
  exact {
    served
    unprepared := fun building => absurd rfl building
    prepared := fun _ => by
      change 0 < (session.system.prepared ++ [_]).length
      rw [List.length_append]
      exact Nat.succ_pos _
    constructed := fun _ => rfl
    numbered := fun id member => by
      change id < (session.system.prepared ++ [_]).length
      rw [List.length_append, List.length_singleton]
      have split : .request id ∈ session.sent ++ (session.attached ++ [_]) := member
      rw [← List.append_assoc, List.mem_append, List.mem_singleton] at split
      rcases split with earlier | same
      · exact Nat.lt_succ_of_lt (guarded.numbered id earlier)
      · cases same
        exact Nat.lt_succ_self _
    fetched := fun request _ => by
      have asked : Stage.Issued session.stage request := by
        rw [stage]
        trivial
      rcases guarded.fetched request asked with listed | ⟨ahead, -⟩
      · exact .inl listed
      · refine .inr ⟨?_, fun _ => ?_⟩
        · change Ahead _ _ (session.sent ++ (session.attached ++ [_]))
          rw [← List.append_assoc]
          exact ahead.append _
        · change 0 ∈ session.system.inFlight ++ [session.system.prepared.length]
          rw [empty]
          exact List.mem_append_right _ (List.mem_singleton_self 0) }

/-- A list reply is the oldest answer, so nothing overtakes the other list. -/
theorem guarded_listReply {request : ListRequest} {system : System Properties}
    (guarded : Guarded session) (inOrder : InOrder session (.listReply request))
    (effect : System.Effect session.system (.dispatchSignal managerProxy none) system)
    (lateUses : List Resource) :
    Guarded { session with
      system
      sent := session.sent.erase (.list request)
      listed := session.listed ++ [request]
      lateUses } := by
  obtain ⟨rest, sent⟩ := List.head?_eq_some_iff.mp inOrder
  have few : System.FewOutstanding session.system (.dispatchSignal managerProxy none) := trivial
  have served := firstServed_effect guarded.served
    (fun called => guarded.prepared (guarded.constructed called)) few effect
  cases effect with
  | signal ready result =>
      exact {
        served
        unprepared := guarded.unprepared
        prepared := guarded.prepared
        constructed := guarded.constructed
        numbered := fun id member => guarded.numbered id (by
          rcases List.mem_append.mp member with waiting | behind
          · exact List.mem_append_left _ (List.mem_of_mem_erase waiting)
          · exact List.mem_append_right _ behind)
        fetched := fun other issued => by
          rcases guarded.fetched other issued with listed | ⟨ahead, waiting⟩
          · exact .inl (List.mem_append_left _ listed)
          · have taken : Ahead (.list other) (.request 0)
                (.list request :: (rest ++ session.attached)) := by
              have before := ahead
              rw [line, sent] at before
              exact before
            rcases taken.taken with same | ⟨-, behind⟩
            · cases same
              exact .inl (List.mem_append_right _ (List.mem_singleton_self _))
            · refine .inr ⟨?_, waiting⟩
              change Ahead _ _ (session.sent.erase (.list request) ++ session.attached)
              rw [sent, List.erase_cons_head]
              exact behind }

/-- The lists handled stay handled. -/
theorem listed_moves {event : SessionEvent} {next : Session Properties}
    (moves : Moves session event next) {request : ListRequest}
    (listed : request ∈ session.listed) : request ∈ next.listed := by
  cases moves with
  | listReply waiting effect =>
      change request ∈ if session.managerAlive = true then _ else session.listed
      split
      · exact List.mem_append_left _ listed
      · exact listed
  | _ => exact listed

/-- Before the reset every step keeps the barrier. -/
theorem guarded_moves {event : SessionEvent} {next : Session Properties}
    (guarded : Guarded session) (teardown : session.teardown = .notBegun)
    (orderly : Orderly session event) (moves : Moves session event next) :
    next.teardown = .notBegun → Guarded next := by
  intro still
  cases moves with
  | technologies stage =>
      refine guarded_ask guarded (by rw [stage]; exact Stage.noConfusion) Stage.noConfusion ?_
      exact fun other asked => .inl asked
  | services stage =>
      refine guarded_ask guarded (by rw [stage]; exact Stage.noConfusion) Stage.noConfusion ?_
      intro other _
      rw [stage]
      cases other with
      | technologies => exact .inr rfl
      | services => exact .inl rfl
  | connect stage attached =>
      have building : session.stage ≠ .constructed := by
        rw [stage]
        exact Stage.noConfusion
      exact {
        served := guarded.served
        unprepared := fun _ => guarded.unprepared building
        prepared := nofun
        constructed := fun called => absurd (guarded.constructed called) building
        numbered := guarded.numbered
        fetched := fun request _ => guarded.fetched request (by rw [stage]; trivial) }
  | clock stage => exact guarded_clock guarded stage
  | bus allowed effect =>
      rw [view_of_notBegun teardown] at effect
      rw [settle_of_notBegun teardown]
      exact guarded_bus guarded allowed orderly effect _
  | @send call rest attached =>
      refine guarded_of_same guarded rfl rfl ?_ rfl
      rw [line, line, attached]
      exact List.append_assoc session.sent [call] rest
  | listReply waiting effect =>
      rw [view_of_notBegun teardown] at effect
      rw [settle_of_notBegun teardown, managerAlive_of_notBegun teardown]
      exact guarded_listReply guarded orderly.1 effect _
  | resetManager => cases still
  | resetClock => cases still
  | destroyDBus => cases still
  | endDrain => cases still
  | releaseContext => cases still
  | _ => exact guarded_of_same guarded rfl rfl rfl rfl

theorem barrier_moves {event : SessionEvent} {next : Session Properties}
    (barrier : Barrier session) (orderly : Orderly session event)
    (moves : Moves session event next) : Barrier next := by
  by_cases teardown : session.teardown = .notBegun
  · have guarded := barrier.1 teardown
    refine ⟨guarded_moves guarded teardown orderly moves, fun begun request => ?_⟩
    have listed := listed_of_returned guarded (returned_of_begun moves teardown begun) request
    exact listed_moves moves listed
  · refine ⟨fun still => ?_, fun _ request => listed_moves moves (barrier.2 teardown request)⟩
    exact absurd (notBegun_of_moves moves still) teardown

/-! ## Runs -/

/-- In every run with answers in order and fewer than `2 ^ 32` counted requests
outstanding at once, both list replies have been handled for a live manager when
`stop` has returned. -/
theorem initial_lists_fetched {objPath : ProxyId → String}
    {props : (proxy : ProxyId) → Properties proxy} {events : List SessionEvent}
    (run : machine.Run Orderly (start objPath props) events session)
    (returned : session.system.stop = .returned) :
    .technologies ∈ session.listed ∧ .services ∈ session.listed := by
  have barrier : Barrier session :=
    run.invariant
      (fun _ _ _ held orderly stepped => barrier_moves held orderly (moves_of_step stepped))
      ⟨fun _ => guarded_start objPath props, fun begun => absurd rfl begun⟩
  by_cases teardown : session.teardown = .notBegun
  · have guarded := barrier.1 teardown
    exact ⟨listed_of_returned guarded returned _, listed_of_returned guarded returned _⟩
  · exact ⟨barrier.2 teardown _, barrier.2 teardown _⟩

/-- The lists are answered, then the clock, and only then does `stop` return. -/
theorem orderly_session_listed :
    ∃ session : Session fun _ => ClockProperties,
      machine.Run Orderly (start (fun _ => "/") fun _ => {})
          [.construct, .construct, .send, .send, .construct, .construct, .bus .clearRunning,
            .bus .quitWhenIdle, .send, .listReply .technologies, .bus .leaveSignal,
            .listReply .services, .bus .leaveSignal, .bus (.dispatchReply 0 none),
            .bus .enterCallBack, .bus .loopReturns, .bus .stopReturns]
          session ∧
        .technologies ∈ session.listed ∧ .services ∈ session.listed := by
  have executes : (machine.exec? Orderly (start (fun _ => "/") fun _ => ({} : ClockProperties))
      [.construct, .construct, .send, .send, .construct, .construct, .bus .clearRunning,
        .bus .quitWhenIdle, .send, .listReply .technologies, .bus .leaveSignal,
        .listReply .services, .bus .leaveSignal, .bus (.dispatchReply 0 none),
        .bus .enterCallBack, .bus .loopReturns, .bus .stopReturns]).any
      (fun session => session.system.stop = .returned) = true := by
    decide
  obtain ⟨session, run, passes⟩ := Machine.Run.exists_of_exec executes
  exact ⟨session, run, initial_lists_fetched run (of_decide_eq_true passes)⟩

/-! ## The counter wraps around -/

/-- A constructed Connman whose loop runs, with the counter at `pending` and no list
handled yet. -/
structure Unlisted (pending : UInt32) (session : Session Properties) : Prop where
  stage : session.stage = .constructed
  teardown : session.teardown = .notBegun
  listed : session.listed = []
  stop : session.system.stop = .notCalled
  activity : session.system.activity = .idle
  dbus : session.system.dbus = { pendingCalls := pending }

theorem bus_of_step {event : Event} {system : System Properties}
    (teardown : session.teardown = .notBegun) (allowed : session.allows event = true)
    (stepped : session.system.step? event = some system) :
    session.step? (.bus event) = some { session with
      system
      attached := (session.queues event).1
      sent := (session.queues event).2
      lateUses := session.useManager (session.handlesManager event) } := by
  rw [step?, bus?, if_pos allowed, view_of_notBegun teardown, stepped]
  rw [Option.map_some, settle_of_notBegun teardown]

/-- Requests that connman does not answer only move the counter. -/
theorem unlisted_replicate {pending : UInt32} (unlisted : Unlisted pending session)
    (count : Nat) :
    ∃ next, machine.Run InOrder session
        (List.replicate count (.bus (.prepare .thread clockProxy .setTime none))) next ∧
      Unlisted (pending + UInt32.ofNat count) next := by
  induction count with
  | zero =>
      refine ⟨session, .refl, ?_⟩
      rw [show UInt32.ofNat 0 = 0 from rfl, UInt32.add_zero]
      exact unlisted
  | succ count ih =>
      obtain ⟨flooded, run, kept⟩ := ih
      have allowed : flooded.allows (.prepare .thread clockProxy .setTime none) = true :=
        decide_eq_true ⟨kept.stage, kept.teardown⟩
      have stepped := bus_of_step kept.teardown allowed rfl
      rw [List.replicate_succ']
      refine ⟨_, run.tail trivial stepped, ?_⟩
      exact {
        stage := kept.stage
        teardown := kept.teardown
        listed := kept.listed
        stop := kept.stop
        activity := kept.activity
        dbus := by
          change DBusState.onAnyAsyncStart flooded.system.dbus = _
          rw [kept.dbus, UInt32.ofNat_add, ← UInt32.add_assoc]
          rfl }

/-- With the counter at zero `stop` returns at once. -/
theorem stops_of_unlisted (unlisted : Unlisted 0 session) :
    ∃ next, machine.Run InOrder session
        [.bus .clearRunning, .bus .quitWhenIdle, .bus .loopReturns, .bus .stopReturns] next ∧
      next.system.stop = .returned ∧ next.listed = [] := by
  obtain ⟨⟨dbus, proxies, prepared, inFlight, activity, completed, stop, served, invocations⟩,
    stage, attached, sent, workers, posted, teardown, listed, lateUses⟩ := session
  cases unlisted.stage
  cases unlisted.teardown
  cases unlisted.listed
  cases unlisted.stop
  cases unlisted.activity
  cases unlisted.dbus
  exact ⟨_, Machine.Run.of_exec rfl, rfl, rfl⟩

/-- With `2 ^ 32` requests outstanding the counter is zero, and `stop` returns before
any list has been handled. -/
theorem wrapped_counter_loses_lists :
    ¬ ∀ (events : List SessionEvent) (session : Session fun _ => ClockProperties),
      machine.Run InOrder (start (fun _ => "/") fun _ => {}) events session →
        session.system.stop = .returned →
          .technologies ∈ session.listed ∧ .services ∈ session.listed := by
  intro claim
  have executes : (machine.exec? InOrder (start (fun _ => "/") fun _ => ({} : ClockProperties))
      [.construct, .construct, .send, .send, .construct, .construct]).any
      (fun session => session.stage = .constructed ∧ session.teardown = .notBegun ∧
        session.listed = [] ∧ session.system.stop = .notCalled ∧ session.system.ready ∧
        session.system.dbus = { pendingCalls := 1 }) = true := by
    decide
  obtain ⟨built, construction, passes⟩ := Machine.Run.exists_of_exec executes
  obtain ⟨stage, teardown, listed, stop, ready, dbus⟩ := of_decide_eq_true passes
  have unlisted : Unlisted 1 built :=
    ⟨stage, teardown, listed, stop, (System.idle_of_ready ready).1, dbus⟩
  obtain ⟨flooded, flood, kept⟩ := unlisted_replicate unlisted (UInt32.size - 1)
  rw [show (1 : UInt32) + UInt32.ofNat (UInt32.size - 1) = 0 by decide] at kept
  obtain ⟨stopped, shutdown, returned, empty⟩ := stops_of_unlisted kept
  have handled := (claim _ _ ((construction.trans flood).trans shutdown) returned).1
  rw [empty] at handled
  cases handled

end Steps

end Session

end GConnman.Connman
