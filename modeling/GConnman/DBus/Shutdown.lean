import GConnman.DBus.PendingCalls

/-!
# What a shutdown leaves behind

The loop is only quit when the counter is zero, and then nothing is outstanding.
A callback of a signal or of a list reply is not counted, so it can still run when
the loop is quit, and a request that it prepares then is never completed.  Without
such a request the shutdown completes every request exactly once.
-/

namespace GConnman.DBus

open GConnman.Foundation GConnman.Connman

namespace DBusState

variable {dbus : DBusState}

theorem onAnyAsyncDone_loop_ne_of_ne (quitting : dbus.loop ≠ .running) :
    dbus.onAnyAsyncDone.loop ≠ .running := by
  unfold onAnyAsyncDone
  split
  · exact quit_loop_ne
  · exact quitting

/-- A decrement quits a running loop only when it is the last one. -/
theorem onAnyAsyncDone_last (before : dbus.loop = .running)
    (quitting : dbus.onAnyAsyncDone.loop ≠ .running) : dbus.onAnyAsyncDone.pendingCalls = 0 := by
  unfold onAnyAsyncDone at quitting ⊢
  split
  · rename_i last
    rw [quit_pendingCalls, last.1]
    rfl
  · rename_i otherwise
    rw [if_neg otherwise] at quitting
    exact absurd before quitting

theorem quitWhenIdle_loop_ne_of_ne (quitting : dbus.loop ≠ .running) :
    dbus.quitWhenIdle.loop ≠ .running := by
  unfold quitWhenIdle
  split
  · exact quit_loop_ne
  · exact quitting

/-- The check of `stop` quits a running loop only when nothing is pending. -/
theorem quitWhenIdle_idle (before : dbus.loop = .running)
    (quitting : dbus.quitWhenIdle.loop ≠ .running) : dbus.pendingCalls = 0 := by
  unfold quitWhenIdle at quitting
  split at quitting
  · rename_i idle
    exact idle.2
  · exact absurd before quitting

end DBusState

namespace System

variable {Properties : ProxyId → Type}

/-- Threads prepare requests before `stop` is called, and a loop that has been quit
dispatches no further message. -/
def Assumed (system : System Properties) : Event → Prop
  | .prepare .thread _ _ _ => system.stop = .notCalled
  | .dispatchReply _ _ | .dispatchSignal _ _ => system.dbus.loop = .running
  | _ => True

/-- A request is prepared before the loop is quit. -/
def InTime (system : System Properties) : Event → Prop
  | .prepare _ _ _ _ => system.dbus.loop = .running
  | _ => True

instance (system : System Properties) (event : Event) : Decidable (Assumed system event) :=
  match event with
  | .prepare .thread _ _ _ => inferInstanceAs (Decidable (_ = _))
  | .dispatchReply _ _ | .dispatchSignal _ _ => inferInstanceAs (Decidable (_ = _))
  | .prepare .callback _ _ _ | .enterCallBack | .leaveCallBack | .leaveSignal
  | .clearRunning | .quitWhenIdle | .loopReturns | .stopReturns => .isTrue trivial

instance (system : System Properties) (event : Event) : Decidable (InTime system event) :=
  match event with
  | .prepare _ _ _ _ => inferInstanceAs (Decidable (_ = _))
  | .dispatchReply _ _ | .dispatchSignal _ _ | .enterCallBack | .leaveCallBack | .leaveSignal
  | .clearRunning | .quitWhenIdle | .loopReturns | .stopReturns => .isTrue trivial

/-- Every prepared request has been completed exactly once. -/
def AllCompleted (system : System Properties) : Prop :=
  ∀ id < system.prepared.length, system.completed.count id = 1

/-! ## Nothing is pending after a quit -/

/-- The counter is exact, and zero once the loop has been quit. -/
structure Settled (system : System Properties) : Prop where
  counting : Counting system
  drained : system.dbus.loop ≠ .running → system.dbus.pendingCalls = 0
  joined : system.stop = .returned → system.dbus.loop ≠ .running

theorem settled_start (objPath : ProxyId → String)
    (props : (proxy : ProxyId) → Properties proxy) : Settled (start objPath props) where
  counting := counting_start objPath props
  drained quitting := absurd rfl quitting
  joined returned := by cases returned

/-- The end of a completion, which is still counted before it. -/
theorem settled_complete {system next : System Properties} {id : RequestId}
    (settled : Settled system) (active : system.activity.requests = [id])
    (counting : Counting next) (decremented : next.dbus = system.dbus.onAnyAsyncDone)
    (stop : next.stop = system.stop) : Settled next where
  counting
  drained quitting := by
    rw [decremented] at quitting ⊢
    refine DBusState.onAnyAsyncDone_last ?_ quitting
    by_contra before
    have pending := settled.counting.pending
    rw [settled.drained before, active] at pending
    cases pending
  joined returned := by
    rw [stop] at returned
    rw [decremented]
    exact DBusState.onAnyAsyncDone_loop_ne_of_ne (settled.joined returned)

theorem allCompleted_of_settled {system : System Properties} (settled : Settled system)
    (returned : system.stop = .returned) : AllCompleted system := by
  intro id begun
  have done := settled.counting.completed_of_idle (settled.drained (settled.joined returned)) begun
  have nodup := (Census.nodup settled.counting.accounted).of_append_right.of_append_right
  exact List.count_eq_one_of_mem nodup done

/-! ## A late request is lost -/

/-- A request waits for a reply that the loop will not dispatch. -/
def Lost (system : System Properties) : Prop :=
  system.dbus.loop ≠ .running ∧ ∃ id, id ∈ system.inFlight

theorem not_allCompleted_of_lost {system : System Properties} (accounted : Accounted system)
    (lost : Lost system) : ¬ AllCompleted system := by
  intro all
  obtain ⟨-, id, waiting⟩ := lost
  have begun := (Census.mem_iff accounted).mp (List.mem_append.mpr (.inl waiting))
  have elsewhere := Census.disjoint accounted waiting
  have unfinished : id ∉ system.completed :=
    fun done => elsewhere (List.mem_append.mpr (.inr done))
  have none := all id begun
  rw [List.count_eq_zero_of_not_mem unfinished] at none
  cases none

/-! ## Steps -/

variable [∀ proxy, PropertyRecord (Properties proxy)]

theorem settled_effect {system next : System Properties} {event : Event}
    (settled : Settled system) (few : FewOutstanding system event)
    (inTime : InTime system event) (effect : Effect system event next) : Settled next := by
  have counting := counting_effect settled.counting few effect
  cases effect with
  | prepare proxy operation callback allowed =>
      exact {
        counting
        drained := fun quitting => absurd inTime quitting
        joined := settled.joined }
  | finish activity stored plain =>
      exact settled_complete settled (congrArg Activity.requests activity) counting rfl rfl
  | leave activity stored counted =>
      exact settled_complete settled (congrArg Activity.requests activity) counting rfl rfl
  | quitWhenIdle phase =>
      exact {
        counting
        drained := fun quitting => by
          rw [DBusState.quitWhenIdle_pendingCalls]
          by_cases before : system.dbus.loop = .running
          · exact DBusState.quitWhenIdle_idle before quitting
          · exact settled.drained before
        joined := fun returned => by cases returned }
  | loopReturns activity quitting =>
      exact {
        counting
        drained := fun _ => settled.drained (by rw [quitting]; exact LoopState.noConfusion)
        joined := fun _ => LoopState.noConfusion }
  | stopReturns phase returned =>
      exact {
        counting
        drained := settled.drained
        joined := fun _ => by
          change system.dbus.loop ≠ .running
          rw [returned]
          exact LoopState.noConfusion }
  | clearRunning phase =>
      exact { counting, drained := settled.drained, joined := fun returned => by cases returned }
  | _ => exact { counting, drained := settled.drained, joined := settled.joined }

theorem lost_effect {system next : System Properties} {event : Event} (lost : Lost system)
    (assumed : Assumed system event) (effect : Effect system event next) : Lost next := by
  obtain ⟨quitting, id, waiting⟩ := lost
  cases effect with
  | prepare proxy operation callback allowed =>
      exact ⟨quitting, id, List.mem_append.mpr (.inl waiting)⟩
  | reply ready member stored result => exact absurd assumed quitting
  | finish activity stored plain =>
      exact ⟨DBusState.onAnyAsyncDone_loop_ne_of_ne quitting, id, waiting⟩
  | leave activity stored counted =>
      exact ⟨DBusState.onAnyAsyncDone_loop_ne_of_ne quitting, id, waiting⟩
  | quitWhenIdle phase => exact ⟨DBusState.quitWhenIdle_loop_ne_of_ne quitting, id, waiting⟩
  | loopReturns activity before => exact ⟨LoopState.noConfusion, id, waiting⟩
  | _ => exact ⟨quitting, id, waiting⟩

/-- The request of a late preparation is lost. -/
theorem lost_of_late {system next : System Properties} {event : Event}
    (late : ¬ InTime system event) (effect : Effect system event next) : Lost next := by
  cases effect with
  | prepare proxy operation callback allowed =>
      exact ⟨late, system.prepared.length,
        List.mem_append.mpr (.inr (List.mem_singleton_self _))⟩
  | _ => exact absurd trivial late

/-! ## Runs -/

/-- The runs of the environment, with fewer than `2 ^ 32` requests outstanding. -/
def Admitted (system : System Properties) (event : Event) : Prop :=
  Assumed system event ∧ FewOutstanding system event

instance (system : System Properties) (event : Event) : Decidable (Admitted system event) :=
  inferInstanceAs (Decidable (_ ∧ _))

theorem settled_run {objPath : ProxyId → String} {props : (proxy : ProxyId) → Properties proxy}
    {events : List Event} {system : System Properties}
    (run : machine.Run (fun system event => Admitted system event ∧ InTime system event)
      (start objPath props) events system) : Settled system :=
  run.invariant
    (fun _ _ _ settled guarded stepped =>
      settled_effect settled guarded.1.2 guarded.2 (effect_of_step stepped))
    (settled_start objPath props)

/-- A run either prepares every request in time or loses one for good. -/
theorem inTime_or_lost {objPath : ProxyId → String}
    {props : (proxy : ProxyId) → Properties proxy} {events : List Event}
    {system : System Properties}
    (run : machine.Run Admitted (start objPath props) events system) :
    machine.Run (fun system event => Admitted system event ∧ InTime system event)
      (start objPath props) events system ∨ Lost system := by
  induction run with
  | refl => exact .inl .refl
  | @tail events middle finish event before admitted stepped ih =>
      have effect := effect_of_step stepped
      rcases ih with timely | lost
      · by_cases inTime : InTime middle event
        · exact .inl (timely.tail ⟨admitted, inTime⟩ stepped)
        · exact .inr (lost_of_late inTime effect)
      · exact .inr (lost_effect lost admitted.1 effect)

/-- When `stop` has returned, every prepared request has been completed exactly once
if and only if no request was prepared after the loop had been quit. -/
theorem shutdown_completes_iff {objPath : ProxyId → String}
    {props : (proxy : ProxyId) → Properties proxy} {events : List Event}
    {system : System Properties}
    (run : machine.Run Admitted (start objPath props) events system)
    (returned : system.stop = .returned) :
    system.AllCompleted ↔
      machine.Run (fun system event => Admitted system event ∧ InTime system event)
        (start objPath props) events system := by
  constructor
  · intro all
    refine (inTime_or_lost run).resolve_right fun lost => ?_
    exact not_allCompleted_of_lost (accounted_run (accounted_start objPath props) run) lost all
  · exact fun timely => allCompleted_of_settled (settled_run timely) returned

/-- A request that is answered while `stop` waits is completed before it returns. -/
theorem pending_request_completed :
    ∃ system : System fun _ => ClockProperties,
      machine.Run Admitted (start (fun _ => "/") fun _ => {})
          [.prepare .thread 0 .setTime none, .clearRunning, .quitWhenIdle,
            .dispatchReply 0 (some (.tuple [])), .enterCallBack, .loopReturns, .stopReturns]
          system ∧
        system.stop = .returned ∧ system.AllCompleted := by
  have executes : (machine.exec? (fun system event => Admitted system event ∧ InTime system event)
      (start (fun _ => "/") fun _ => ({} : ClockProperties))
      [.prepare .thread 0 .setTime none, .clearRunning, .quitWhenIdle,
        .dispatchReply 0 (some (.tuple [])), .enterCallBack, .loopReturns, .stopReturns]).any
      (fun system => system.stop = .returned) = true := by
    decide
  obtain ⟨system, timely, passes⟩ := Machine.Run.exists_of_exec executes
  have returned := of_decide_eq_true passes
  have run := timely.mono fun _ _ guarded => guarded.1
  exact ⟨system, run, returned, (shutdown_completes_iff run returned).mpr timely⟩

/-- A property-changed callback that runs when `stop` quits the loop prepares a
request that is never completed. -/
theorem late_request_lost :
    ¬ ∀ (events : List Event) (system : System fun _ => ClockProperties),
      machine.Run Assumed (start (fun _ => "/") fun _ => {}) events system →
        system.stop = .returned → system.AllCompleted := by
  intro claim
  have executes : (machine.exec? Assumed (start (fun _ => "/") fun _ => ({} : ClockProperties))
      [.dispatchSignal 0 (some ("Timezone", .string "UTC")), .clearRunning, .quitWhenIdle,
        .prepare .callback 0 .setTime none, .leaveSignal, .loopReturns, .stopReturns]).any
      (fun system => system.stop = .returned ∧ system.prepared.length = 1 ∧
        system.completed = []) = true := by
    decide
  obtain ⟨system, run, passes⟩ := Machine.Run.exists_of_exec executes
  obtain ⟨returned, prepared, completed⟩ := of_decide_eq_true passes
  have all := claim _ system run returned 0 (by rw [prepared]; exact Nat.one_pos)
  rw [completed] at all
  cases all

end System

end GConnman.DBus
