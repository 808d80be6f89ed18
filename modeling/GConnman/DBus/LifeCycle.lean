import GConnman.DBus.PendingCalls
import GConnman.Foundation.Progress

/-!
# Starting and stopping the bus

One thread starts and stops the bus, any number of times and in any order.  `start`
waits until a source that it has queued runs in the new loop, and `stop` lets the loop
finish when nothing is pending.  Requests are prepared at any time, and they are
completed whenever a loop dispatches.

The counter outlives a loop.  A request left over from before that is completed while
`start` still waits looks like the last one of a shutdown, and quits the new loop.
Apart from that a started bus has a running loop, a stopped one has none, no thread is
ever overwritten and no quit is lost.
-/

namespace GConnman.DBus

open GConnman.Foundation

/-- The loop thread: what `glib_thread_` names, and how far that thread has come. -/
inductive LoopThread where
  /-- `glib_thread_` is not joinable. -/
  | absent
  | spawned
  /-- `on_loop_started` has been queued. -/
  | invoked
  /-- `loop_` is set, and does not run yet. -/
  | created
  | running
  | quitting
  /-- `g_main_loop_run` has returned. -/
  | leaving
  | exited
  deriving DecidableEq, Repr

/-- `loop_` is not null. -/
def LoopThread.hasLoop : LoopThread → Bool
  | created | running | quitting | leaving => true
  | absent | spawned | invoked | exited => false

/-- The loop dispatches; one that has been quit finishes its iteration. -/
def LoopThread.dispatches : LoopThread → Bool
  | running | quitting => true
  | _ => false

/-- The places of the loop thread while the bus is being stopped. -/
def LoopThread.ends : LoopThread → Bool
  | absent | running | quitting | leaving | exited => true
  | spawned | invoked | created => false

/-- The places between `g_main_context_invoke` and the first dispatch. -/
def LoopThread.begins : LoopThread → Bool
  | invoked | created | running => true
  | _ => false

/-- The loop has been quit. -/
def LoopThread.over : LoopThread → Bool
  | quitting | leaving | exited => true
  | _ => false

/-- How the loop looks to the completions and to `stop`. -/
def LoopThread.loop : LoopThread → LoopState
  | running => .running
  | created | quitting | leaving => .quitting
  | absent | spawned | invoked | exited => .returned

/-- The thread that starts and stops the bus. -/
inductive Controller where
  | idle
  /-- `start` has read `running_` as false. -/
  | starting
  /-- `start` waits for `running_`. -/
  | waiting
  /-- `stop` has cleared `running_`. -/
  | stopping
  /-- `stop` joins the thread. -/
  | joining
  deriving DecidableEq, Repr

/-- What the controller has still to do, with the thread it may spawn. -/
def Controller.left : Controller → Nat
  | idle => 0
  | starting => 11
  | waiting => 1
  | stopping => 2
  | joining => 1

/-- What the loop thread has still to do. -/
def LoopThread.left : LoopThread → Nat
  | absent => 0
  | spawned => 8
  | invoked => 6
  | created => 5
  | running => 4
  | quitting => 3
  | leaving => 2
  | exited => 1

/-- `outstanding` only records. -/
structure LifeState where
  running : Bool := false
  pendingCalls : UInt32 := 0
  thread : LoopThread := .absent
  /-- The sources of `on_loop_started` in the context. -/
  queued : Nat := 0
  controller : Controller := .idle
  outstanding : Nat := 0
  deriving DecidableEq, Repr

inductive LifeEvent where
  | callStart | spawn | startReturns
  | callStop | quitWhenIdle | join
  | invoke | createLoop | runLoop | onLoopStarted | loopReturns | exit
  | prepare | complete
  deriving DecidableEq, Repr

/-- The event belongs to a call in progress, to the loop thread or to connman. -/
def LifeEvent.own : LifeEvent → Bool
  | callStart | callStop | prepare => false
  | _ => true

namespace LifeState

variable (state : LifeState)

/-- `g_main_loop_quit`; a loop that does not run yet forgets it. -/
def quit : LifeState :=
  if state.thread = .running then { state with thread := .quitting } else state

def onAnyAsyncStart : LifeState := { state with pendingCalls := state.pendingCalls + 1 }

def onAnyAsyncDone : LifeState :=
  let decremented := { state with pendingCalls := state.pendingCalls - 1 }
  if state.pendingCalls = 1 ∧ state.running = false ∧ state.thread.hasLoop then decremented.quit
  else decremented

/-- The part of `stop` between the critical section and the join. -/
def checkIdle : LifeState :=
  if state.thread = .running ∧ state.pendingCalls = 0 then state.quit else state

/-- The loop thread goes from one place to the next. -/
def advance (before after : LoopThread) : Option LifeState :=
  if state.thread = before then some { state with thread := after } else none

def step? : LifeEvent → Option LifeState
  | .callStart =>
      if state.controller = .idle then
        some { state with controller := if state.running then .waiting else .starting }
      else none
  | .spawn =>
      -- the assignment to a joinable thread would end the program
      if state.controller = .starting ∧ state.thread = .absent then
        some { state with thread := .spawned, controller := .waiting }
      else none
  | .startReturns =>
      if state.controller = .waiting ∧ state.running then some { state with controller := .idle }
      else none
  | .callStop =>
      if state.controller = .idle then
        some { state with running := false, controller := .stopping }
      else none
  | .quitWhenIdle =>
      if state.controller = .stopping then some { state.checkIdle with controller := .joining }
      else none
  | .join =>
      if state.controller = .joining ∧ (state.thread = .absent ∨ state.thread = .exited) then
        some { state with thread := .absent, controller := .idle }
      else none
  | .invoke => { state with queued := state.queued + 1 }.advance .spawned .invoked
  | .createLoop => state.advance .invoked .created
  | .runLoop => state.advance .created .running
  | .onLoopStarted =>
      if state.thread.dispatches ∧ 0 < state.queued then
        some { state with running := true, queued := state.queued - 1 }
      else none
  | .loopReturns => state.advance .quitting .leaving
  | .exit => state.advance .leaving .exited
  | .prepare => some { state.onAnyAsyncStart with outstanding := state.outstanding + 1 }
  | .complete =>
      if state.thread.dispatches ∧ 0 < state.outstanding then
        some { state.onAnyAsyncDone with outstanding := state.outstanding - 1 }
      else none

def machine : Machine LifeState LifeEvent := ⟨step?⟩

/-! ## The bus of the requests -/

/-- The members of `DBus` that requests and the shutdown see. -/
def dbus : DBusState := ⟨state.running, state.pendingCalls, state.thread.loop⟩

theorem dbus_quit : state.quit.dbus = state.dbus.quit := by
  unfold quit dbus DBusState.quit
  cases thread : state.thread <;> simp [LoopThread.loop, thread]

theorem dbus_onAnyAsyncStart : state.onAnyAsyncStart.dbus = state.dbus.onAnyAsyncStart := rfl

theorem dbus_onAnyAsyncDone : state.onAnyAsyncDone.dbus = state.dbus.onAnyAsyncDone := by
  have loop : state.thread.hasLoop = true ↔ state.dbus.loop ≠ .returned := by
    cases thread : state.thread <;> simp [dbus, LoopThread.hasLoop, LoopThread.loop, thread]
  unfold onAnyAsyncDone DBusState.onAnyAsyncDone
  by_cases last : state.pendingCalls = 1 ∧ state.running = false ∧ state.thread.hasLoop
  · rw [if_pos last, if_pos ⟨last.1, last.2.1, loop.mp last.2.2⟩]
    exact dbus_quit _
  · rw [if_neg last, if_neg fun same => last ⟨same.1, same.2.1, loop.mpr same.2.2⟩]
    rfl

theorem dbus_checkIdle : state.checkIdle.dbus = state.dbus.quitWhenIdle := by
  have loop : state.thread = .running ↔ state.dbus.loop = .running := by
    cases thread : state.thread <;> simp [dbus, LoopThread.loop, thread]
  unfold checkIdle DBusState.quitWhenIdle
  by_cases idle : state.thread = .running ∧ state.pendingCalls = 0
  · rw [if_pos idle, if_pos ⟨loop.mp idle.1, idle.2⟩]
    exact dbus_quit _
  · rw [if_neg idle, if_neg fun same => idle ⟨loop.mpr same.1, same.2⟩]

/-! ## What each event does -/

variable {state} {next : LifeState} {event : LifeEvent}

/-- The events that only move the loop thread. -/
inductive Advances : LifeEvent → LoopThread → LoopThread → Prop where
  | createLoop : Advances .createLoop .invoked .created
  | runLoop : Advances .runLoop .created .running
  | loopReturns : Advances .loopReturns .quitting .leaving
  | exit : Advances .exit .leaving .exited

/-- The effect of an event. -/
inductive Effect (state : LifeState) : LifeEvent → LifeState → Prop where
  | callStart (phase : state.controller = .idle) :
      Effect state .callStart
        { state with controller := if state.running then .waiting else .starting }
  | spawn (phase : state.controller = .starting) (free : state.thread = .absent) :
      Effect state .spawn { state with thread := .spawned, controller := .waiting }
  | startReturns (phase : state.controller = .waiting) (started : state.running = true) :
      Effect state .startReturns { state with controller := .idle }
  | callStop (phase : state.controller = .idle) :
      Effect state .callStop { state with running := false, controller := .stopping }
  | quitWhenIdle (phase : state.controller = .stopping) :
      Effect state .quitWhenIdle { state.checkIdle with controller := .joining }
  | join (phase : state.controller = .joining)
      (ended : state.thread = .absent ∨ state.thread = .exited) :
      Effect state .join { state with thread := .absent, controller := .idle }
  | invoke (place : state.thread = .spawned) :
      Effect state .invoke { state with queued := state.queued + 1, thread := .invoked }
  | advance {event : LifeEvent} {before after : LoopThread} (place : state.thread = before)
      (goes : Advances event before after) :
      Effect state event { state with thread := after }
  | onLoopStarted (dispatches : state.thread.dispatches = true) (waits : 0 < state.queued) :
      Effect state .onLoopStarted { state with running := true, queued := state.queued - 1 }
  | prepare :
      Effect state .prepare { state.onAnyAsyncStart with outstanding := state.outstanding + 1 }
  | complete (dispatches : state.thread.dispatches = true) (waits : 0 < state.outstanding) :
      Effect state .complete { state.onAnyAsyncDone with outstanding := state.outstanding - 1 }

theorem advance_eq_some {before after : LoopThread}
    (stepped : state.advance before after = some next) :
    state.thread = before ∧ { state with thread := after } = next := by
  unfold advance at stepped
  split at stepped
  · rename_i place
    exact ⟨place, Option.some.inj stepped⟩
  · cases stepped

theorem effect_of_step (stepped : state.step? event = some next) : Effect state event next := by
  cases event with
  | callStart =>
      obtain ⟨phase, ⟨⟩⟩ := Option.ite_none_right_eq_some.mp stepped
      exact .callStart phase
  | spawn =>
      obtain ⟨⟨phase, free⟩, ⟨⟩⟩ := Option.ite_none_right_eq_some.mp stepped
      exact .spawn phase free
  | startReturns =>
      obtain ⟨⟨phase, started⟩, ⟨⟩⟩ := Option.ite_none_right_eq_some.mp stepped
      exact .startReturns phase started
  | callStop =>
      obtain ⟨phase, ⟨⟩⟩ := Option.ite_none_right_eq_some.mp stepped
      exact .callStop phase
  | quitWhenIdle =>
      obtain ⟨phase, ⟨⟩⟩ := Option.ite_none_right_eq_some.mp stepped
      exact .quitWhenIdle phase
  | join =>
      obtain ⟨⟨phase, ended⟩, ⟨⟩⟩ := Option.ite_none_right_eq_some.mp stepped
      exact .join phase ended
  | invoke =>
      obtain ⟨place, rfl⟩ := advance_eq_some stepped
      exact .invoke place
  | createLoop =>
      obtain ⟨place, rfl⟩ := advance_eq_some stepped
      exact .advance place .createLoop
  | runLoop =>
      obtain ⟨place, rfl⟩ := advance_eq_some stepped
      exact .advance place .runLoop
  | onLoopStarted =>
      obtain ⟨⟨dispatches, waits⟩, ⟨⟩⟩ := Option.ite_none_right_eq_some.mp stepped
      exact .onLoopStarted dispatches waits
  | loopReturns =>
      obtain ⟨place, rfl⟩ := advance_eq_some stepped
      exact .advance place .loopReturns
  | exit =>
      obtain ⟨place, rfl⟩ := advance_eq_some stepped
      exact .advance place .exit
  | prepare =>
      cases stepped
      exact .prepare
  | complete =>
      obtain ⟨⟨dispatches, waits⟩, ⟨⟩⟩ := Option.ite_none_right_eq_some.mp stepped
      exact .complete dispatches waits

/-! ## Started and stopped -/

/-- What belongs to the place of the controller and to `running_`. -/
def Consistent (thread : LoopThread) (queued : Nat) : Controller → Bool → Prop
  | .idle, true | .waiting, true => thread = .running ∧ queued = 0
  | .idle, false | .starting, false => thread = .absent ∧ queued = 0
  | .waiting, false => thread = .spawned ∧ queued = 0 ∨ thread.begins = true ∧ queued = 1
  | .stopping, false | .joining, false => thread.ends = true ∧ queued = 0
  | .starting, true | .stopping, true | .joining, true => False

/-- The bus is started when it says so and otherwise stopped, or on the way, and a quit
that `stop` waits for is not lost. -/
structure Sound (state : LifeState) : Prop where
  pending : state.pendingCalls.toNat = state.outstanding
  consistent : Consistent state.thread state.queued state.controller state.running
  wakeUp : state.controller = .joining → state.pendingCalls = 0 → state.thread ≠ .running

theorem sound_start : Sound {} where
  pending := rfl
  consistent := ⟨rfl, rfl⟩
  wakeUp := by decide

/-- Fewer than `2 ^ 32` requests are outstanding. -/
def FewOutstanding (state : LifeState) : LifeEvent → Prop
  | .prepare => state.outstanding + 1 < UInt32.size
  | _ => True

/-- No request is completed with the counter at one while `start` waits for the loop. -/
def Timely (state : LifeState) : LifeEvent → Prop
  | .complete => state.controller = .waiting → state.running = false → state.pendingCalls ≠ 1
  | _ => True

instance (state : LifeState) : (event : LifeEvent) → Decidable (FewOutstanding state event)
  | .prepare => inferInstanceAs (Decidable (_ < _))
  | .callStart | .spawn | .startReturns | .callStop | .quitWhenIdle | .join | .invoke
  | .createLoop | .runLoop | .onLoopStarted | .loopReturns | .exit | .complete => .isTrue trivial

instance (state : LifeState) : (event : LifeEvent) → Decidable (Timely state event)
  | .complete => inferInstanceAs (Decidable (_ → _ → _))
  | .callStart | .spawn | .startReturns | .callStop | .quitWhenIdle | .join | .invoke
  | .createLoop | .runLoop | .onLoopStarted | .loopReturns | .exit | .prepare => .isTrue trivial

/-! ### What becomes of the loop -/

theorem quit_eq : state.quit =
    { state with thread := if state.thread = .running then .quitting else state.thread } := by
  unfold quit
  split
  · rfl
  · rfl

/-- A completion quits a running loop when it is the last one of a stopped bus. -/
theorem onAnyAsyncDone_eq : state.onAnyAsyncDone =
    { state with
      pendingCalls := state.pendingCalls - 1
      thread :=
        if state.pendingCalls = 1 ∧ state.running = false ∧ state.thread = .running then .quitting
        else state.thread } := by
  unfold onAnyAsyncDone
  split
  · rename_i last
    rw [quit_eq]
    simp [last.1, last.2.1]
  · rename_i otherwise
    rw [if_neg fun quits => otherwise ⟨quits.1, quits.2.1, by rw [quits.2.2]; rfl⟩]

theorem checkIdle_eq : state.checkIdle =
    { state with
      thread :=
        if state.thread = .running ∧ state.pendingCalls = 0 then .quitting else state.thread } := by
  unfold checkIdle
  split
  · rename_i idle
    rw [quit_eq, if_pos idle.1]
  · rfl

theorem consistent_callStart {thread : LoopThread} {queued : Nat} {running : Bool}
    (before : Consistent thread queued .idle running) :
    Consistent thread queued (if running then .waiting else .starting) running := by
  cases running with
  | true => exact before
  | false => exact before

theorem consistent_callStop {thread : LoopThread} {queued : Nat} {running : Bool}
    (before : Consistent thread queued .idle running) :
    Consistent thread queued .stopping false := by
  cases running with
  | true =>
      obtain ⟨rfl, rfl⟩ := before
      exact ⟨rfl, rfl⟩
  | false =>
      obtain ⟨rfl, rfl⟩ := before
      exact ⟨rfl, rfl⟩

/-- A thread that has been spawned is the one that `start` waits for. -/
theorem waiting_of_spawned {thread : LoopThread} {queued : Nat} {controller : Controller}
    {running : Bool} (consistent : Consistent thread queued controller running)
    (place : thread = .spawned) : controller = .waiting ∧ running = false ∧ queued = 0 := by
  subst place
  cases controller <;> cases running <;>
    simp_all [Consistent, LoopThread.begins, LoopThread.ends]

/-- A source of `on_loop_started` is the one that `start` waits for. -/
theorem waiting_of_queued {thread : LoopThread} {queued : Nat} {controller : Controller}
    {running : Bool} (consistent : Consistent thread queued controller running)
    (waits : 0 < queued) :
    controller = .waiting ∧ running = false ∧ thread.begins = true ∧ queued = 1 := by
  cases controller <;> cases running <;> simp_all [Consistent]
  rcases consistent with ⟨-, none⟩ | ⟨begins, one⟩
  · simp [none] at waits
  · exact ⟨begins, one⟩

/-- The loop moves on: while the bus is started towards running, and else to its end. -/
theorem consistent_advance {event : LifeEvent} {before after : LoopThread} {queued : Nat}
    {controller : Controller} {running : Bool}
    (consistent : Consistent before queued controller running)
    (goes : Advances event before after) :
    Consistent after queued controller running := by
  cases goes <;> cases controller <;> cases running <;>
    simp_all [Consistent, LoopThread.begins, LoopThread.ends]

/-- A running loop that is quit is one that is being stopped. -/
theorem consistent_quit {queued : Nat} {controller : Controller}
    (consistent : Consistent .running queued controller false)
    (elsewhere : controller ≠ .waiting) : Consistent .quitting queued controller false := by
  cases controller <;> simp_all [Consistent, LoopThread.ends]

theorem consistent_checkIdle {thread : LoopThread} {queued : Nat} {running : Bool} {idle : Prop}
    [Decidable idle] (consistent : Consistent thread queued .stopping running) :
    Consistent (if idle then .quitting else thread) queued .joining running := by
  cases running with
  | true => cases consistent
  | false =>
      refine ⟨?_, consistent.2⟩
      split
      · rfl
      · exact consistent.1

theorem consistent_join {thread : LoopThread} {queued : Nat} {running : Bool}
    (consistent : Consistent thread queued .joining running) :
    Consistent .absent queued .idle running := by
  cases running with
  | true => cases consistent
  | false => exact ⟨rfl, consistent.2⟩

/-- The bus stays started, stopped or on the way, however many requests are outstanding. -/
theorem consistent_step
    (consistent : Consistent state.thread state.queued state.controller state.running)
    (timely : Timely state event) (stepped : state.step? event = some next) :
    Consistent next.thread next.queued next.controller next.running := by
  cases effect_of_step stepped with
  | callStart phase =>
      rw [phase] at consistent
      exact consistent_callStart consistent
  | spawn phase free =>
      rw [phase] at consistent
      cases running : state.running with
      | true =>
          rw [running] at consistent
          cases consistent
      | false =>
          rw [running] at consistent
          exact .inl ⟨rfl, consistent.2⟩
  | startReturns phase started =>
      change Consistent state.thread state.queued .idle state.running
      rw [phase, started] at consistent
      rw [started]
      exact consistent
  | callStop phase =>
      rw [phase] at consistent
      exact consistent_callStop consistent
  | quitWhenIdle phase =>
      rw [phase] at consistent
      rw [checkIdle_eq]
      exact consistent_checkIdle consistent
  | join phase ended =>
      rw [phase] at consistent
      exact consistent_join consistent
  | invoke place =>
      obtain ⟨waiting, stopped, none⟩ := waiting_of_spawned consistent place
      change Consistent .invoked (state.queued + 1) state.controller state.running
      rw [waiting, stopped, none]
      exact .inr ⟨rfl, rfl⟩
  | advance place goes => exact consistent_advance (place ▸ consistent) goes
  | onLoopStarted dispatches waits =>
      obtain ⟨waiting, -, begins, one⟩ := waiting_of_queued consistent waits
      change Consistent state.thread (state.queued - 1) state.controller true
      rw [waiting, one]
      refine ⟨?_, rfl⟩
      cases thread : state.thread <;> simp_all [LoopThread.begins, LoopThread.dispatches]
  | prepare => exact consistent
  | complete dispatches waits =>
      rw [onAnyAsyncDone_eq]
      change Consistent (if _ then _ else _) state.queued state.controller state.running
      split
      · rename_i last
        obtain ⟨one, stopped, runs⟩ := last
        rw [stopped, runs] at consistent
        rw [stopped]
        exact consistent_quit consistent fun waiting => timely waiting stopped one
      · exact consistent

theorem pending_step (pending : state.pendingCalls.toNat = state.outstanding)
    (few : FewOutstanding state event) (stepped : state.step? event = some next) :
    next.pendingCalls.toNat = next.outstanding := by
  cases effect_of_step stepped with
  | prepare =>
      have room : state.dbus.pendingCalls.toNat + 1 < UInt32.size := by
        change state.pendingCalls.toNat + 1 < _
        rw [pending]
        exact few
      change state.dbus.onAnyAsyncStart.pendingCalls.toNat = state.outstanding + 1
      rw [← pending]
      exact DBusState.onAnyAsyncStart_toNat room
  | complete dispatches waits =>
      have positive : 0 < state.dbus.pendingCalls.toNat := by
        change 0 < state.pendingCalls.toNat
        rw [pending]
        exact waits
      have counted : (state.pendingCalls - 1).toNat + 1 = state.pendingCalls.toNat := by
        have one := DBusState.onAnyAsyncDone_toNat state.dbus positive
        rwa [DBusState.onAnyAsyncDone_pendingCalls] at one
      rw [onAnyAsyncDone_eq]
      change (state.pendingCalls - 1).toNat = state.outstanding - 1
      omega
  | quitWhenIdle phase =>
      rw [checkIdle_eq]
      exact pending
  | _ => exact pending

/-- `stop` does not join a running loop when nothing is pending. -/
theorem Sound.wakeUp_step (sound : Sound state)
    (counted : next.pendingCalls.toNat = next.outstanding)
    (stepped : state.step? event = some next) :
    next.controller = .joining → next.pendingCalls = 0 → next.thread ≠ .running := by
  obtain ⟨-, consistent, wakeUp⟩ := sound
  -- a bus that is being stopped is not marked as running
  have stopped : state.controller = .joining → state.running = false := by
    intro joins
    rw [joins] at consistent
    cases running : state.running with
    | true =>
        rw [running] at consistent
        cases consistent
    | false => rfl
  intro joins
  cases effect_of_step stepped with
  | callStart phase =>
      change (if state.running then Controller.waiting else .starting) = .joining at joins
      split at joins <;> cases joins
  | spawn phase free => cases joins
  | startReturns phase started => cases joins
  | callStop phase => cases joins
  | join phase ended => cases joins
  | quitWhenIdle phase =>
      rw [checkIdle_eq]
      intro idle
      change (if state.thread = .running ∧ state.pendingCalls = 0 then LoopThread.quitting
        else state.thread) ≠ .running
      split
      · exact LoopThread.noConfusion
      · rename_i otherwise
        exact fun runs => otherwise ⟨runs, idle⟩
  | invoke place => exact fun _ => LoopThread.noConfusion
  | @advance _ before after place goes =>
      -- only a thread that starts gets to run
      intro _ runs
      change state.controller = .joining at joins
      change after = .running at runs
      subst runs
      rw [joins, stopped joins, place] at consistent
      cases goes
      cases consistent.1
  | onLoopStarted dispatches waits => exact wakeUp joins
  | prepare =>
      intro zero
      rw [zero] at counted
      cases counted
  | complete dispatches waits =>
      rw [onAnyAsyncDone_eq] at joins ⊢
      intro zero
      change state.pendingCalls - 1 = 0 at zero
      change (if _ then LoopThread.quitting else state.thread) ≠ .running
      have one : state.pendingCalls = 1 := by
        rwa [UInt32.sub_eq_iff_eq_add, UInt32.zero_add] at zero
      split
      · exact LoopThread.noConfusion
      · rename_i otherwise
        exact fun runs => otherwise ⟨one, stopped joins, runs⟩

theorem Sound.step (sound : Sound state) (few : FewOutstanding state event)
    (timely : Timely state event) (stepped : state.step? event = some next) : Sound next := by
  have pending := pending_step sound.pending few stepped
  exact ⟨pending, consistent_step sound.consistent timely stepped,
    sound.wakeUp_step pending stepped⟩

/-! ## Every call returns -/

/-- Nobody calls `start`, `stop` or an operation: the calls in progress go on, and the
requests made so far are answered. -/
def Proceeds (state : LifeState) (event : LifeEvent) : Prop :=
  event.own = true ∧ Timely state event

/-- What there is still to do. -/
def left (state : LifeState) : Nat :=
  state.controller.left + state.thread.left + state.queued + state.outstanding

theorem few_of_own (own : event.own = true) : FewOutstanding state event := by
  cases event with
  | prepare => cases own
  | _ => trivial

theorem left_lt (proceeds : Proceeds state event) (stepped : state.step? event = some next) :
    next.left < state.left := by
  obtain ⟨own, -⟩ := proceeds
  unfold left
  cases effect_of_step stepped with
  | callStart phase => cases own
  | callStop phase => cases own
  | prepare => cases own
  | spawn phase free => simp [phase, free, Controller.left, LoopThread.left]
  | startReturns phase started => simp [phase, Controller.left]
  | quitWhenIdle phase =>
      rw [checkIdle_eq]
      change Controller.left .joining + LoopThread.left (if _ then _ else _) + state.queued +
        state.outstanding < _
      rw [phase]
      split
      · rename_i idle
        simp [idle.1, Controller.left, LoopThread.left]
      · simp [Controller.left]
  | join phase ended =>
      rw [phase]
      simp only [Controller.left, LoopThread.left]
      omega
  | invoke place =>
      simp only [place, LoopThread.left]
      omega
  | advance place goes =>
      cases goes <;> simp [place, LoopThread.left]
  | onLoopStarted dispatches waits =>
      simp only
      omega
  | complete dispatches waits =>
      rw [onAnyAsyncDone_eq]
      have lower : LoopThread.left (if state.pendingCalls = 1 ∧ state.running = false ∧
          state.thread = .running then .quitting else state.thread) ≤ state.thread.left := by
        split
        · rename_i last
          rw [last.2.2]
          decide
        · exact Nat.le_refl _
      simp only
      omega

/-- While a call of `start` or `stop` is in progress, it or the loop thread can go on. -/
theorem exists_step (sound : Sound state) (calls : state.controller ≠ .idle) :
    ∃ event next, Proceeds state event ∧ state.step? event = some next := by
  obtain ⟨pending, consistent, wakeUp⟩ := sound
  cases phase : state.controller with
  | idle => exact absurd phase calls
  | starting =>
      rw [phase] at consistent
      have free : state.thread = .absent := by
        cases running : state.running with
        | true => simp [running, Consistent] at consistent
        | false =>
            rw [running] at consistent
            exact consistent.1
      exact ⟨.spawn, _, ⟨rfl, trivial⟩, if_pos ⟨phase, free⟩⟩
  | waiting =>
      rw [phase] at consistent
      cases running : state.running with
      | true => exact ⟨.startReturns, _, ⟨rfl, trivial⟩, if_pos ⟨phase, running⟩⟩
      | false =>
          rw [running] at consistent
          rcases consistent with ⟨place, -⟩ | ⟨begins, one⟩
          · exact ⟨.invoke, _, ⟨rfl, trivial⟩, if_pos place⟩
          · cases place : state.thread with
            | invoked => exact ⟨.createLoop, _, ⟨rfl, trivial⟩, if_pos place⟩
            | created => exact ⟨.runLoop, _, ⟨rfl, trivial⟩, if_pos place⟩
            | running =>
                have dispatches : state.thread.dispatches = true := by rw [place]; rfl
                have waits : 0 < state.queued := by omega
                exact ⟨.onLoopStarted, _, ⟨rfl, trivial⟩, if_pos ⟨dispatches, waits⟩⟩
            | absent | spawned | quitting | leaving | exited =>
                rw [place] at begins
                cases begins
  | stopping => exact ⟨.quitWhenIdle, _, ⟨rfl, trivial⟩, if_pos phase⟩
  | joining =>
      rw [phase] at consistent
      cases running : state.running with
      | true => simp [running, Consistent] at consistent
      | false =>
          rw [running] at consistent
          cases place : state.thread with
          | absent => exact ⟨.join, _, ⟨rfl, trivial⟩, if_pos ⟨phase, .inl place⟩⟩
          | exited => exact ⟨.join, _, ⟨rfl, trivial⟩, if_pos ⟨phase, .inr place⟩⟩
          | quitting => exact ⟨.loopReturns, _, ⟨rfl, trivial⟩, if_pos place⟩
          | leaving => exact ⟨.exit, _, ⟨rfl, trivial⟩, if_pos place⟩
          | running =>
              -- `stop` has found requests outstanding
              have dispatches : state.thread.dispatches = true := by rw [place]; rfl
              have waits : 0 < state.outstanding := by
                rw [← pending, Nat.pos_iff_ne_zero]
                intro none
                exact wakeUp phase (UInt32.toNat_inj.mp none) place
              have timely : Timely state .complete := by
                intro starts
                rw [phase] at starts
                cases starts
              exact ⟨.complete, _, ⟨rfl, timely⟩, if_pos ⟨dispatches, waits⟩⟩
          | spawned | invoked | created =>
              rw [place] at consistent
              cases consistent.1

theorem progress :
    machine.Progress Proceeds Sound (fun state => state.controller = .idle) left where
  preserved sound proceeds stepped := sound.step (few_of_own proceeds.1) proceeds.2 stepped
  lowers _ proceeds stepped := left_lt proceeds stepped
  enabled sound calls := exists_step sound calls

/-! ## Runs -/

/-- The runs in which fewer than `2 ^ 32` requests are outstanding and none is completed
as the last one while `start` waits for the loop. -/
def Admitted (state : LifeState) (event : LifeEvent) : Prop :=
  FewOutstanding state event ∧ Timely state event

instance (state : LifeState) (event : LifeEvent) : Decidable (Admitted state event) :=
  inferInstanceAs (Decidable (_ ∧ _))

theorem sound_of_run {events : List LifeEvent}
    (run : machine.Run Admitted {} events state) : Sound state :=
  run.invariant (fun _ _ _ sound admitted stepped => sound.step admitted.1 admitted.2 stepped)
    sound_start

/-- Whenever no call is in progress the bus has a running loop if it is started and no
thread if it is stopped.  `start` never assigns over a thread, a quit that `stop` waits
for is never lost, and once nobody makes another call or request the call in progress
returns, in whatever order the rest happens. -/
theorem calls_return {events : List LifeEvent} (run : machine.Run Admitted {} events state) :
    (state.controller = .idle →
      state.thread = if state.running then .running else .absent) ∧
    (state.controller = .starting → state.thread = .absent) ∧
    (state.controller = .joining → state.pendingCalls = 0 → state.thread ≠ .running) ∧
    machine.Attains Proceeds (fun state => state.controller = .idle) state := by
  have sound := sound_of_run run
  have consistent := sound.consistent
  refine ⟨fun idle => ?_, fun starting => ?_, sound.wakeUp, progress.attains sound⟩
  · rw [idle] at consistent
    cases running : state.running with
    | true =>
        rw [running] at consistent
        exact consistent.1
    | false =>
        rw [running] at consistent
        exact consistent.1
  · rw [starting] at consistent
    cases running : state.running with
    | true => simp [running, Consistent] at consistent
    | false =>
        rw [running] at consistent
        exact consistent.1

/-- A bus that is stopped with a request outstanding, and started again with one that was
prepared in between. -/
theorem calls_return_restarted :
    ∃ state : LifeState, state.outstanding = 1 ∧ state.thread = .running := by
  have executes : (machine.exec? Admitted {}
      [.callStart, .spawn, .invoke, .createLoop, .runLoop, .onLoopStarted, .startReturns,
        .prepare, .callStop, .quitWhenIdle, .complete, .prepare, .loopReturns, .exit, .join,
        .callStart, .spawn, .invoke, .createLoop, .runLoop, .onLoopStarted, .startReturns]).any
      (fun state => state.controller = .idle ∧ state.running = true ∧
        state.outstanding = 1) = true := by
    decide
  obtain ⟨state, run, passes⟩ := Machine.Run.exists_of_exec executes
  obtain ⟨idle, running, one⟩ := of_decide_eq_true passes
  have started := (calls_return run).1 idle
  rw [running] at started
  exact ⟨state, one, started⟩

/-! ## A request left over -/

/-- The loop that `start` waits for, or has returned with, has not been quit. -/
def Alive (state : LifeState) : Prop :=
  state.controller = .waiting ∨ state.controller = .idle → state.thread.over = false

theorem alive_of_consistent
    (consistent : Consistent state.thread state.queued state.controller state.running) :
    state.Alive := by
  rintro (phase | phase)
  · rw [phase] at consistent
    cases place : state.thread <;> cases running : state.running <;>
      simp_all [Consistent, LoopThread.over, LoopThread.begins]
  · rw [phase] at consistent
    cases running : state.running with
    | true =>
        rw [running] at consistent
        rw [consistent.1]
        rfl
    | false =>
        rw [running] at consistent
        rw [consistent.1]
        rfl

/-- A request that finds the counter at one, completed while `start` waits, quits the
loop. -/
theorem not_alive_of_untimely
    (consistent : Consistent state.thread state.queued state.controller state.running)
    (late : ¬ Timely state event) (stepped : state.step? event = some next) : ¬ next.Alive := by
  cases effect_of_step stepped with
  | complete dispatches waits =>
      simp only [Timely, not_forall, not_not] at late
      obtain ⟨waiting, stopped, one⟩ := late
      rw [waiting, stopped] at consistent
      have runs : state.thread = .running := by
        cases place : state.thread <;>
          simp_all [Consistent, LoopThread.begins, LoopThread.dispatches]
      rw [onAnyAsyncDone_eq, if_pos ⟨one, stopped, runs⟩]
      intro alive
      cases alive (.inl waiting)
  | advance place goes =>
      cases goes <;> exact (late trivial).elim
  | _ => exact (late trivial).elim

theorem consistent_of_run {events : List LifeEvent} (run : machine.Run Timely {} events state) :
    Consistent state.thread state.queued state.controller state.running := by
  induction run with
  | refl => exact ⟨rfl, rfl⟩
  | tail before timely stepped ih => exact consistent_step ih timely stepped

/-- The loops of a run stay alive until they are stopped exactly when no request is
completed with the counter at one while `start` waits. -/
theorem timely_iff_alive (events : List LifeEvent) (state : LifeState) :
    machine.Run Timely {} events state ↔
      machine.Run (fun state event => ∀ next, state.step? event = some next → next.Alive)
        {} events state := by
  constructor
  · intro run
    induction run with
    | refl => exact .refl
    | tail before timely stepped ih =>
        refine ih.tail (fun next goes => ?_) stepped
        exact alive_of_consistent (consistent_step (consistent_of_run before) timely goes)
  · intro run
    induction run with
    | refl => exact .refl
    | tail before alive stepped ih =>
        refine ih.tail ?_ stepped
        by_contra late
        exact not_alive_of_untimely (consistent_of_run ih) late stepped (alive _ stepped)

/-- A request is prepared after the loop has been quit, and completed by the loop of the
next start: that `start` returns, and its loop is gone. -/
example : (machine.exec? FewOutstanding {}
    [.callStart, .spawn, .invoke, .createLoop, .runLoop, .onLoopStarted, .startReturns,
      .callStop, .quitWhenIdle, .prepare, .loopReturns, .exit, .join, .callStart, .spawn,
      .invoke, .createLoop, .runLoop, .complete, .onLoopStarted, .startReturns, .loopReturns,
      .exit]).any
    (fun state => state.controller = .idle ∧ state.running = true ∧
      state.thread = .exited) = true := by
  decide

end LifeState

end GConnman.DBus
