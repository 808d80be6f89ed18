import GConnman.Connman.Properties
import GConnman.DBus.RequestRuns

/-!
# The counter of pending calls

As long as the counter cannot wrap around it is the number of requests that are
prepared and not yet completed.  The request whose callback runs is still
counted, so a request that the callback prepares takes over without a gap, and
whoever makes the last decrement after `running_` has been cleared also quits the
loop.
-/

namespace GConnman.DBus

open GConnman.Foundation GConnman.Connman

namespace DBusState

variable {dbus : DBusState}

@[simp] theorem quit_pendingCalls : dbus.quit.pendingCalls = dbus.pendingCalls := by
  unfold quit
  split <;> rfl

@[simp] theorem quit_running : dbus.quit.running = dbus.running := by
  unfold quit
  split <;> rfl

theorem quit_loop_ne : dbus.quit.loop ≠ .running := by
  unfold quit
  split
  · exact LoopState.noConfusion
  · assumption

theorem onAnyAsyncStart_toNat (room : dbus.pendingCalls.toNat + 1 < UInt32.size) :
    dbus.onAnyAsyncStart.pendingCalls.toNat = dbus.pendingCalls.toNat + 1 := by
  unfold onAnyAsyncStart
  rw [UInt32.toNat_add, UInt32.toNat_one, Nat.mod_eq_of_lt room]

theorem onAnyAsyncDone_pendingCalls :
    dbus.onAnyAsyncDone.pendingCalls = dbus.pendingCalls - 1 := by
  unfold onAnyAsyncDone
  split
  · exact quit_pendingCalls
  · rfl

theorem onAnyAsyncDone_toNat (dbus : DBusState) (positive : 0 < dbus.pendingCalls.toNat) :
    dbus.onAnyAsyncDone.pendingCalls.toNat + 1 = dbus.pendingCalls.toNat := by
  have one : (1 : UInt32) ≤ dbus.pendingCalls := by
    rw [UInt32.le_iff_toNat_le, UInt32.toNat_one]
    exact positive
  rw [onAnyAsyncDone_pendingCalls, UInt32.toNat_sub_of_le _ _ one, UInt32.toNat_one]
  exact Nat.sub_add_cancel positive

theorem onAnyAsyncDone_running : dbus.onAnyAsyncDone.running = dbus.running := by
  unfold onAnyAsyncDone
  split
  · exact quit_running
  · rfl

/-- The last decrement after `running_` has been cleared quits the loop. -/
theorem onAnyAsyncDone_loop_ne (cleared : dbus.running = false)
    (last : dbus.onAnyAsyncDone.pendingCalls = 0) : dbus.onAnyAsyncDone.loop ≠ .running := by
  have one : dbus.pendingCalls = 1 := by
    rwa [onAnyAsyncDone_pendingCalls, UInt32.sub_eq_iff_eq_add, UInt32.zero_add] at last
  unfold onAnyAsyncDone
  split
  · exact quit_loop_ne
  · rename_i otherwise
    intro loop
    exact otherwise ⟨one, cleared, by
      rw [show dbus.loop = .running from loop]
      exact LoopState.noConfusion⟩

@[simp] theorem quitWhenIdle_pendingCalls :
    dbus.quitWhenIdle.pendingCalls = dbus.pendingCalls := by
  unfold quitWhenIdle
  split
  · exact quit_pendingCalls
  · rfl

@[simp] theorem quitWhenIdle_running : dbus.quitWhenIdle.running = dbus.running := by
  unfold quitWhenIdle
  split
  · exact quit_running
  · rfl

/-- The check of `stop` quits a loop that nothing will quit later. -/
theorem quitWhenIdle_loop_ne (idle : dbus.pendingCalls = 0) :
    dbus.quitWhenIdle.loop ≠ .running := by
  unfold quitWhenIdle
  split
  · exact quit_loop_ne
  · rename_i otherwise
    exact fun loop => otherwise ⟨loop, idle⟩

end DBusState

namespace System

variable {Properties : ProxyId → Type}

/-- Fewer than `2 ^ 32` requests are outstanding after the event. -/
def FewOutstanding (system : System Properties) : Event → Prop
  | .prepare _ _ _ _ => system.outstanding.length + 1 < UInt32.size
  | _ => True

instance (system : System Properties) (event : Event) : Decidable (FewOutstanding system event) :=
  match event with
  | .prepare _ _ _ _ => inferInstanceAs (Decidable (_ < _))
  | .dispatchReply _ _ | .enterCallBack | .leaveCallBack | .dispatchSignal _ _ | .leaveSignal
  | .clearRunning | .quitWhenIdle | .loopReturns | .stopReturns => .isTrue trivial

/-- The counter counts, and `stop` cannot miss that it has reached zero. -/
structure Counting (system : System Properties) : Prop where
  accounted : Accounted system
  pending : system.dbus.pendingCalls.toNat =
    system.inFlight.length + system.activity.requests.length
  flagged : system.stop ≠ .notCalled → system.dbus.running = false
  wakeUp : system.stop = .joining ∨ system.stop = .returned →
    system.dbus.pendingCalls = 0 → system.dbus.loop ≠ .running

theorem counting_start (objPath : ProxyId → String)
    (props : (proxy : ProxyId) → Properties proxy) : Counting (start objPath props) where
  accounted := accounted_start objPath props
  pending := rfl
  flagged := fun called => absurd rfl called
  wakeUp := fun called => by rcases called with phase | phase <;> cases phase

theorem Counting.outstanding {system : System Properties} (counting : Counting system) :
    system.dbus.pendingCalls.toNat = system.outstanding.length := by
  rw [counting.pending, length_outstanding counting.accounted]

/-- When nothing is pending, every prepared request has been completed. -/
theorem Counting.completed_of_idle {system : System Properties} (counting : Counting system)
    (idle : system.dbus.pendingCalls = 0) {id : RequestId} (begun : id < system.prepared.length) :
    id ∈ system.completed := by
  have nothing : system.outstanding.length = 0 := by
    rw [← counting.outstanding, idle]
    rfl
  by_contra unfinished
  have outstanding := mem_outstanding.mpr ⟨begun, unfinished⟩
  rw [List.length_eq_zero_iff.mp nothing] at outstanding
  cases outstanding

/-- The end of a completion, when the request was still counted. -/
theorem counting_complete {system : System Properties} (counting : Counting system)
    {id : RequestId} (active : system.activity.requests = [id])
    (accounted : Accounted (system.complete id)) : Counting (system.complete id) where
  accounted := accounted
  pending := by
    have one : system.dbus.pendingCalls.toNat = system.inFlight.length + 1 := by
      rw [counting.pending, active, List.length_singleton]
    have decremented := DBusState.onAnyAsyncDone_toNat system.dbus (by omega)
    change system.dbus.onAnyAsyncDone.pendingCalls.toNat = system.inFlight.length + 0
    omega
  flagged := fun called => by
    change system.dbus.onAnyAsyncDone.running = false
    rw [DBusState.onAnyAsyncDone_running]
    exact counting.flagged called
  wakeUp := fun called last => by
    refine DBusState.onAnyAsyncDone_loop_ne (counting.flagged ?_) last
    intro phase
    change system.stop = _ ∨ system.stop = _ at called
    rw [phase] at called
    rcases called with wrong | wrong <;> cases wrong

/-- A step that leaves the bus alone and keeps as many requests unfinished. -/
theorem counting_of_same {system next : System Properties} (counting : Counting system)
    (accounted : Accounted next) (dbus : next.dbus = system.dbus) (stop : next.stop = system.stop)
    (unfinished : next.inFlight.length + next.activity.requests.length =
      system.inFlight.length + system.activity.requests.length) : Counting next where
  accounted
  pending := by
    rw [dbus, unfinished]
    exact counting.pending
  flagged called := by
    rw [stop] at called
    rw [dbus]
    exact counting.flagged called
  wakeUp called zero := by
    rw [stop] at called
    rw [dbus] at zero ⊢
    exact counting.wakeUp called zero

/-! ## Chains of requests -/

/-- The request was prepared in the callback of the root, or in one nested in it. -/
inductive Descends (prepared : List Request) (root : RequestId) : RequestId → Prop where
  | root : Descends prepared root root
  | nested {id parent : RequestId} {request : Request} : Descends prepared root parent →
      prepared[id]? = some request → request.parent = some parent → Descends prepared root id

/-- Between the preparation of the root and the completion of a request that descends
from it, some request of the chain is outstanding. -/
theorem outstanding_of_descends {middle last : System Properties} (later : Later middle last)
    {root id : RequestId} (started : root < middle.prepared.length)
    (chain : Descends last.prepared root id) (unfinished : id ∉ middle.completed) :
    ∃ link, link ∈ middle.outstanding := by
  induction chain with
  | root => exact ⟨root, mem_outstanding.mpr ⟨started, unfinished⟩⟩
  | @nested id parent request above stored nested ih =>
      by_cases begun : id < middle.prepared.length
      · exact ⟨id, mem_outstanding.mpr ⟨begun, unfinished⟩⟩
      · exact ih (later.nested id request parent stored nested (Nat.le_of_not_lt begun))

/-! ## Steps -/

variable [∀ proxy, PropertyRecord (Properties proxy)]

theorem counting_effect {system next : System Properties} {event : Event}
    (counting : Counting system) (few : FewOutstanding system event)
    (effect : Effect system event next) : Counting next := by
  have accounted := accounted_effect counting.accounted effect
  cases effect with
  | prepare proxy operation callback allowed =>
      have room : system.dbus.pendingCalls.toNat + 1 < UInt32.size := by
        rw [counting.outstanding]
        exact few
      have incremented := DBusState.onAnyAsyncStart_toNat room
      exact {
        accounted
        pending := by
          change system.dbus.onAnyAsyncStart.pendingCalls.toNat =
            (system.inFlight ++ [_]).length + system.activity.requests.length
          rw [incremented, counting.pending, List.length_append, List.length_singleton]
          omega
        flagged := counting.flagged
        wakeUp := fun _ zero => by
          have empty := congrArg UInt32.toNat zero
          change system.dbus.onAnyAsyncStart.pendingCalls.toNat = 0 at empty
          omega }
  | @reply id reply request handled ready member stored result =>
      refine counting_of_same counting accounted rfl rfl ?_
      have erased := List.length_erase_of_mem member
      have positive := List.length_pos_of_mem member
      simp only [(idle_of_ready ready).1, Activity.requests, List.length_nil,
        List.length_singleton]
      omega
  | finish activity stored plain =>
      exact counting_complete counting (by rw [activity]; rfl) accounted
  | enter activity stored counted found =>
      refine counting_of_same counting accounted rfl rfl ?_
      rw [activity]
      rfl
  | @leave id request counter activity stored counted =>
      have erased : Counting { system with
          proxies := Function.update system.proxies request.proxy
            ((system.proxies request.proxy).eraseCallBack counter) } :=
        counting_of_same counting counting.accounted rfl rfl rfl
      exact counting_complete erased (congrArg Activity.requests activity) accounted
  | signal ready result =>
      refine counting_of_same counting accounted rfl rfl ?_
      rw [(idle_of_ready ready).1]
      rfl
  | leaveSignal activity =>
      refine counting_of_same counting accounted rfl rfl ?_
      rw [activity]
      rfl
  | clearRunning phase =>
      exact {
        accounted
        pending := counting.pending
        flagged := fun _ => rfl
        wakeUp := fun called => by rcases called with wrong | wrong <;> cases wrong }
  | quitWhenIdle phase =>
      exact {
        accounted
        pending := by
          rw [DBusState.quitWhenIdle_pendingCalls]
          exact counting.pending
        flagged := fun _ => by
          rw [DBusState.quitWhenIdle_running]
          exact counting.flagged (by rw [phase]; exact StopPhase.noConfusion)
        wakeUp := fun _ idle => by
          rw [DBusState.quitWhenIdle_pendingCalls] at idle
          exact DBusState.quitWhenIdle_loop_ne idle }
  | loopReturns activity quitting =>
      exact {
        accounted
        pending := counting.pending
        flagged := counting.flagged
        wakeUp := fun _ _ => LoopState.noConfusion }
  | stopReturns phase returned =>
      exact {
        accounted
        pending := counting.pending
        flagged := fun _ => counting.flagged (by rw [phase]; exact StopPhase.noConfusion)
        wakeUp := fun _ => counting.wakeUp (.inl phase) }

theorem counting_run {objPath : ProxyId → String} {props : (proxy : ProxyId) → Properties proxy}
    {events : List Event} {system : System Properties}
    (run : machine.Run FewOutstanding (start objPath props) events system) : Counting system :=
  run.invariant
    (fun _ _ _ counting few stepped => counting_effect counting few (effect_of_step stepped))
    (counting_start objPath props)

/-- The end of every completion lowers the counter by one. -/
theorem decremented_effect {system next : System Properties} {event : Event}
    (counting : Counting system) (effect : Effect system event next)
    (completes : next.completed ≠ system.completed) :
    next.dbus.pendingCalls.toNat + 1 = system.dbus.pendingCalls.toNat := by
  have positive : ∀ {id}, system.activity.requests = [id] →
      0 < system.dbus.pendingCalls.toNat := by
    intro id active
    rw [counting.pending, active]
    exact Nat.succ_pos _
  cases effect with
  | finish activity stored plain =>
      exact DBusState.onAnyAsyncDone_toNat system.dbus
        (positive (congrArg Activity.requests activity))
  | leave activity stored counted =>
      exact DBusState.onAnyAsyncDone_toNat system.dbus
        (positive (congrArg Activity.requests activity))
  | _ => exact absurd rfl completes

/-- In every state of every run with fewer than `2 ^ 32` requests outstanding, the
counter is the number of requests prepared and not yet completed; a completion
lowers it by one; it is not zero between the preparation of a request and the
completion of a request that its callback or a nested one has started; and once
`stop` is past its check, a counter of zero means that a quit has been requested. -/
theorem pending_calls_exact {objPath : ProxyId → String}
    {props : (proxy : ProxyId) → Properties proxy} {events : List Event}
    {system : System Properties}
    (run : machine.Run FewOutstanding (start objPath props) events system) :
    system.dbus.pendingCalls.toNat = system.outstanding.length ∧
      (∀ event next, machine.step? system event = some next → next.completed ≠ system.completed →
        next.dbus.pendingCalls.toNat + 1 = system.dbus.pendingCalls.toNat) ∧
      (∀ root < system.prepared.length, ∀ later last id,
        machine.Run FewOutstanding system later last → Descends last.prepared root id →
          id ∉ last.completed → system.dbus.pendingCalls ≠ 0) ∧
      (system.stop = .joining ∨ system.stop = .returned → system.dbus.pendingCalls = 0 →
        system.dbus.loop ≠ .running) := by
  have counting := counting_run run
  refine ⟨counting.outstanding, ?_, ?_, counting.wakeUp⟩
  · intro event next stepped completes
    exact decremented_effect counting (effect_of_step stepped) completes
  · intro root started later last id onward chain unfinished zero
    have between := later_run counting.accounted onward
    obtain ⟨link, outstanding⟩ := outstanding_of_descends between started chain
      fun done => unfinished (between.completed.subset done)
    have positive := List.length_pos_of_mem outstanding
    rw [← counting.outstanding, zero] at positive
    exact Nat.lt_irrefl 0 positive

/-- A callback prepares a second request while `stop` joins: the counter stays
positive until that request is completed, and the last completion quits the loop. -/
theorem nested_request_counted :
    ∃ system : System fun _ => ClockProperties,
      machine.Run FewOutstanding (start (fun _ => "/") fun _ => {})
          [.prepare .thread 0 .setTime (some 1), .clearRunning, .quitWhenIdle,
            .dispatchReply 0 (some (.tuple [])), .enterCallBack,
            .prepare .callback 0 .setTimeZone none, .leaveCallBack] system ∧
        system.dbus.pendingCalls.toNat = 1 := by
  have executes : (machine.exec? FewOutstanding
      (start (fun _ => "/") fun _ => ({} : ClockProperties))
      [.prepare .thread 0 .setTime (some 1), .clearRunning, .quitWhenIdle,
        .dispatchReply 0 (some (.tuple [])), .enterCallBack,
        .prepare .callback 0 .setTimeZone none, .leaveCallBack]).any
      (fun system => system.outstanding.length = 1) = true := by
    decide
  obtain ⟨system, run, passes⟩ := Machine.Run.exists_of_exec executes
  have counted := (pending_calls_exact run).1
  exact ⟨system, run, counted.trans (of_decide_eq_true passes)⟩

end System

end GConnman.DBus
