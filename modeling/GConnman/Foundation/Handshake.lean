import Mathlib.Logic.Function.Basic
import GConnman.Foundation.TransitionSystem

/-!
# Handshakes with a loop thread

A thread posts a closure over a record of its own to a loop thread and waits on the
record's condition variable until the record says that the closure has run; then it
destroys the record.  The loop thread runs the closure, sets the flag under the
record's mutex, unlocks the mutex and notifies the condition variable.  A wait can
end without a notification.

The flag is set only by the loop thread while it holds the mutex, so a waiter that
has seen it set knows that the closure has run and that the mutex was released.  It
does not know that the notification is done.
-/

namespace GConnman.Foundation

/-- Who holds the mutex of a record. -/
inductive MutexHolder where
  | waiter
  | loop
  deriving DecidableEq, Repr

/-- Where the thread that owns the record is. -/
inductive WaiterStage where
  | posted
  /-- It holds the mutex and has not looked at the flag. -/
  | checking
  /-- It waits, without the mutex. -/
  | blocked
  /-- The wait has ended, and it has no mutex yet. -/
  | woken
  /-- It holds the mutex and has seen the flag set. -/
  | satisfied
  | left
  | destroyed
  deriving DecidableEq, Repr

/-- Where the loop thread is with the record. -/
inductive LoopStage where
  | attached
  | ran
  | locked
  | marked
  | unlocked
  | notified
  deriving DecidableEq, Repr

/-- The waiter holds the mutex. -/
def WaiterStage.holds : WaiterStage → Bool
  | checking | satisfied => true
  | _ => false

/-- The waiter has seen the flag set. -/
def WaiterStage.passed : WaiterStage → Bool
  | satisfied | left | destroyed => true
  | _ => false

/-- A notification ends the wait of a thread that waits. -/
def WaiterStage.wakeUp : WaiterStage → WaiterStage
  | blocked => woken
  | stage => stage

@[simp] theorem WaiterStage.wakeUp_holds (stage : WaiterStage) :
    stage.wakeUp.holds = stage.holds := by cases stage <;> rfl

@[simp] theorem WaiterStage.wakeUp_passed (stage : WaiterStage) :
    stage.wakeUp.passed = stage.passed := by cases stage <;> rfl

/-- The loop thread holds the mutex. -/
def LoopStage.holds : LoopStage → Bool
  | locked | marked => true
  | _ => false

/-- The flag is set. -/
def LoopStage.marks : LoopStage → Bool
  | marked | unlocked | notified => true
  | _ => false

/-- The loop thread is between the closure and the notification. -/
def LoopStage.inHand : LoopStage → Bool
  | ran | locked | marked | unlocked => true
  | _ => false

theorem LoopStage.released_of_marks {stage : LoopStage} (marks : stage.marks = true)
    (free : stage.holds = false) : stage = .unlocked ∨ stage = .notified := by
  cases stage with
  | attached => cases marks
  | ran => cases marks
  | locked => cases marks
  | marked => cases free
  | unlocked => exact .inl rfl
  | notified => exact .inr rfl

/-! ## One record -/

/-- A record, with the closure posted over it and the result the closure left. -/
structure Handshake (Closure Result : Type*) where
  closure : Closure
  result : Option Result := none
  holder : Option MutexHolder := none
  done : Bool := false
  waiter : WaiterStage := .posted
  loop : LoopStage := .attached

inductive WaiterStep where
  | lock
  /-- Look at the flag, and wait if it is not set. -/
  | check
  /-- The wait ends without a notification. -/
  | wake
  | unlock
  | destroy
  deriving DecidableEq, Repr

inductive LoopStep where
  | lock
  | mark
  | unlock
  | notify
  deriving DecidableEq, Repr

namespace Handshake

variable {Closure Result : Type*} (record : Handshake Closure Result)

def wait? : WaiterStep → Option (Handshake Closure Result)
  | .lock =>
      if (record.waiter = .posted ∨ record.waiter = .woken) ∧ record.holder = none then
        some { record with holder := some .waiter, waiter := .checking }
      else none
  | .check =>
      if record.waiter = .checking then
        if record.done then some { record with waiter := .satisfied }
        else some { record with holder := none, waiter := .blocked }
      else none
  | .wake => if record.waiter = .blocked then some { record with waiter := .woken } else none
  | .unlock =>
      if record.waiter = .satisfied then some { record with holder := none, waiter := .left }
      else none
  | .destroy => if record.waiter = .left then some { record with waiter := .destroyed } else none

def complete? : LoopStep → Option (Handshake Closure Result)
  | .lock =>
      if record.loop = .ran ∧ record.holder = none then
        some { record with holder := some .loop, loop := .locked }
      else none
  | .mark =>
      if record.loop = .locked then some { record with done := true, loop := .marked } else none
  | .unlock =>
      if record.loop = .marked then some { record with holder := none, loop := .unlocked }
      else none
  | .notify =>
      if record.loop = .unlocked then
        some { record with waiter := record.waiter.wakeUp, loop := .notified }
      else none

/-- What the two sides know of each other: the flag and the mutex are where the
stages say, and a waiter that has seen the flag set left the mutex to no one else. -/
structure Consistent : Prop where
  ran : record.loop ≠ .attached → record.result.isSome
  loopHolds : record.loop.holds = true ↔ record.holder = some .loop
  waiterHolds : record.waiter.holds = true ↔ record.holder = some .waiter
  marked : record.done = true → record.loop.marks = true
  passed : record.waiter.passed = true → record.loop = .unlocked ∨ record.loop = .notified

variable {record} {next : Handshake Closure Result}

theorem consistent_start (closure : Closure) :
    Consistent ({ closure } : Handshake Closure Result) where
  ran attached := absurd rfl attached
  loopHolds := ⟨nofun, nofun⟩
  waiterHolds := ⟨nofun, nofun⟩
  marked := nofun
  passed := nofun

theorem Consistent.closureRan (consistent : record.Consistent)
    (passed : record.waiter.passed = true) : record.result.isSome := by
  rcases consistent.passed passed with unlocked | notified
  · exact consistent.ran (by rw [unlocked]; nofun)
  · exact consistent.ran (by rw [notified]; nofun)

/-- The two sides do not hold the mutex at once. -/
theorem Consistent.loop_free (consistent : record.Consistent)
    (holds : record.waiter.holds = true) : record.loop.holds = false := by
  have held := consistent.waiterHolds.mp holds
  apply Bool.eq_false_iff.mpr
  intro both
  rw [consistent.loopHolds.mp both] at held
  cases held

/-- What a step of the waiter does. -/
inductive Waited (record : Handshake Closure Result) :
    WaiterStep → Handshake Closure Result → Prop where
  | lock (ready : record.waiter = .posted ∨ record.waiter = .woken) (free : record.holder = none) :
      Waited record .lock { record with holder := some .waiter, waiter := .checking }
  | see (checking : record.waiter = .checking) (set : record.done = true) :
      Waited record .check { record with waiter := .satisfied }
  | sleep (checking : record.waiter = .checking) (clear : record.done = false) :
      Waited record .check { record with holder := none, waiter := .blocked }
  | wake (blocked : record.waiter = .blocked) : Waited record .wake { record with waiter := .woken }
  | unlock (satisfied : record.waiter = .satisfied) :
      Waited record .unlock { record with holder := none, waiter := .left }
  | destroy (gone : record.waiter = .left) :
      Waited record .destroy { record with waiter := .destroyed }

theorem waited_of_step {step : WaiterStep} (taken : record.wait? step = some next) :
    Waited record step next := by
  cases step <;> simp only [wait?] at taken <;> split at taken <;> try cases taken
  case lock.isTrue enabled => exact .lock enabled.1 enabled.2
  case check.isTrue checking =>
    split at taken <;> cases taken
    · rename_i set
      exact .see checking set
    · rename_i clear
      exact .sleep checking (Bool.eq_false_iff.mpr clear)
  case wake.isTrue blocked => exact .wake blocked
  case unlock.isTrue satisfied => exact .unlock satisfied
  case destroy.isTrue gone => exact .destroy gone

/-- What a step of the loop thread does. -/
inductive Completed (record : Handshake Closure Result) :
    LoopStep → Handshake Closure Result → Prop where
  | lock (ran : record.loop = .ran) (free : record.holder = none) :
      Completed record .lock { record with holder := some .loop, loop := .locked }
  | mark (locked : record.loop = .locked) :
      Completed record .mark { record with done := true, loop := .marked }
  | unlock (marked : record.loop = .marked) :
      Completed record .unlock { record with holder := none, loop := .unlocked }
  | notify (unlocked : record.loop = .unlocked) :
      Completed record .notify { record with waiter := record.waiter.wakeUp, loop := .notified }

theorem completed_of_step {step : LoopStep} (taken : record.complete? step = some next) :
    Completed record step next := by
  cases step <;> simp only [complete?] at taken <;> split at taken <;> cases taken
  case lock.isTrue enabled => exact .lock enabled.1 enabled.2
  case mark.isTrue locked => exact .mark locked
  case unlock.isTrue marked => exact .unlock marked
  case notify.isTrue unlocked => exact .notify unlocked

theorem Waited.loop_eq {step : WaiterStep} (effect : Waited record step next) :
    next.loop = record.loop := by
  cases effect <;> rfl

theorem Waited.closure_eq {step : WaiterStep} (effect : Waited record step next) :
    next.closure = record.closure := by
  cases effect <;> rfl

theorem Waited.result_eq {step : WaiterStep} (effect : Waited record step next) :
    next.result = record.result := by
  cases effect <;> rfl

theorem Completed.closure_eq {step : LoopStep} (effect : Completed record step next) :
    next.closure = record.closure := by
  cases effect <;> rfl

theorem Completed.result_eq {step : LoopStep} (effect : Completed record step next) :
    next.result = record.result := by
  cases effect <;> rfl

theorem Waited.destroys {step : WaiterStep} (effect : Waited record step next)
    (destroyed : next.waiter = .destroyed) : step = .destroy ∧ record.waiter = .left := by
  cases effect <;> try cases destroyed
  case destroy.refl gone => exact ⟨rfl, gone⟩

theorem Completed.inHand {step : LoopStep} (effect : Completed record step next) :
    record.loop.inHand = true := by
  cases effect with
  | lock ran _ => rw [ran]; rfl
  | mark locked => rw [locked]; rfl
  | unlock marked => rw [marked]; rfl
  | notify unlocked => rw [unlocked]; rfl

theorem Completed.not_notify {step : LoopStep} (effect : Completed record step next)
    (inHand : next.loop.inHand = true) : step ≠ .notify := by
  rintro rfl
  cases effect
  cases inHand

theorem Completed.destroyed {step : LoopStep} (effect : Completed record step next)
    (destroyed : next.waiter = .destroyed) : record.waiter = .destroyed := by
  cases effect with
  | lock => exact destroyed
  | mark => exact destroyed
  | unlock => exact destroyed
  | notify unlocked =>
      revert destroyed
      change record.waiter.wakeUp = .destroyed → _
      cases record.waiter <;> first | exact id | nofun

/-- What the waiter does keeps both sides consistent. -/
theorem Consistent.waited (consistent : record.Consistent) {step : WaiterStep}
    (effect : Waited record step next) : next.Consistent := by
  have ⟨ran, loopHolds, waiterHolds, marked, passed⟩ := consistent
  cases effect with
  | lock ready free =>
      rw [free] at loopHolds
      exact ⟨ran, ⟨fun holds => absurd (loopHolds.mp holds) nofun, nofun⟩,
        ⟨fun _ => rfl, fun _ => rfl⟩, marked, nofun⟩
  | see checking set =>
      have holds : record.waiter.holds = true := by rw [checking]; rfl
      exact ⟨ran, loopHolds, ⟨fun _ => waiterHolds.mp holds, fun _ => rfl⟩, marked,
        fun _ => LoopStage.released_of_marks (marked set) (consistent.loop_free holds)⟩
  | sleep checking clear =>
      have free := consistent.loop_free (by rw [checking]; rfl)
      exact ⟨ran, ⟨fun holds => absurd holds (Bool.eq_false_iff.mp free), nofun⟩, ⟨nofun, nofun⟩,
        marked, nofun⟩
  | wake blocked =>
      rw [blocked] at waiterHolds
      exact ⟨ran, loopHolds, ⟨nofun, fun held => absurd (waiterHolds.mpr held) nofun⟩, marked,
        nofun⟩
  | unlock satisfied =>
      have free := consistent.loop_free (by rw [satisfied]; rfl)
      exact ⟨ran, ⟨fun holds => absurd holds (Bool.eq_false_iff.mp free), nofun⟩, ⟨nofun, nofun⟩,
        marked, fun _ => passed (by rw [satisfied]; rfl)⟩
  | destroy gone =>
      rw [gone] at waiterHolds passed
      exact ⟨ran, loopHolds, ⟨nofun, fun held => absurd (waiterHolds.mpr held) nofun⟩, marked,
        fun _ => passed rfl⟩

theorem Consistent.dispatched (consistent : record.Consistent)
    (attached : record.loop = .attached) (result : Result) :
    Consistent { record with result := some result, loop := .ran } := by
  obtain ⟨_, loopHolds, waiterHolds, marked, passed⟩ := consistent
  rw [attached] at loopHolds marked passed
  exact ⟨fun _ => rfl, ⟨nofun, fun held => absurd (loopHolds.mpr held) nofun⟩, waiterHolds,
    fun set => absurd (marked set) nofun, fun seen => by cases passed seen <;> contradiction⟩

/-- So does what the loop thread does. -/
theorem Consistent.completed (consistent : record.Consistent) {step : LoopStep}
    (effect : Completed record step next) : next.Consistent := by
  obtain ⟨ran, loopHolds, waiterHolds, marked, passed⟩ := consistent
  cases effect with
  | lock atRan free =>
      rw [free] at waiterHolds
      rw [atRan] at ran marked passed
      exact ⟨fun _ => ran nofun, ⟨fun _ => rfl, fun _ => rfl⟩,
        ⟨fun holds => absurd (waiterHolds.mp holds) nofun, nofun⟩,
        fun set => absurd (marked set) nofun, fun seen => by cases passed seen <;> contradiction⟩
  | mark locked =>
      rw [locked] at ran loopHolds passed
      exact ⟨fun _ => ran nofun, ⟨fun _ => loopHolds.mp rfl, fun _ => rfl⟩, waiterHolds,
        fun _ => rfl, fun seen => by cases passed seen <;> contradiction⟩
  | unlock atMarked =>
      rw [atMarked] at ran loopHolds
      rw [loopHolds.mp rfl] at waiterHolds
      exact ⟨fun _ => ran nofun, ⟨nofun, nofun⟩,
        ⟨fun holds => absurd (waiterHolds.mp holds) nofun, nofun⟩, fun _ => rfl, fun _ => .inl rfl⟩
  | notify unlocked =>
      rw [unlocked] at ran loopHolds
      refine ⟨fun _ => ran nofun, ⟨nofun, fun held => absurd (loopHolds.mpr held) nofun⟩, ?_,
        fun _ => rfl, fun _ => .inr rfl⟩
      rw [WaiterStage.wakeUp_holds]
      exact waiterHolds

end Handshake

end GConnman.Foundation
