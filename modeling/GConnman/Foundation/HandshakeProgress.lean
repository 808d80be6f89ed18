import Mathlib.Algebra.Order.BigOperators.Group.Finset
import GConnman.Foundation.HandshakeRuns
import GConnman.Foundation.Progress

/-!
# Every handshake ends

The flag is set before the notification, and a waiter that finds it clear waits before
it gives the mutex back.  So no notification is lost: whatever order the threads go on
in, every closure is run and every waiter gets away, with no more steps than are left
to do.
-/

namespace GConnman.Foundation

def LoopStage.ahead : LoopStage → Nat
  | attached => 5
  | ran => 4
  | locked => 3
  | marked => 2
  | unlocked => 1
  | notified => 0

def WaiterStage.ahead : WaiterStage → Nat
  | posted => 6
  | checking => 5
  | blocked => 4
  | woken => 6
  | satisfied => 3
  | left => 2
  | destroyed => 1

namespace Handshake

variable {Closure Result : Type*} {record next : Handshake Closure Result}

/-- The steps left; a notification outweighs what it makes the waiter do again. -/
def ahead (record : Handshake Closure Result) : Nat := 3 * record.loop.ahead + record.waiter.ahead

theorem wakeUp_ahead_le (stage : WaiterStage) : stage.wakeUp.ahead ≤ stage.ahead + 2 := by
  cases stage <;> decide

theorem Waited.ahead_lt {step : WaiterStep} (effect : Waited record step next)
    (notified : step ≠ .wake) : next.ahead < record.ahead := by
  unfold ahead
  cases effect with
  | lock ready free =>
      rcases ready with posted | woken
      · rw [posted]
        exact Nat.add_lt_add_left (show 5 < 6 by decide) _
      · rw [woken]
        exact Nat.add_lt_add_left (show 5 < 6 by decide) _
  | see checking set =>
      rw [checking]
      exact Nat.add_lt_add_left (show 3 < 5 by decide) _
  | sleep checking clear =>
      rw [checking]
      exact Nat.add_lt_add_left (show 4 < 5 by decide) _
  | wake blocked => exact absurd rfl notified
  | unlock satisfied =>
      rw [satisfied]
      exact Nat.add_lt_add_left (show 2 < 3 by decide) _
  | destroy gone =>
      rw [gone]
      exact Nat.add_lt_add_left (show 1 < 2 by decide) _

theorem Completed.ahead_lt {step : LoopStep} (effect : Completed record step next) :
    next.ahead < record.ahead := by
  unfold ahead
  cases effect with
  | lock ran free =>
      rw [ran]
      exact Nat.add_lt_add_right (show 3 * 3 < 3 * 4 by decide) _
  | mark locked =>
      rw [locked]
      exact Nat.add_lt_add_right (show 3 * 2 < 3 * 3 by decide) _
  | unlock marked =>
      rw [marked]
      exact Nat.add_lt_add_right (show 3 * 1 < 3 * 2 by decide) _
  | notify unlocked =>
      have woken := wakeUp_ahead_le record.waiter
      rw [unlocked]
      change 3 * 0 + record.waiter.wakeUp.ahead < 3 * 1 + record.waiter.ahead
      omega

/-- No notification is lost. -/
structure Live (record : Handshake Closure Result) : Prop where
  signalled : record.loop.marks = true → record.done = true
  awake : record.waiter = .blocked → record.loop ≠ .notified

theorem live_start (closure : Closure) : Live ({ closure } : Handshake Closure Result) where
  signalled := nofun
  awake := nofun

theorem Live.waited (live : record.Live) {step : WaiterStep} (effect : Waited record step next) :
    next.Live := by
  obtain ⟨signalled, awake⟩ := live
  cases effect with
  | lock ready free => exact ⟨signalled, nofun⟩
  | see checking set => exact ⟨signalled, nofun⟩
  | sleep checking clear =>
      refine ⟨signalled, fun _ notified => ?_⟩
      have set := signalled (by rw [notified]; rfl)
      rw [clear] at set
      cases set
  | wake blocked => exact ⟨signalled, nofun⟩
  | unlock satisfied => exact ⟨signalled, nofun⟩
  | destroy gone => exact ⟨signalled, nofun⟩

theorem Live.completed (live : record.Live) {step : LoopStep}
    (effect : Completed record step next) : next.Live := by
  obtain ⟨signalled, awake⟩ := live
  cases effect with
  | lock ran free => exact ⟨nofun, fun _ => nofun⟩
  | mark locked => exact ⟨fun _ => rfl, fun _ => nofun⟩
  | unlock marked => exact ⟨fun _ => signalled (by rw [marked]; rfl), fun _ => nofun⟩
  | notify unlocked =>
      refine ⟨fun _ => signalled (by rw [unlocked]; rfl), fun blocked => ?_⟩
      cases stage : record.waiter <;> simp [stage, WaiterStage.wakeUp] at blocked

theorem live_dispatched (record : Handshake Closure Result) (result : Result) :
    Live { record with result := some result, loop := .ran } where
  signalled := nofun
  awake _ := nofun

/-- A waiter that holds the mutex can go on. -/
theorem exists_wait_of_holds (holds : record.waiter.holds = true) :
    ∃ step next, step ≠ .wake ∧ step ≠ .destroy ∧ record.wait? step = some next := by
  cases stage : record.waiter with
  | checking =>
      cases set : record.done with
      | true => exact ⟨.check, _, by decide, by decide, by rw [wait?, if_pos stage, if_pos set]⟩
      | false => exact ⟨.check, _, by decide, by decide, by rw [wait?, if_pos stage, set]; rfl⟩
  | satisfied => exact ⟨.unlock, _, by decide, by decide, by rw [wait?, if_pos stage]⟩
  | _ =>
      rw [stage] at holds
      cases holds

/-- The record at hand goes on, on the loop thread or else on the waiter's. -/
theorem exists_step_of_inHand (consistent : record.Consistent)
    (inHand : record.loop.inHand = true) :
    (∃ step next, record.complete? step = some next) ∨
      ∃ step next, step ≠ .wake ∧ step ≠ .destroy ∧ record.wait? step = some next := by
  cases stage : record.loop with
  | ran =>
      cases held : record.holder with
      | none => exact .inl ⟨.lock, _, by rw [complete?, if_pos ⟨stage, held⟩]⟩
      | some holder =>
          cases holder with
          | waiter => exact .inr (exists_wait_of_holds (consistent.waiterHolds.mpr held))
          | loop =>
              have holds := consistent.loopHolds.mpr held
              rw [stage] at holds
              cases holds
  | locked => exact .inl ⟨.mark, _, by rw [complete?, if_pos stage]⟩
  | marked => exact .inl ⟨.unlock, _, by rw [complete?, if_pos stage]⟩
  | unlocked => exact .inl ⟨.notify, _, by rw [complete?, if_pos stage]⟩
  | _ =>
      rw [stage] at inHand
      cases inHand

/-- After the notification the waiter goes on by itself. -/
theorem exists_wait_of_notified (consistent : record.Consistent) (live : record.Live)
    (notified : record.loop = .notified) (there : record.waiter ≠ .destroyed) :
    ∃ step next, step ≠ .wake ∧ record.wait? step = some next := by
  have free : record.holder = none ∨ record.waiter.holds = true := by
    cases held : record.holder with
    | none => exact .inl rfl
    | some holder =>
        cases holder with
        | waiter => exact .inr (consistent.waiterHolds.mpr held)
        | loop =>
            have holds := consistent.loopHolds.mpr held
            rw [notified] at holds
            cases holds
  rcases free with free | holds
  · cases stage : record.waiter with
    | posted => exact ⟨.lock, _, by decide, by rw [wait?, if_pos ⟨.inl stage, free⟩]⟩
    | woken => exact ⟨.lock, _, by decide, by rw [wait?, if_pos ⟨.inr stage, free⟩]⟩
    | left => exact ⟨.destroy, _, by decide, by rw [wait?, if_pos stage]⟩
    | blocked => exact absurd notified (live.awake stage)
    | destroyed => exact absurd stage there
    | _ =>
        have holds := consistent.waiterHolds.mp (by rw [stage]; rfl)
        rw [free] at holds
        cases holds
  · obtain ⟨step, next, notWake, -, taken⟩ := exists_wait_of_holds holds
    exact ⟨step, next, notWake, taken⟩

theorem Waited.there {step : WaiterStep} (effect : Waited record step next) :
    record.waiter ≠ .destroyed := by
  cases effect with
  | lock ready free =>
      rcases ready with posted | woken
      · rw [posted]
        nofun
      · rw [woken]
        nofun
  | see checking set =>
      rw [checking]
      nofun
  | sleep checking clear =>
      rw [checking]
      nofun
  | wake blocked =>
      rw [blocked]
      nofun
  | unlock satisfied =>
      rw [satisfied]
      nofun
  | destroy gone =>
      rw [gone]
      nofun

theorem Waited.stays {step : WaiterStep} (effect : Waited record step next)
    (kept : step ≠ .destroy) : next.waiter ≠ .destroyed :=
  fun destroyed => kept (effect.destroys destroyed).1

theorem Completed.stays {step : LoopStep} (effect : Completed record step next)
    (there : record.waiter ≠ .destroyed) : next.waiter ≠ .destroyed :=
  fun destroyed => there (effect.destroyed destroyed)

theorem Completed.there {step : LoopStep} (effect : Completed record step next)
    (there : next.waiter ≠ .destroyed) : record.waiter ≠ .destroyed := by
  intro destroyed
  cases effect with
  | lock ran free => exact there destroyed
  | mark locked => exact there destroyed
  | unlock marked => exact there destroyed
  | notify unlocked => exact there (congrArg WaiterStage.wakeUp destroyed)

theorem Completed.inHand_next {step : LoopStep} (effect : Completed record step next)
    (more : step ≠ .notify) : next.loop.inHand = true := by
  cases effect with
  | lock ran free => rfl
  | mark locked => rfl
  | unlock marked => rfl
  | notify unlocked => exact absurd rfl more

end Handshake

namespace HandshakeState

open Handshake (Waited Completed)

variable {Thread World Closure Answer Result : Type}

section Definitions

variable (state : HandshakeState Thread World Closure Result)

/-- The steps that are left of all the handshakes. -/
def ahead : Nat := ∑ id ∈ Finset.range state.posted, (state.records id).elim 0 Handshake.ahead

/-- Nobody waits, and everything that was posted has been run and is gone. -/
structure Returned : Prop where
  free : ∀ thread, state.current thread = none
  idle : state.busy = none
  gone : ∀ id record, state.records id = some record →
    record.waiter = .destroyed ∧ record.loop = .notified
  clean : state.lateUses = []

/-- Nothing new is posted, no wait ends without a notification, and no record is
destroyed before its notification. -/
def Proceeds (event : HandshakeEvent Thread Closure Answer) : Prop :=
  state.outlives event = true ∧
    match event with
    | .post _ _ => False
    | .wait _ step => step ≠ .wake
    | _ => True

/-- The records there are belong to one thread each, and the loop thread has one in
hand only as long as it is busy with it. -/
structure Owned : Prop where
  numbered : ∀ id record, state.records id = some record → id < state.posted
  owner : ∀ id record, state.records id = some record → record.waiter ≠ .destroyed →
    ∃ thread, state.current thread = some id
  there : ∀ thread id, state.current thread = some id →
    ∃ record, state.records id = some record ∧ record.waiter ≠ .destroyed
  single : ∀ thread other id, state.current thread = some id → state.current other = some id →
    thread = other
  atHand : ∀ id, state.busy = some id →
    ∃ record, state.records id = some record ∧ record.loop.inHand = true

end Definitions

variable {state : HandshakeState Thread World Closure Result}

theorem owned_start (world : World) :
    Owned (start Thread world : HandshakeState Thread World Closure Result) where
  numbered := nofun
  owner := nofun
  there := nofun
  single := nofun
  atHand := nofun

/-- A record that gets a step further is a step less for all of them. -/
theorem Owned.ahead_lt (owned : state.Owned) {id : Nat} {record put : Handshake Closure Result}
    (found : state.records id = some record) (fewer : put.ahead < record.ahead) :
    ∑ other ∈ Finset.range state.posted,
        (Function.update state.records id (some put) other).elim 0 Handshake.ahead <
      state.ahead := by
  refine Finset.sum_lt_sum (fun other _ => ?_)
    ⟨id, Finset.mem_range.mpr (owned.numbered id record found), ?_⟩
  · by_cases same : other = id
    · subst same
      rw [Function.update_self, found]
      exact fewer.le
    · rw [Function.update_of_ne same]
  · rw [Function.update_self, found]
    exact fewer

/-- A record that stays keeps its owner. -/
theorem Owned.put (owned : state.Owned) {id : Nat} {record put : Handshake Closure Result}
    (found : state.records id = some record)
    (stays : record.waiter ≠ .destroyed → put.waiter ≠ .destroyed)
    (was : put.waiter ≠ .destroyed → record.waiter ≠ .destroyed) {busy : Option Nat}
    (atHand : ∀ other, busy = some other → other = id ∧ put.loop.inHand = true ∨
      other ≠ id ∧ state.busy = some other) {world : World} {lateUses : List Nat} :
    Owned { state with
      world, records := Function.update state.records id (some put), busy, lateUses } where
  numbered other held foundNext := by
    rcases of_update foundNext with ⟨rfl, _⟩ | ⟨_, before⟩
    · exact owned.numbered other record found
    · exact owned.numbered other held before
  owner other held foundNext there := by
    rcases of_update foundNext with ⟨rfl, rfl⟩ | ⟨_, before⟩
    · exact owned.owner other record found (was there)
    · exact owned.owner other held before there
  there thread other here := by
    obtain ⟨held, before, there⟩ := owned.there thread other here
    by_cases same : other = id
    · subst same
      rw [found] at before
      cases before
      exact ⟨put, Function.update_self .., stays there⟩
    · exact ⟨held, by rw [← before]; exact Function.update_of_ne same .., there⟩
  single := owned.single
  atHand other busy := by
    rcases atHand other busy with ⟨rfl, inHand⟩ | ⟨different, before⟩
    · exact ⟨put, Function.update_self .., inHand⟩
    · obtain ⟨held, foundHeld, inHand⟩ := owned.atHand other before
      exact ⟨held, by rw [← foundHeld]; exact Function.update_of_ne different .., inHand⟩

variable [DecidableEq Thread] {perform : Closure → Answer → World → World × Result}
  {next : HandshakeState Thread World Closure Result}
  {event : HandshakeEvent Thread Closure Answer}
  {events : List (HandshakeEvent Thread Closure Answer)}

/-- A thread's record after one thread's has changed. -/
theorem current_of_update {current : Thread → Option Nat} {thread other : Thread}
    {put : Option Nat} {id : Nat} (here : Function.update current thread put other = some id) :
    other = thread ∧ put = some id ∨ other ≠ thread ∧ current other = some id := by
  by_cases same : other = thread
  · subst same
    rw [Function.update_self] at here
    exact .inl ⟨rfl, here⟩
  · rw [Function.update_of_ne same] at here
    exact .inr ⟨same, here⟩

theorem Owned.post (owned : state.Owned) {thread : Thread} (closure : Closure)
    (idle : state.current thread = none) :
    Owned { state with
      records := Function.update state.records state.posted (some { closure })
      posted := state.posted + 1
      current := Function.update state.current thread (some state.posted) } := by
  -- the number of the new record is not in use
  have fresh : ∀ id record, state.records id = some record → id ≠ state.posted :=
    fun id record found => (owned.numbered id record found).ne
  have unused : ∀ other, state.current other ≠ some state.posted := by
    intro other here
    obtain ⟨record, found, -⟩ := owned.there other _ here
    exact fresh _ record found rfl
  refine ⟨?_, ?_, ?_, ?_, ?_⟩
  · intro id record found
    rcases of_update found with ⟨rfl, _⟩ | ⟨_, before⟩
    · exact Nat.lt_succ_self _
    · exact Nat.lt_succ_of_lt (owned.numbered id record before)
  · intro id record found there
    rcases of_update found with ⟨rfl, _⟩ | ⟨_, before⟩
    · exact ⟨thread, Function.update_self ..⟩
    · obtain ⟨other, here⟩ := owned.owner id record before there
      refine ⟨other, (Function.update_of_ne ?_ ..).trans here⟩
      rintro rfl
      rw [idle] at here
      cases here
  · intro other id here
    rcases current_of_update here with ⟨rfl, own⟩ | ⟨_, before⟩
    · cases own
      exact ⟨_, Function.update_self .., nofun⟩
    · obtain ⟨record, found, there⟩ := owned.there other id before
      exact ⟨record, (Function.update_of_ne (fresh id record found) ..).trans found, there⟩
  · intro first second id here there
    rcases current_of_update here with ⟨rfl, own⟩ | ⟨_, before⟩ <;>
      rcases current_of_update there with ⟨rfl, too⟩ | ⟨_, also⟩
    · rfl
    · cases own
      exact absurd also (unused second)
    · cases too
      exact absurd before (unused first)
    · exact owned.single first second id before also
  · intro id busy
    obtain ⟨record, found, inHand⟩ := owned.atHand id busy
    exact ⟨record, (Function.update_of_ne (fresh id record found) ..).trans found, inHand⟩

/-- A thread that destroys its record has none any more. -/
theorem Owned.destroy (owned : state.Owned) {thread : Thread} {id : Nat}
    {record : Handshake Closure Result} (here : state.current thread = some id)
    (found : state.records id = some record) :
    Owned { state with
      records := Function.update state.records id (some { record with waiter := .destroyed })
      current := Function.update state.current thread none } where
  numbered other held foundNext := by
    rcases of_update foundNext with ⟨rfl, _⟩ | ⟨_, before⟩
    · exact owned.numbered other record found
    · exact owned.numbered other held before
  owner other held foundNext there := by
    rcases of_update foundNext with ⟨_, rfl⟩ | ⟨different, before⟩
    · exact absurd rfl there
    · obtain ⟨keeper, keeps⟩ := owned.owner other held before there
      refine ⟨keeper, (Function.update_of_ne ?_ ..).trans keeps⟩
      rintro rfl
      rw [here] at keeps
      cases keeps
      exact different rfl
  there keeper other keeps := by
    rcases current_of_update keeps with ⟨_, none⟩ | ⟨another, kept⟩
    · cases none
    · obtain ⟨held, before, there⟩ := owned.there keeper other kept
      refine ⟨held, (Function.update_of_ne ?_ ..).trans before, there⟩
      rintro rfl
      exact another (owned.single keeper thread other kept here)
  single first second other keeps also := by
    rcases current_of_update keeps with ⟨_, none⟩ | ⟨_, kept⟩
    · cases none
    · rcases current_of_update also with ⟨_, none⟩ | ⟨_, too⟩
      · cases none
      · exact owned.single first second other kept too
  atHand other busy := by
    obtain ⟨held, before, inHand⟩ := owned.atHand other busy
    by_cases same : other = id
    · subst same
      rw [found] at before
      cases before
      exact ⟨_, Function.update_self .., inHand⟩
    · exact ⟨held, (Function.update_of_ne same ..).trans before, inHand⟩

theorem Owned.step (owned : state.Owned) (effect : state.Effect perform event next) :
    next.Owned := by
  cases effect with
  | post closure idle => exact owned.post closure idle
  | @wait thread step id record after here found taken =>
      by_cases last : step = .destroy
      · subst last
        cases taken
        exact owned.destroy here found
      · rw [if_neg last]
        refine owned.put found (fun _ => taken.stays last) (fun _ => taken.there) ?_
        intro other busy
        by_cases same : other = id
        · subst same
          obtain ⟨held, before, inHand⟩ := owned.atHand other busy
          rw [found] at before
          cases before
          exact .inl ⟨rfl, by rw [taken.loop_eq]; exact inHand⟩
        · exact .inr ⟨same, busy⟩
  | @dispatch id record answer free found attached =>
      have stays : record.waiter ≠ .destroyed →
          (({ record with
            result := some (perform record.closure answer state.world).2, loop := .ran } :
            Handshake Closure Result)).waiter ≠ .destroyed := fun there => there
      refine owned.put found stays (fun there => there) ?_
      intro other busy
      cases busy
      exact .inl ⟨rfl, rfl⟩
  | @complete step id record after inHand found taken =>
      refine owned.put found taken.stays taken.there ?_
      intro other busy
      by_cases last : step = .notify
      · rw [if_pos last] at busy
        cases busy
      · rw [if_neg last] at busy
        cases busy
        exact .inl ⟨rfl, taken.inHand_next last⟩

/-- No notification of any record is lost. -/
structure Tended (state : HandshakeState Thread World Closure Result) : Prop where
  settled : state.Settled
  owned : state.Owned
  live : ∀ id record, state.records id = some record → record.Live

omit [DecidableEq Thread] in
theorem tended_start (world : World) :
    Tended (start Thread world : HandshakeState Thread World Closure Result) where
  settled := settled_start world
  owned := owned_start world
  live := nofun

theorem Tended.step (tended : state.Tended) (orderly : state.outlives event = true)
    (effect : state.Effect perform event next) : next.Tended where
  settled := tended.settled.step orderly effect
  owned := tended.owned.step effect
  live := by
    intro id record found
    cases effect with
    | post closure idle =>
        rcases of_update found with ⟨_, rfl⟩ | ⟨_, before⟩
        · exact Handshake.live_start closure
        · exact tended.live id record before
    | wait here foundBefore taken =>
        rcases of_update found with ⟨_, rfl⟩ | ⟨_, before⟩
        · exact (tended.live _ _ foundBefore).waited taken
        · exact tended.live id record before
    | dispatch answer free foundBefore attached =>
        rcases of_update found with ⟨_, rfl⟩ | ⟨_, before⟩
        · exact Handshake.live_dispatched _ _
        · exact tended.live id record before
    | complete inHand foundBefore taken =>
        rcases of_update found with ⟨_, rfl⟩ | ⟨_, before⟩
        · exact (tended.live _ _ foundBefore).completed taken
        · exact tended.live id record before

theorem tended_of_run
    (run : (machine perform).Run (fun state event => state.outlives event = true)
      state events next) (tended : state.Tended) : next.Tended :=
  run.invariant (fun _ _ _ before orderly stepped => before.step orderly (effect_of_step stepped))
    tended

/-- Every step on is one less to take. -/
theorem Tended.ahead_lt (tended : state.Tended) (proceeds : state.Proceeds event)
    (effect : state.Effect perform event next) : next.ahead < state.ahead := by
  cases effect with
  | post closure idle => exact proceeds.2.elim
  | wait here found taken => exact tended.owned.ahead_lt found (taken.ahead_lt proceeds.2)
  | dispatch answer free found attached =>
      refine tended.owned.ahead_lt found ?_
      unfold Handshake.ahead
      rw [attached]
      exact Nat.add_lt_add_right (show 3 * 4 < 3 * 5 by decide) _
  | complete inHand found taken => exact tended.owned.ahead_lt found taken.ahead_lt

/-- A step of a record that is not its destruction can be taken by its thread. -/
theorem exists_wait (owned : state.Owned) {id : Nat} {record after : Handshake Closure Result}
    (found : state.records id = some record) {step : WaiterStep}
    (taken : record.wait? step = some after) (notified : step ≠ .wake)
    (orderly : step = .destroy → record.loop ≠ .unlocked) :
    ∃ event next, state.Proceeds event ∧ state.step? perform event = some next := by
  have there := (Handshake.waited_of_step taken).there
  obtain ⟨thread, here⟩ := owned.owner id record found there
  refine ⟨.wait thread step, _, ⟨?_, notified⟩, by
    simp only [step?, here, Option.bind_eq_bind, Option.bind_some, found, taken]
    rfl⟩
  cases step with
  | destroy => simpa [outlives, here, found] using orderly rfl
  | _ => rfl

/-- As long as somebody waits there is a step to take. -/
theorem Tended.exists_step [Inhabited Answer] (tended : state.Tended)
    (short : ¬ state.Returned) :
    ∃ (event : HandshakeEvent Thread Closure Answer) (next : _),
      state.Proceeds event ∧ state.step? perform event = some next := by
  have owned := tended.owned
  have sound := tended.settled.sound
  cases busy : state.busy with
  | some id =>
      -- the loop thread goes on with the record in hand, unless its waiter holds the mutex
      obtain ⟨record, found, inHand⟩ := owned.atHand id busy
      rcases Handshake.exists_step_of_inHand (sound.consistent id record found) inHand with
        ⟨step, after, taken⟩ | ⟨step, after, notified, kept, taken⟩
      · exact ⟨.complete step, _, ⟨rfl, trivial⟩, by
          simp only [step?, busy, Option.bind_eq_bind, Option.bind_some, found, taken]
          rfl⟩
      · exact exists_wait owned found taken notified fun last => absurd last kept
  | none =>
      by_cases waiting : ∃ id record, state.records id = some record ∧ record.loop = .attached
      · obtain ⟨id, record, found, attached⟩ := waiting
        exact ⟨.dispatch id default, _, ⟨rfl, trivial⟩, by
          simp only [step?, busy, Option.bind_eq_bind, found, Option.bind_some, if_pos attached]
          rfl⟩
      · -- every closure has run, and so every record has been notified
        have notified : ∀ id record, state.records id = some record →
            record.loop = .notified := by
          intro id record found
          have free : record.loop.inHand ≠ true := fun inHand => by
            rw [sound.inHand id record found inHand] at busy
            cases busy
          cases stage : record.loop with
          | attached => exact absurd ⟨id, record, found, stage⟩ waiting
          | notified => rfl
          | _ =>
              rw [stage] at free
              exact absurd rfl free
        by_cases left : ∃ id record, state.records id = some record ∧ record.waiter ≠ .destroyed
        · obtain ⟨id, record, found, there⟩ := left
          obtain ⟨step, after, awake, taken⟩ := Handshake.exists_wait_of_notified
            (sound.consistent id record found) (tended.live id record found)
            (notified id record found) there
          refine exists_wait owned found taken awake fun _ unlocked => ?_
          rw [notified id record found] at unlocked
          cases unlocked
        · refine absurd ⟨fun thread => ?_, busy, fun id record found => ?_,
            tended.settled.clean⟩ short
          · cases here : state.current thread with
            | none => rfl
            | some id =>
                obtain ⟨record, found, there⟩ := owned.there thread id here
                exact absurd ⟨id, record, found, there⟩ left
          · by_contra still
            exact left ⟨id, record, found, fun destroyed =>
              still ⟨destroyed, notified id record found⟩⟩

/-- Every waiter gets away, in whatever order the threads go on. -/
theorem progress [Inhabited Answer] :
    Machine.Progress
      (machine perform : Machine (HandshakeState Thread World Closure Result)
        (HandshakeEvent Thread Closure Answer))
      Proceeds Tended Returned ahead where
  preserved tended proceeds stepped := tended.step proceeds.1 (effect_of_step stepped)
  lowers tended proceeds stepped := tended.ahead_lt proceeds (effect_of_step stepped)
  enabled tended short := tended.exists_step short

end HandshakeState

end GConnman.Foundation
