import GConnman.Foundation.Handshake

/-!
# Any number of handshakes

Any number of threads each have at most one record on their stack, and one loop
thread takes the closures in any order, one at a time, and completes each of them
before it takes the next.  A step of the loop thread on a record that has been
destroyed is recorded as a late use.

A waiter that destroys its record between the unlocking and the notification leaves
a late use behind.  It is the only way to one.
-/

namespace GConnman.Foundation

structure HandshakeState (Thread World Closure Result : Type) where
  world : World
  records : Nat → Option (Handshake Closure Result) := fun _ => none
  /-- How many records there have been. -/
  posted : Nat := 0
  /-- The record a thread has on its stack. -/
  current : Thread → Option Nat := fun _ => none
  /-- The record the loop thread has in hand. -/
  busy : Option Nat := none
  lateUses : List Nat := []

inductive HandshakeEvent (Thread Closure Answer : Type) where
  | post (thread : Thread) (closure : Closure)
  | wait (thread : Thread) (step : WaiterStep)
  /-- The loop thread runs a closure, with this answer of the outside world. -/
  | dispatch (id : Nat) (answer : Answer)
  | complete (step : LoopStep)

namespace HandshakeState

variable {Thread World Closure Answer Result : Type}

section Steps

variable (state : HandshakeState Thread World Closure Result)

/-- The late uses after the loop thread has used a record. -/
def touch (id : Nat) (record : Handshake Closure Result) : List Nat :=
  if record.waiter = .destroyed then state.lateUses ++ [id] else state.lateUses

/-- No record is destroyed between the unlocking and the notification. -/
def outlives : HandshakeEvent Thread Closure Answer → Bool
  | .wait thread .destroy =>
      ((state.current thread).bind state.records).all fun record => record.loop ≠ .unlocked
  | _ => true

variable [DecidableEq Thread] (perform : Closure → Answer → World → World × Result)

def step? : HandshakeEvent Thread Closure Answer →
    Option (HandshakeState Thread World Closure Result)
  | .post thread closure =>
      match state.current thread with
      | some _ => none
      | none =>
          some { state with
            records := Function.update state.records state.posted (some { closure })
            posted := state.posted + 1
            current := Function.update state.current thread (some state.posted) }
  | .wait thread step => do
      let id ← state.current thread
      let record ← state.records id
      let next ← record.wait? step
      return { state with
        records := Function.update state.records id (some next)
        current :=
          if step = .destroy then Function.update state.current thread none else state.current }
  | .dispatch id answer =>
      match state.busy with
      | some _ => none
      | none => do
          let record ← state.records id
          if record.loop = .attached then
            let (world, result) := perform record.closure answer state.world
            some { state with
              world
              records := Function.update state.records id
                (some { record with result := some result, loop := .ran })
              busy := some id
              lateUses := state.touch id record }
          else none
  | .complete step => do
      let id ← state.busy
      let record ← state.records id
      let next ← record.complete? step
      return { state with
        records := Function.update state.records id (some next)
        busy := if step = .notify then none else some id
        lateUses := state.touch id record }

/-- What a step does. -/
inductive Effect : HandshakeEvent Thread Closure Answer →
    HandshakeState Thread World Closure Result → Prop where
  | post {thread : Thread} (closure : Closure) (idle : state.current thread = none) :
      Effect (.post thread closure)
        { state with
          records := Function.update state.records state.posted (some { closure })
          posted := state.posted + 1
          current := Function.update state.current thread (some state.posted) }
  | wait {thread : Thread} {step : WaiterStep} {id : Nat} {record next : Handshake Closure Result}
      (here : state.current thread = some id) (found : state.records id = some record)
      (taken : record.Waited step next) :
      Effect (.wait thread step)
        { state with
          records := Function.update state.records id (some next)
          current :=
            if step = .destroy then Function.update state.current thread none
            else state.current }
  | dispatch {id : Nat} {record : Handshake Closure Result} (answer : Answer)
      (free : state.busy = none) (found : state.records id = some record)
      (attached : record.loop = .attached) :
      Effect (.dispatch id answer)
        { state with
          world := (perform record.closure answer state.world).1
          records := Function.update state.records id
            (some { record with
              result := some (perform record.closure answer state.world).2, loop := .ran })
          busy := some id
          lateUses := state.touch id record }
  | complete {step : LoopStep} {id : Nat} {record next : Handshake Closure Result}
      (inHand : state.busy = some id) (found : state.records id = some record)
      (taken : record.Completed step next) :
      Effect (.complete step)
        { state with
          records := Function.update state.records id (some next)
          busy := if step = .notify then none else some id
          lateUses := state.touch id record }

end Steps

variable {state : HandshakeState Thread World Closure Result}

/-- A record of a table in which one record has been put. -/
theorem of_update {records : Nat → Option (Handshake Closure Result)} {id other : Nat}
    {record put : Handshake Closure Result}
    (found : Function.update records id (some put) other = some record) :
    other = id ∧ record = put ∨ other ≠ id ∧ records other = some record := by
  by_cases same : other = id
  · subst same
    rw [Function.update_self] at found
    cases found
    exact .inl ⟨rfl, rfl⟩
  · rw [Function.update_of_ne same] at found
    exact .inr ⟨same, found⟩

/-- Every record is consistent, and only the one at hand is between the closure and
the notification. -/
structure Sound (state : HandshakeState Thread World Closure Result) : Prop where
  consistent : ∀ id record, state.records id = some record → record.Consistent
  inHand : ∀ id record, state.records id = some record → record.loop.inHand = true →
    state.busy = some id

/-- The state before any handshake. -/
def start (Thread : Type) {World Closure Result : Type} (world : World) :
    HandshakeState Thread World Closure Result where
  world := world

theorem sound_start (world : World) :
    Sound (start Thread world : HandshakeState Thread World Closure Result) where
  consistent := nofun
  inHand := nofun

/-- What the closures that have run have achieved. -/
def Delivered (Achieved : Closure → Result → World → Prop)
    (state : HandshakeState Thread World Closure Result) : Prop :=
  ∀ id record result, state.records id = some record → record.result = some result →
    Achieved record.closure result state.world

theorem delivered_start (world : World) (Achieved : Closure → Result → World → Prop) :
    Delivered Achieved (start Thread world) :=
  nofun

/-- No record has been used late, and the destroyed ones have been notified. -/
structure Settled (state : HandshakeState Thread World Closure Result) : Prop where
  sound : state.Sound
  notified : ∀ id record, state.records id = some record → record.waiter = .destroyed →
    record.loop = .notified
  clean : state.lateUses = []

theorem settled_start (world : World) :
    Settled (start Thread world : HandshakeState Thread World Closure Result) where
  sound := sound_start world
  notified := nofun
  clean := rfl

/-- What has been notified is not used again. -/
theorem Settled.touch_eq_nil (settled : state.Settled) {id : Nat}
    {record : Handshake Closure Result} (found : state.records id = some record)
    (unnotified : record.loop ≠ .notified) : state.touch id record = [] := by
  rw [touch, if_neg fun destroyed => unnotified (settled.notified id record found destroyed)]
  exact settled.clean

variable [DecidableEq Thread] {perform : Closure → Answer → World → World × Result}
  {next : HandshakeState Thread World Closure Result}
  {event : HandshakeEvent Thread Closure Answer}

theorem effect_of_step (stepped : state.step? perform event = some next) :
    state.Effect perform event next := by
  cases event with
  | post thread closure =>
      simp only [step?] at stepped
      split at stepped
      · cases stepped
      · rename_i idle
        cases stepped
        exact .post closure idle
  | wait thread step =>
      simp only [step?, Option.bind_eq_bind, Option.bind_eq_some_iff] at stepped
      obtain ⟨id, here, record, found, after, taken, result⟩ := stepped
      cases result
      exact .wait here found (Handshake.waited_of_step taken)
  | dispatch id answer =>
      simp only [step?] at stepped
      split at stepped
      · cases stepped
      · rename_i free
        simp only [Option.bind_eq_bind, Option.bind_eq_some_iff] at stepped
        obtain ⟨record, found, result⟩ := stepped
        split at result
        · rename_i attached
          cases result
          exact .dispatch answer free found attached
        · cases result
  | complete step =>
      simp only [step?, Option.bind_eq_bind, Option.bind_eq_some_iff] at stepped
      obtain ⟨id, inHand, record, found, after, taken, result⟩ := stepped
      cases result
      exact .complete inHand found (Handshake.completed_of_step taken)

theorem Sound.step (sound : state.Sound) (effect : state.Effect perform event next) :
    next.Sound := by
  cases effect with
  | post closure idle =>
      constructor
      · intro id record found
        rcases of_update found with ⟨_, rfl⟩ | ⟨_, before⟩
        · exact Handshake.consistent_start closure
        · exact sound.consistent id record before
      · intro id record found inHand
        rcases of_update found with ⟨_, rfl⟩ | ⟨_, before⟩
        · cases inHand
        · exact sound.inHand id record before inHand
  | @wait _ _ id record after here found taken =>
      constructor
      · intro other held foundNext
        rcases of_update foundNext with ⟨_, rfl⟩ | ⟨_, before⟩
        · exact (sound.consistent id record found).waited taken
        · exact sound.consistent other held before
      · intro other held foundNext inHand
        rcases of_update foundNext with ⟨rfl, rfl⟩ | ⟨_, before⟩
        · rw [taken.loop_eq] at inHand
          exact sound.inHand other record found inHand
        · exact sound.inHand other held before inHand
  | @dispatch id record answer free found attached =>
      constructor
      · intro other held foundNext
        rcases of_update foundNext with ⟨_, rfl⟩ | ⟨_, before⟩
        · exact (sound.consistent id record found).dispatched attached _
        · exact sound.consistent other held before
      · intro other held foundNext inHand
        rcases of_update foundNext with ⟨rfl, _⟩ | ⟨_, before⟩
        · rfl
        · rw [sound.inHand other held before inHand] at free
          cases free
  | @complete step id record after busy found taken =>
      constructor
      · intro other held foundNext
        rcases of_update foundNext with ⟨_, rfl⟩ | ⟨_, before⟩
        · exact (sound.consistent id record found).completed taken
        · exact sound.consistent other held before
      · intro other held foundNext inHand
        rcases of_update foundNext with ⟨rfl, rfl⟩ | ⟨different, before⟩
        · exact if_neg (taken.not_notify inHand)
        · have atHand := sound.inHand other held before inHand
          rw [busy] at atHand
          cases atHand
          exact absurd rfl different

theorem Settled.step (settled : state.Settled) (orderly : state.outlives event = true)
    (effect : state.Effect perform event next) : next.Settled := by
  have sound := settled.sound
  have nextSound := sound.step effect
  cases effect with
  | post closure idle =>
      refine ⟨nextSound, fun id record found destroyed => ?_, settled.clean⟩
      rcases of_update found with ⟨_, rfl⟩ | ⟨_, before⟩
      · cases destroyed
      · exact settled.notified id record before destroyed
  | @wait thread step id record after here found taken =>
      refine ⟨nextSound, fun other held foundNext destroyed => ?_, settled.clean⟩
      rcases of_update foundNext with ⟨_, rfl⟩ | ⟨_, before⟩
      · obtain ⟨rfl, gone⟩ := taken.destroys destroyed
        have early : record.loop ≠ .unlocked := by
          simpa [outlives, here, found] using orderly
        have released := (sound.consistent id record found).passed (by rw [gone]; rfl)
        rw [taken.loop_eq]
        exact released.resolve_left early
      · exact settled.notified other held before destroyed
  | @dispatch id record answer free found attached =>
      have unnotified : record.loop ≠ .notified := by rw [attached]; nofun
      refine ⟨nextSound, fun other held foundNext destroyed => ?_,
        settled.touch_eq_nil found unnotified⟩
      rcases of_update foundNext with ⟨_, rfl⟩ | ⟨_, before⟩
      · exact absurd (settled.notified id record found destroyed) unnotified
      · exact settled.notified other held before destroyed
  | @complete step id record after busy found taken =>
      have unnotified : record.loop ≠ .notified := by
        intro notified
        have inHand := taken.inHand
        rw [notified] at inHand
        cases inHand
      refine ⟨nextSound, fun other held foundNext destroyed => ?_,
        settled.touch_eq_nil found unnotified⟩
      rcases of_update foundNext with ⟨_, rfl⟩ | ⟨_, before⟩
      · exact absurd (settled.notified id record found (taken.destroyed destroyed)) unnotified
      · exact settled.notified other held before destroyed

/-- After a record was destroyed too early, the notification is a late use. -/
theorem exists_lateUse (sound : state.Sound) (effect : state.Effect perform event next)
    (early : state.outlives event = false) :
    ∃ later, next.step? perform (.complete .notify) = some later ∧ later.lateUses ≠ [] := by
  cases effect with
  | post => cases early
  | dispatch => cases early
  | complete => cases early
  | @wait thread step id record after here found taken =>
      cases taken <;> try cases early
      case destroy gone =>
        have unlocked : record.loop = .unlocked := by
          simpa [outlives, here, found] using early
        have inHand := sound.inHand id record found (by rw [unlocked]; rfl)
        simp [step?, inHand, Handshake.complete?, unlocked, touch]

variable (perform) in
def machine :
    Machine (HandshakeState Thread World Closure Result) (HandshakeEvent Thread Closure Answer) :=
  ⟨fun state => state.step? perform⟩

variable {guard : HandshakeState Thread World Closure Result →
    HandshakeEvent Thread Closure Answer → Prop}
  {events : List (HandshakeEvent Thread Closure Answer)}

theorem sound_of_run (run : (machine perform).Run guard state events next)
    (sound : state.Sound) : next.Sound :=
  run.invariant (fun _ _ _ before _ stepped => before.step (effect_of_step stepped)) sound

theorem Delivered.step {Achieved : Closure → Result → World → Prop}
    (achieves : ∀ closure answer world,
      Achieved closure (perform closure answer world).2 (perform closure answer world).1)
    (stable : ∀ closure result world other answer, Achieved closure result world →
      Achieved closure result (perform other answer world).1)
    (delivered : Delivered Achieved state) (effect : state.Effect perform event next) :
    Delivered Achieved next := by
  intro id record result found ran
  cases effect with
  | post closure idle =>
      rcases of_update found with ⟨_, rfl⟩ | ⟨_, before⟩
      · cases ran
      · exact delivered id record result before ran
  | wait here foundBefore taken =>
      rcases of_update found with ⟨_, rfl⟩ | ⟨_, before⟩
      · rw [taken.closure_eq]
        exact delivered _ _ result foundBefore (taken.result_eq ▸ ran)
      · exact delivered id record result before ran
  | dispatch answer free foundBefore attached =>
      rcases of_update found with ⟨_, rfl⟩ | ⟨_, before⟩
      · cases ran
        exact achieves _ answer _
      · exact stable _ _ _ _ answer (delivered id record result before ran)
  | complete inHand foundBefore taken =>
      rcases of_update found with ⟨_, rfl⟩ | ⟨_, before⟩
      · rw [taken.closure_eq]
        exact delivered _ _ result foundBefore (taken.result_eq ▸ ran)
      · exact delivered id record result before ran

/-- What every closure achieves and no closure undoes is there for its waiter. -/
theorem delivered_of_run {Achieved : Closure → Result → World → Prop}
    (achieves : ∀ closure answer world,
      Achieved closure (perform closure answer world).2 (perform closure answer world).1)
    (stable : ∀ closure result world other answer, Achieved closure result world →
      Achieved closure result (perform other answer world).1)
    (run : (machine perform).Run guard state events next)
    (delivered : Delivered Achieved state) : Delivered Achieved next :=
  run.invariant
    (fun _ _ _ before _ stepped => before.step achieves stable (effect_of_step stepped)) delivered

/-- A run in which no record is destroyed too early has no late use. -/
theorem settled_of_run
    (run : (machine perform).Run (fun state event => state.outlives event = true)
      state events next) (settled : state.Settled) : next.Settled :=
  run.invariant
    (fun _ _ _ before orderly stepped => before.step orderly (effect_of_step stepped)) settled

end HandshakeState

end GConnman.Foundation
