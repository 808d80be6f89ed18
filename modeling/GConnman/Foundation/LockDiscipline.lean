import Mathlib.Order.BooleanAlgebra.Set
import Mathlib.Logic.Function.Basic
import GConnman.Foundation.TransitionSystem

/-!
# Mutexes and callbacks

Threads run scripts that lock and unlock mutexes and call user code in between.
User code performs operations of the library, which lock and unlock mutexes
themselves; what it performs and how often is open.  A mutex is not recursive: a
thread that locks one it already holds is stuck for ever.

A program is disciplined for a set of permitted operations when its scripts lock
nothing they hold, release everything they lock, and hold nothing around a call
that a permitted operation would lock, while every other operation begins by
locking something held.  Then a run gets no thread stuck on itself exactly when
it performs permitted operations only.
-/

namespace GConnman.Foundation

/-- What a script does. -/
inductive LockAction (Mutex Callback : Type*) where
  | lock (mutex : Mutex)
  | unlock (mutex : Mutex)
  | call (callback : Callback)
  deriving DecidableEq, Repr

/-- The scripts of the entry points and of the operations user code can perform. -/
structure LockProgram (Mutex Callback Entry Operation : Type*) where
  script : Entry → List (LockAction Mutex Callback)
  body : Operation → List (LockAction Mutex Callback)

abbrev ThreadId := Nat

/-- Who holds each mutex, and what each thread still has to do. -/
structure LockState (Mutex Callback : Type*) where
  owner : Mutex → Option ThreadId := fun _ => none
  todo : ThreadId → List (LockAction Mutex Callback) := fun _ => []

inductive LockEvent (Entry Operation : Type*) where
  /-- An idle thread enters the library. -/
  | start (thread : ThreadId) (entry : Entry)
  /-- The next lock or unlock. -/
  | proceed (thread : ThreadId)
  /-- The user code that runs performs an operation. -/
  | perform (thread : ThreadId) (operation : Operation)
  /-- The user code that runs returns. -/
  | leave (thread : ThreadId)

namespace LockState

variable {Mutex Callback : Type*} (state : LockState Mutex Callback)

/-- The mutexes a thread holds. -/
def heldBy (thread : ThreadId) : Set Mutex := {mutex | state.owner mutex = some thread}

/-- The user code a thread runs. -/
def running (thread : ThreadId) : Option Callback :=
  match state.todo thread with
  | .call callback :: _ => some callback
  | _ => none

/-- Some thread tries to lock a mutex it holds. -/
def SelfLocking : Prop :=
  ∃ thread mutex rest, state.todo thread = .lock mutex :: rest ∧ state.owner mutex = some thread

end LockState

namespace LockProgram

variable {Mutex Callback Entry Operation : Type*} [DecidableEq Mutex]
  (program : LockProgram Mutex Callback Entry Operation)

def step? (state : LockState Mutex Callback) :
    LockEvent Entry Operation → Option (LockState Mutex Callback)
  | .start thread entry =>
      match state.todo thread with
      | [] => some { state with todo := Function.update state.todo thread (program.script entry) }
      | _ => none
  | .proceed thread =>
      match state.todo thread with
      | .lock mutex :: rest =>
          if state.owner mutex = none then
            some { owner := Function.update state.owner mutex (some thread)
                   todo := Function.update state.todo thread rest }
          else none
      | .unlock mutex :: rest =>
          if state.owner mutex = some thread then
            some { owner := Function.update state.owner mutex none
                   todo := Function.update state.todo thread rest }
          else none
      | _ => none
  | .perform thread operation =>
      match state.todo thread with
      | .call callback :: rest =>
          some { state with
            todo := Function.update state.todo thread
              (program.body operation ++ .call callback :: rest) }
      | _ => none
  | .leave thread =>
      match state.todo thread with
      | .call _ :: rest => some { state with todo := Function.update state.todo thread rest }
      | _ => none

def machine : Machine (LockState Mutex Callback) (LockEvent Entry Operation) := ⟨program.step?⟩

/-- What a step does, by the action the stepping thread is at. -/
inductive Effect (state : LockState Mutex Callback) :
    LockEvent Entry Operation → LockState Mutex Callback → Prop where
  | start {thread : ThreadId} (entry : Entry) (idle : state.todo thread = []) :
      Effect state (.start thread entry)
        { state with todo := Function.update state.todo thread (program.script entry) }
  | lock {thread : ThreadId} {mutex : Mutex} {rest : List (LockAction Mutex Callback)}
      (todo : state.todo thread = .lock mutex :: rest) (free : state.owner mutex = none) :
      Effect state (.proceed thread)
        { owner := Function.update state.owner mutex (some thread)
          todo := Function.update state.todo thread rest }
  | unlock {thread : ThreadId} {mutex : Mutex} {rest : List (LockAction Mutex Callback)}
      (todo : state.todo thread = .unlock mutex :: rest)
      (owned : state.owner mutex = some thread) :
      Effect state (.proceed thread)
        { owner := Function.update state.owner mutex none
          todo := Function.update state.todo thread rest }
  | perform {thread : ThreadId} {callback : Callback} {rest : List (LockAction Mutex Callback)}
      (operation : Operation) (todo : state.todo thread = .call callback :: rest) :
      Effect state (.perform thread operation)
        { state with
          todo := Function.update state.todo thread
            (program.body operation ++ .call callback :: rest) }
  | leave {thread : ThreadId} {callback : Callback} {rest : List (LockAction Mutex Callback)}
      (todo : state.todo thread = .call callback :: rest) :
      Effect state (.leave thread)
        { state with todo := Function.update state.todo thread rest }

theorem effect_of_step {program : LockProgram Mutex Callback Entry Operation}
    {state next : LockState Mutex Callback} {event : LockEvent Entry Operation}
    (stepped : program.step? state event = some next) : program.Effect state event next := by
  cases event with
  | start thread entry =>
      simp only [step?] at stepped
      split at stepped
      · rename_i idle
        cases stepped
        exact .start entry idle
      · cases stepped
  | proceed thread =>
      simp only [step?] at stepped
      split at stepped
      · rename_i mutex rest todo
        split at stepped
        · rename_i free
          cases stepped
          exact .lock todo free
        · cases stepped
      · rename_i mutex rest todo
        split at stepped
        · rename_i owned
          cases stepped
          exact .unlock todo owned
        · cases stepped
      · cases stepped
  | perform thread operation =>
      simp only [step?] at stepped
      split at stepped
      · rename_i callback rest todo
        cases stepped
        exact .perform operation todo
      · cases stepped
  | leave thread =>
      simp only [step?] at stepped
      split at stepped
      · rename_i callback rest todo
        cases stepped
        exact .leave todo
      · cases stepped

end LockProgram

/-! ## Discipline -/

section Discipline

variable {Mutex Callback Operation : Type*}

/-- The actions lock nothing that is held, call nothing, and end holding `base`. -/
def Returns (base : Set Mutex) : Set Mutex → List (LockAction Mutex Callback) → Prop
  | held, [] => held = base
  | held, .lock mutex :: rest => mutex ∉ held ∧ Returns base (insert mutex held) rest
  | held, .unlock mutex :: rest => mutex ∈ held ∧ Returns base (held \ {mutex}) rest
  | _, .call _ :: _ => False

/-- The actions begin by locking something that is held. -/
def Clashes (held : Set Mutex) (actions : List (LockAction Mutex Callback)) : Prop :=
  ∃ mutex rest, actions = .lock mutex :: rest ∧ mutex ∈ held

/-- The actions lock nothing that is held and end holding nothing; a permitted
operation performed in a call on the way returns, and any other one clashes. -/
def Safe (permits : Callback → Operation → Prop)
    (body : Operation → List (LockAction Mutex Callback)) :
    Set Mutex → List (LockAction Mutex Callback) → Prop
  | held, [] => held = ∅
  | held, .lock mutex :: rest => mutex ∉ held ∧ Safe permits body (insert mutex held) rest
  | held, .unlock mutex :: rest => mutex ∈ held ∧ Safe permits body (held \ {mutex}) rest
  | held, .call callback :: rest =>
      (∀ operation, (permits callback operation → Returns held held (body operation)) ∧
        (¬ permits callback operation → Clashes held (body operation))) ∧
      Safe permits body held rest

variable {permits : Callback → Operation → Prop}
  {body : Operation → List (LockAction Mutex Callback)}

/-- Actions that return can be put in front. -/
theorem safe_append {base held : Set Mutex} {actions rest : List (LockAction Mutex Callback)}
    (returns : Returns base held actions) (safe : Safe permits body base rest) :
    Safe permits body held (actions ++ rest) := by
  induction actions generalizing held with
  | nil =>
      cases returns
      exact safe
  | cons action later ih =>
      cases action with
      | lock mutex => exact ⟨returns.1, ih returns.2⟩
      | unlock mutex => exact ⟨returns.1, ih returns.2⟩
      | call callback => cases returns

theorem safe_of_returns {held : Set Mutex} {actions : List (LockAction Mutex Callback)}
    (returns : Returns ∅ held actions) : Safe permits body held actions := by
  rw [← List.append_nil actions]
  exact safe_append returns rfl

theorem returns_append {base middle held : Set Mutex}
    {first second : List (LockAction Mutex Callback)} (before : Returns middle held first)
    (after : Returns base middle second) : Returns base held (first ++ second) := by
  induction first generalizing held with
  | nil =>
      cases before
      exact after
  | cons action later ih =>
      cases action with
      | lock mutex => exact ⟨before.1, ih before.2⟩
      | unlock mutex => exact ⟨before.1, ih before.2⟩
      | call callback => cases before

/-- A critical section without calls. -/
theorem returns_section {held : Set Mutex} {mutex : Mutex} (unheld : mutex ∉ held) :
    Returns held held [(.lock mutex : LockAction Mutex Callback), .unlock mutex] :=
  ⟨unheld, Set.mem_insert mutex held, Set.insert_sdiff_self_of_notMem unheld⟩

/-- A critical section around actions that return. -/
theorem safe_section {held : Set Mutex} {mutex : Mutex}
    {actions rest : List (LockAction Mutex Callback)} (unheld : mutex ∉ held)
    (inside : Returns (insert mutex held) (insert mutex held) actions)
    (safe : Safe permits body held rest) :
    Safe permits body held (.lock mutex :: (actions ++ .unlock mutex :: rest)) := by
  refine ⟨unheld, safe_append inside ⟨Set.mem_insert mutex held, ?_⟩⟩
  rw [Set.insert_sdiff_self_of_notMem unheld]
  exact safe

end Discipline

namespace LockProgram

variable {Mutex Callback Entry Operation : Type*}
  {program : LockProgram Mutex Callback Entry Operation}
  {permits : Callback → Operation → Prop}

/-- User code performs permitted operations only. -/
def Permitted (permits : Callback → Operation → Prop) (state : LockState Mutex Callback) :
    LockEvent Entry Operation → Prop
  | .perform thread operation =>
      ∀ callback ∈ state.running thread, permits callback operation
  | _ => True

instance [∀ callback operation, Decidable (permits callback operation)]
    (state : LockState Mutex Callback) :
    (event : LockEvent Entry Operation) → Decidable (Permitted permits state event)
  | .perform thread operation =>
      inferInstanceAs (Decidable (∀ callback ∈ state.running thread, permits callback operation))
  | .start _ _ => .isTrue trivial
  | .proceed _ => .isTrue trivial
  | .leave _ => .isTrue trivial

/-- Every entry point is safe when it is entered with nothing held. -/
def Disciplined (program : LockProgram Mutex Callback Entry Operation)
    (permits : Callback → Operation → Prop) : Prop :=
  ∀ entry, Safe permits program.body ∅ (program.script entry)

/-- What every thread still has to do is safe with what it holds. -/
def AllSafe (program : LockProgram Mutex Callback Entry Operation)
    (permits : Callback → Operation → Prop) (state : LockState Mutex Callback) : Prop :=
  ∀ thread, Safe permits program.body (state.heldBy thread) (state.todo thread)

/-- The thread that steps decides; the others do and hold what they did. -/
theorem allSafe_update {state : LockState Mutex Callback} {thread : ThreadId}
    {owner : Mutex → Option ThreadId} {actions : List (LockAction Mutex Callback)}
    {held : Set Mutex} (safe : AllSafe program permits state)
    (stepping : Safe permits program.body held actions)
    (here : LockState.heldBy ⟨owner, Function.update state.todo thread actions⟩ thread = held)
    (others : ∀ other, other ≠ thread →
      LockState.heldBy ⟨owner, Function.update state.todo thread actions⟩ other =
        state.heldBy other) :
    AllSafe program permits ⟨owner, Function.update state.todo thread actions⟩ := by
  intro other
  by_cases same : other = thread
  · subst same
    rw [here]
    change Safe permits program.body held (Function.update state.todo other actions other)
    rw [Function.update_self]
    exact stepping
  · rw [others other same]
    change Safe permits program.body _ (Function.update state.todo thread actions other)
    rw [Function.update_of_ne same]
    exact safe other

theorem allSafe_start : AllSafe program permits {} := fun _ =>
  Set.eq_empty_of_forall_notMem fun _ held => nomatch held

theorem not_selfLocking_of_allSafe {state : LockState Mutex Callback}
    (safe : AllSafe program permits state) : ¬ state.SelfLocking := by
  rintro ⟨thread, mutex, rest, todo, owned⟩
  have before := safe thread
  rw [todo] at before
  exact before.1 owned

variable [DecidableEq Mutex]

theorem heldBy_lock_self {state : LockState Mutex Callback} {mutex : Mutex} {thread : ThreadId}
    (todo : ThreadId → List (LockAction Mutex Callback)) :
    LockState.heldBy ⟨Function.update state.owner mutex (some thread), todo⟩ thread =
      insert mutex (state.heldBy thread) := by
  ext other
  by_cases same : other = mutex
  · simp [LockState.heldBy, same]
  · simp [LockState.heldBy, same]

theorem heldBy_unlock_self {state : LockState Mutex Callback} {mutex : Mutex} {thread : ThreadId}
    (todo : ThreadId → List (LockAction Mutex Callback)) :
    LockState.heldBy ⟨Function.update state.owner mutex none, todo⟩ thread =
      state.heldBy thread \ {mutex} := by
  ext other
  by_cases same : other = mutex
  · simp [LockState.heldBy, same]
  · simp [LockState.heldBy, same]

/-- Taking or releasing a mutex changes nothing for a thread that does not hold it
before or after. -/
theorem heldBy_update_other {state : LockState Mutex Callback} {mutex : Mutex}
    {owner : Option ThreadId} {other : ThreadId} (before : state.owner mutex ≠ some other)
    (after : owner ≠ some other) (todo : ThreadId → List (LockAction Mutex Callback)) :
    LockState.heldBy ⟨Function.update state.owner mutex owner, todo⟩ other =
      state.heldBy other := by
  ext another
  by_cases same : another = mutex
  · simp [LockState.heldBy, same, before, after]
  · simp [LockState.heldBy, Function.update_of_ne same]

/-- A permitted step keeps every thread safe. -/
theorem allSafe_step (disciplined : program.Disciplined permits)
    {state next : LockState Mutex Callback} {event : LockEvent Entry Operation}
    (safe : AllSafe program permits state) (allowed : Permitted permits state event)
    (stepped : program.step? state event = some next) : AllSafe program permits next := by
  cases effect_of_step stepped with
  | @start thread entry idle =>
      have before := safe thread
      rw [idle] at before
      exact allSafe_update safe (disciplined entry) before fun _ _ => rfl
  | @lock thread mutex rest todo free =>
      have before := safe thread
      rw [todo] at before
      refine allSafe_update safe before.2 (heldBy_lock_self _) fun other different => ?_
      have unowned : state.owner mutex ≠ some other := by
        rw [free]
        exact nofun
      have taken : some thread ≠ some other :=
        fun same => different (Option.some.inj same).symm
      exact heldBy_update_other unowned taken _
  | @unlock thread mutex rest todo owned =>
      have before := safe thread
      rw [todo] at before
      refine allSafe_update safe before.2 (heldBy_unlock_self _) fun other different => ?_
      have unowned : state.owner mutex ≠ some other := by
        rw [owned]
        exact fun same => different (Option.some.inj same).symm
      have released : (none : Option ThreadId) ≠ some other := nofun
      exact heldBy_update_other unowned released _
  | @perform thread callback rest operation todo =>
      have before := safe thread
      rw [todo] at before
      have permitted := allowed callback (by rw [LockState.running, todo, Option.mem_some_iff])
      have returning := safe_append ((before.1 operation).1 permitted) before
      exact allSafe_update safe returning rfl fun _ _ => rfl
  | @leave thread callback rest todo =>
      have before := safe thread
      rw [todo] at before
      exact allSafe_update safe before.2 rfl fun _ _ => rfl

/-- A thread that is stuck on itself stays stuck. -/
theorem selfLocking_step {state next : LockState Mutex Callback}
    {event : LockEvent Entry Operation} (stuck : state.SelfLocking)
    (stepped : program.step? state event = some next) : next.SelfLocking := by
  obtain ⟨thread, mutex, rest, todo, owned⟩ := stuck
  -- the stuck thread takes no step, and nobody else can take or release its mutex
  have waits : ∀ {other : ThreadId} {actions : List (LockAction Mutex Callback)},
      state.todo other = actions → actions ≠ .lock mutex :: rest → thread ≠ other := by
    rintro other actions doing elsewhere rfl
    exact elsewhere (doing.symm.trans todo)
  have still : ∀ {other : ThreadId} (actions : List (LockAction Mutex Callback)),
      thread ≠ other → Function.update state.todo other actions thread = .lock mutex :: rest :=
    fun actions different => (Function.update_of_ne different ..).trans todo
  cases effect_of_step stepped with
  | start entry idle =>
      exact ⟨thread, mutex, rest, still _ (waits idle nofun), owned⟩
  | @lock other taken later doing free =>
      have fresh : mutex ≠ taken := by
        rintro rfl
        rw [owned] at free
        cases free
      have different : thread ≠ other := waits doing (by
        rintro ⟨⟩
        exact fresh rfl)
      exact ⟨thread, mutex, rest, still _ different,
        (Function.update_of_ne fresh ..).trans owned⟩
  | @unlock other released later doing ownedOther =>
      have different : thread ≠ other := waits doing nofun
      have kept : mutex ≠ released := by
        rintro rfl
        rw [owned] at ownedOther
        exact different (Option.some.inj ownedOther)
      exact ⟨thread, mutex, rest, still _ different,
        (Function.update_of_ne kept ..).trans owned⟩
  | perform operation doing =>
      exact ⟨thread, mutex, rest, still _ (waits doing nofun), owned⟩
  | leave doing =>
      exact ⟨thread, mutex, rest, still _ (waits doing nofun), owned⟩

/-- An operation that is not permitted gets its thread stuck. -/
theorem selfLocking_of_not_permitted {state next : LockState Mutex Callback}
    {event : LockEvent Entry Operation} (safe : AllSafe program permits state)
    (forbidden : ¬ Permitted permits state event)
    (stepped : program.step? state event = some next) : next.SelfLocking := by
  cases effect_of_step stepped with
  | @perform thread callback rest operation todo =>
      have before := safe thread
      rw [todo] at before
      have refused : ¬ permits callback operation := by
        intro permitted
        apply forbidden
        intro other running
        rw [LockState.running, todo, Option.mem_some_iff] at running
        rw [← running]
        exact permitted
      obtain ⟨mutex, later, begins, held⟩ := (before.1 operation).2 refused
      refine ⟨thread, mutex, later ++ .call callback :: rest, ?_, held⟩
      change Function.update state.todo thread _ thread = _
      rw [Function.update_self, begins]
      rfl
  | _ => exact absurd trivial forbidden

/-- A run performs permitted operations only, or gets a thread stuck on itself. -/
theorem permitted_or_selfLocking (disciplined : program.Disciplined permits)
    {events : List (LockEvent Entry Operation)} {state : LockState Mutex Callback}
    (run : program.machine.Run Machine.anyStep {} events state) :
    (program.machine.Run (Permitted permits) {} events state ∧
      AllSafe program permits state) ∨ state.SelfLocking := by
  induction run with
  | refl => exact .inl ⟨.refl, allSafe_start⟩
  | @tail events middle finish event before _ stepped ih =>
      rcases ih with ⟨permitted, safe⟩ | stuck
      · by_cases allowed : Permitted permits middle event
        · exact .inl ⟨permitted.tail allowed stepped,
            allSafe_step disciplined safe allowed stepped⟩
        · exact .inr (selfLocking_of_not_permitted safe allowed stepped)
      · exact .inr (selfLocking_step stuck stepped)

/-- No thread has got stuck on itself exactly when only permitted operations were
performed. -/
theorem not_selfLocking_iff (disciplined : program.Disciplined permits)
    {events : List (LockEvent Entry Operation)} {state : LockState Mutex Callback}
    (run : program.machine.Run Machine.anyStep {} events state) :
    ¬ state.SelfLocking ↔ program.machine.Run (Permitted permits) {} events state := by
  constructor
  · intro unstuck
    rcases permitted_or_selfLocking disciplined run with ⟨permitted, -⟩ | stuck
    · exact permitted
    · exact absurd stuck unstuck
  · intro permitted
    have safe : AllSafe program permits state :=
      permitted.invariant (fun _ _ _ => allSafe_step disciplined) allSafe_start
    exact not_selfLocking_of_allSafe safe

end LockProgram

end GConnman.Foundation
