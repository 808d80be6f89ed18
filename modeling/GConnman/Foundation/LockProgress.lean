import Mathlib.Algebra.Order.BigOperators.Group.Finset
import Mathlib.Logic.Relation
import GConnman.Foundation.LockDiscipline

/-!
# Progress of threads that lock

A nesting says which mutex a thread may lock while it holds which other one.  A
thread that waits for a mutex waits for its owner, and the owner may wait in turn.
When the nesting allows no endless chain of such waits, a disciplined program never
deadlocks: behind every thread that waits there is one that can go on, and from every
state all threads can return by going on alone.
-/

namespace GConnman.Foundation

/-- The second mutex may be locked by the thread while it holds the first one. -/
abbrev Nesting (Mutex : Type*) := ThreadId → Mutex → Mutex → Prop

/-- The thread that holds `current.2` may wait for the owner of `next.2`. -/
def Nesting.Follows {Mutex : Type*} (nesting : Nesting Mutex)
    (next current : ThreadId × Mutex) : Prop :=
  next.1 ≠ current.1 ∧ nesting current.1 current.2 next.2

/-- Only one thread ever holds a mutex when it locks another one. -/
theorem Nesting.wellFounded_of_single {Mutex : Type*} {nesting : Nesting Mutex}
    {nester : ThreadId} (single : ∀ thread first second,
      nesting thread first second → thread = nester) :
    WellFounded nesting.Follows := by
  refine Subrelation.wf (r := InvImage (· < ·) fun position : ThreadId × Mutex =>
    if position.1 = nester then 1 else 0) ?_ (InvImage.wf _ wellFounded_lt)
  rintro next current ⟨different, nested⟩
  have here : current.1 = nester := single _ _ _ nested
  have there : next.1 ≠ nester := fun same => different (same.trans here.symm)
  simp [InvImage, here, there]

/-- A mutex is locked under others only if it stands above them, in an order without
infinite ascending chains. -/
theorem Nesting.wellFounded_of_rank {Mutex Rank : Type*} {nesting : Nesting Mutex}
    {above : Rank → Rank → Prop} (wellFounded : WellFounded above) (rank : Mutex → Rank)
    (ascends : ∀ thread first second, nesting thread first second →
      above (rank second) (rank first)) :
    WellFounded nesting.Follows := by
  refine Subrelation.wf (r := InvImage above fun position : ThreadId × Mutex => rank position.2) ?_
    (InvImage.wf _ wellFounded)
  rintro next current ⟨-, nested⟩
  exact ascends _ _ _ nested

/-! ## Scripts that keep to a nesting -/

section Keeping

variable {Mutex Callback Operation : Type*}

/-- Actions without calls that lock only what may be locked while the rest is held. -/
def Nested (nests : Mutex → Mutex → Prop) :
    Set Mutex → List (LockAction Mutex Callback) → Prop
  | _, [] => True
  | held, .lock mutex :: rest =>
      (∀ other ∈ held, nests other mutex) ∧ Nested nests (insert mutex held) rest
  | held, .unlock mutex :: rest => Nested nests (held \ {mutex}) rest
  | _, .call _ :: _ => False

/-- The actions lock only what may be locked while the rest is held, and so does a
permitted operation performed in a call on the way. -/
def Keeps (nests : Mutex → Mutex → Prop) (permits : Callback → Operation → Prop)
    (body : Operation → List (LockAction Mutex Callback)) :
    Set Mutex → List (LockAction Mutex Callback) → Prop
  | _, [] => True
  | held, .lock mutex :: rest =>
      (∀ other ∈ held, nests other mutex) ∧ Keeps nests permits body (insert mutex held) rest
  | held, .unlock mutex :: rest => Keeps nests permits body (held \ {mutex}) rest
  | held, .call callback :: rest =>
      (∀ operation, permits callback operation → Nested nests held (body operation)) ∧
      Keeps nests permits body held rest

variable {nests : Mutex → Mutex → Prop} {permits : Callback → Operation → Prop}
  {body : Operation → List (LockAction Mutex Callback)} {held : Set Mutex}

/-- Actions that return can be put in front. -/
theorem keeps_append {base : Set Mutex} {actions rest : List (LockAction Mutex Callback)}
    (returns : Returns base held actions) (nested : Nested nests held actions)
    (keeps : Keeps nests permits body base rest) :
    Keeps nests permits body held (actions ++ rest) := by
  induction actions generalizing held with
  | nil =>
      cases returns
      exact keeps
  | cons action later ih =>
      cases action with
      | lock mutex => exact ⟨nested.1, ih returns.2 nested.2⟩
      | unlock mutex => exact ih returns.2 nested
      | call callback => cases returns

theorem keeps_of_nested {actions : List (LockAction Mutex Callback)}
    (nested : Nested nests held actions) : Keeps nests permits body held actions := by
  induction actions generalizing held with
  | nil => trivial
  | cons action later ih =>
      cases action with
      | lock mutex => exact ⟨nested.1, ih nested.2⟩
      | unlock mutex => exact ih nested
      | call callback => cases nested

theorem nested_append {base : Set Mutex} {first second : List (LockAction Mutex Callback)}
    (returns : Returns base held first) (before : Nested nests held first)
    (after : Nested nests base second) : Nested nests held (first ++ second) := by
  induction first generalizing held with
  | nil =>
      cases returns
      exact after
  | cons action later ih =>
      cases action with
      | lock mutex => exact ⟨before.1, ih returns.2 before.2⟩
      | unlock mutex => exact ih returns.2 before
      | call callback => cases returns

/-- A critical section without calls. -/
theorem nested_section {mutex : Mutex} (nested : ∀ other ∈ held, nests other mutex) :
    Nested nests held [(.lock mutex : LockAction Mutex Callback), .unlock mutex] :=
  ⟨nested, trivial⟩

end Keeping

namespace LockState

variable {Mutex Callback : Type*} (state : LockState Mutex Callback)

/-- The first thread wants to lock what the second one holds. -/
def Waits (thread owner : ThreadId) : Prop :=
  ∃ mutex rest, state.todo thread = .lock mutex :: rest ∧ state.owner mutex = some owner

/-- The thread is inside the library and does not wait. -/
def Enabled (thread : ThreadId) : Prop :=
  state.todo thread ≠ [] ∧
    ∀ mutex rest, state.todo thread = .lock mutex :: rest → state.owner mutex = none

/-- Some threads wait for each other. -/
def Deadlocked : Prop :=
  ∃ stuck : Set ThreadId, stuck.Nonempty ∧
    ∀ thread ∈ stuck, ∃ owner ∈ stuck, state.Waits thread owner

/-- What a thread holds and still has to do. -/
def view (thread : ThreadId) : Set Mutex × List (LockAction Mutex Callback) :=
  (state.heldBy thread, state.todo thread)

/-- No thread is inside the library. -/
def Returned : Prop := ∀ thread, state.todo thread = []

variable {state}

theorem waits_of_not_enabled {thread : ThreadId} (inside : state.todo thread ≠ [])
    (blocked : ¬ state.Enabled thread) : ∃ owner, state.Waits thread owner := by
  have locks : ∃ mutex rest, state.todo thread = .lock mutex :: rest ∧
      state.owner mutex ≠ none := by
    by_contra free
    refine blocked ⟨inside, fun mutex rest todo => ?_⟩
    by_contra owned
    exact free ⟨mutex, rest, todo, owned⟩
  obtain ⟨mutex, rest, todo, owned⟩ := locks
  obtain ⟨owner, owns⟩ := Option.ne_none_iff_exists'.mp owned
  exact ⟨owner, mutex, rest, todo, owns⟩

/-- Whoever waits is not enabled. -/
theorem Waits.not_enabled {thread owner : ThreadId} (waits : state.Waits thread owner) :
    ¬ state.Enabled thread := by
  obtain ⟨mutex, rest, todo, owns⟩ := waits
  intro enabled
  have free := enabled.2 mutex rest todo
  rw [owns] at free
  cases free

/-- A thread waits for one owner. -/
theorem Waits.unique {thread first second : ThreadId} (one : state.Waits thread first)
    (other : state.Waits thread second) : first = second := by
  obtain ⟨mutex, rest, todo, owns⟩ := one
  obtain ⟨again, later, still, holds⟩ := other
  rw [todo, List.cons.injEq, LockAction.lock.injEq] at still
  rw [still.1, holds] at owns
  exact (Option.some.inj owns).symm

/-- The waits of threads that wait for each other lead to no other thread. -/
theorem mem_of_waits {stuck : Set ThreadId}
    (closed : ∀ thread ∈ stuck, ∃ owner ∈ stuck, state.Waits thread owner)
    {thread ahead : ThreadId} (member : thread ∈ stuck)
    (chain : Relation.ReflTransGen state.Waits thread ahead) : ahead ∈ stuck := by
  induction chain with
  | refl => exact member
  | tail _ waits ih =>
      obtain ⟨owner, inside, waitsFor⟩ := closed _ ih
      rw [waits.unique waitsFor]
      exact inside

/-- Where an enabled thread is behind every thread there is no deadlock. -/
theorem not_deadlocked_of_enabled
    (progress : ∀ thread, state.todo thread ≠ [] →
      ∃ ahead, Relation.ReflTransGen state.Waits thread ahead ∧ state.Enabled ahead) :
    ¬ state.Deadlocked := by
  rintro ⟨stuck, ⟨thread, member⟩, closed⟩
  obtain ⟨first, -, mutex, rest, todo, -⟩ := closed thread member
  have inside : state.todo thread ≠ [] := by
    rw [todo]
    exact List.cons_ne_nil _ _
  obtain ⟨ahead, chain, enabled⟩ := progress thread inside
  obtain ⟨owner, -, waits⟩ := closed ahead (mem_of_waits closed member chain)
  exact waits.not_enabled enabled

end LockState

namespace LockProgram

variable {Mutex Callback Entry Operation : Type*}
  {program : LockProgram Mutex Callback Entry Operation}
  {permits admits : Callback → Operation → Prop} {enters : ThreadId → Entry → Prop}
  {nesting : Nesting Mutex}

/-- Threads enter only where they may, and user code performs admitted operations. -/
def Admitted (enters : ThreadId → Entry → Prop) (admits : Callback → Operation → Prop)
    (state : LockState Mutex Callback) (event : LockEvent Entry Operation) : Prop :=
  Permitted admits state event ∧
    match event with
    | .start thread entry => enters thread entry
    | _ => True

instance [∀ thread entry, Decidable (enters thread entry)]
    [∀ callback operation, Decidable (admits callback operation)]
    (state : LockState Mutex Callback) (event : LockEvent Entry Operation) :
    Decidable (Admitted enters admits state event) :=
  match event with
  | .start thread entry => inferInstanceAs (Decidable (_ ∧ enters thread entry))
  | .proceed _ => inferInstanceAs (Decidable (_ ∧ True))
  | .perform _ _ => inferInstanceAs (Decidable (_ ∧ True))
  | .leave _ => inferInstanceAs (Decidable (_ ∧ True))

/-- Every thread keeps to its nesting wherever it may enter. -/
def Nests (program : LockProgram Mutex Callback Entry Operation)
    (admits : Callback → Operation → Prop) (enters : ThreadId → Entry → Prop)
    (nesting : Nesting Mutex) : Prop :=
  ∀ thread entry, enters thread entry →
    Keeps (nesting thread) admits program.body ∅ (program.script entry)

/-- A disciplined program whose threads keep to a nesting without endless waits, as
long as user code performs admitted operations. -/
structure Orderly (program : LockProgram Mutex Callback Entry Operation)
    (permits admits : Callback → Operation → Prop) (enters : ThreadId → Entry → Prop)
    (nesting : Nesting Mutex) : Prop where
  disciplined : program.Disciplined permits
  narrow : ∀ callback operation, admits callback operation → permits callback operation
  nests : program.Nests admits enters nesting
  wellFounded : WellFounded nesting.Follows

/-- What every thread still has to do keeps to its nesting. -/
def AllKeep (program : LockProgram Mutex Callback Entry Operation)
    (admits : Callback → Operation → Prop) (nesting : Nesting Mutex)
    (state : LockState Mutex Callback) : Prop :=
  ∀ thread, Keeps (nesting thread) admits program.body (state.heldBy thread) (state.todo thread)

/-- Finitely many threads are inside the library. -/
def FewInside (state : LockState Mutex Callback) : Prop :=
  ∃ inside : Finset ThreadId, ∀ thread ∉ inside, state.todo thread = []

/-- What every admitted run keeps. -/
structure Kept (program : LockProgram Mutex Callback Entry Operation)
    (permits admits : Callback → Operation → Prop) (nesting : Nesting Mutex)
    (state : LockState Mutex Callback) : Prop where
  safe : AllSafe program permits state
  keep : AllKeep program admits nesting state
  few : FewInside state

/-- What a step does to what the stepping thread holds and still has to do. -/
inductive ThreadStep (program : LockProgram Mutex Callback Entry Operation) (thread : ThreadId) :
    LockEvent Entry Operation → Set Mutex × List (LockAction Mutex Callback) →
      Set Mutex × List (LockAction Mutex Callback) → Prop where
  | start (entry : Entry) (held : Set Mutex) :
      ThreadStep program thread (.start thread entry) (held, []) (held, program.script entry)
  | lock (mutex : Mutex) (held : Set Mutex) (rest : List (LockAction Mutex Callback)) :
      ThreadStep program thread (.proceed thread) (held, .lock mutex :: rest)
        (insert mutex held, rest)
  | unlock (mutex : Mutex) (held : Set Mutex) (rest : List (LockAction Mutex Callback)) :
      ThreadStep program thread (.proceed thread) (held, .unlock mutex :: rest)
        (held \ {mutex}, rest)
  | perform (callback : Callback) (operation : Operation) (held : Set Mutex)
      (rest : List (LockAction Mutex Callback)) :
      ThreadStep program thread (.perform thread operation) (held, .call callback :: rest)
        (held, program.body operation ++ .call callback :: rest)
  | leave (callback : Callback) (held : Set Mutex)
      (rest : List (LockAction Mutex Callback)) :
      ThreadStep program thread (.leave thread) (held, .call callback :: rest) (held, rest)

theorem allKeep_start : AllKeep program admits nesting {} := fun _ => trivial

theorem permits_of_view {state : LockState Mutex Callback} {thread : ThreadId}
    {callback : Callback} {operation : Operation} {held : Set Mutex}
    {rest : List (LockAction Mutex Callback)}
    (permitted : ∀ callback ∈ state.running thread, permits callback operation)
    (calls : state.view thread = (held, .call callback :: rest)) :
    permits callback operation := by
  have todo : state.todo thread = .call callback :: rest := congrArg Prod.snd calls
  exact permitted callback (by rw [LockState.running, todo, Option.mem_some_iff])

/-- An admitted step keeps the stepping thread to its nesting. -/
theorem keeps_of_threadStep (orderly : program.Orderly permits admits enters nesting)
    {thread : ThreadId}
    {event : LockEvent Entry Operation}
    {before after : Set Mutex × List (LockAction Mutex Callback)}
    (safe : Safe permits program.body before.1 before.2)
    (keeps : Keeps (nesting thread) admits program.body before.1 before.2)
    (entered : ∀ entry, event = .start thread entry → enters thread entry)
    (admitted : ∀ operation callback held rest, event = .perform thread operation →
      before = (held, .call callback :: rest) → admits callback operation)
    (stepped : program.ThreadStep thread event before after) :
    Keeps (nesting thread) admits program.body after.1 after.2 := by
  cases stepped with
  | start entry held =>
      cases safe
      exact orderly.nests thread entry (entered entry rfl)
  | lock mutex held rest => exact keeps.2
  | unlock mutex held rest => exact keeps
  | perform callback operation held rest =>
      have allowed := admitted operation callback held rest rfl rfl
      have returns := (safe.1 operation).1 (orderly.narrow callback operation allowed)
      exact keeps_append returns (keeps.1 operation allowed) keeps
  | leave callback held rest => exact keeps.2

/-! ## Progress -/

/-- A lock that a thread wants may be locked while it holds what it holds. -/
theorem nesting_of_wants {state : LockState Mutex Callback} {thread : ThreadId}
    (keep : AllKeep program admits nesting state) {held wanted : Mutex}
    {rest : List (LockAction Mutex Callback)} (todo : state.todo thread = .lock wanted :: rest)
    (holds : state.owner held = some thread) : nesting thread held wanted := by
  have before := keep thread
  rw [todo] at before
  exact before.1 held holds

/-- Behind the owner of a mutex there is an enabled thread. -/
theorem exists_enabled_behind (wellFounded : WellFounded nesting.Follows)
    {state : LockState Mutex Callback} (safe : AllSafe program permits state)
    (keep : AllKeep program admits nesting state) (position : ThreadId × Mutex) :
    state.owner position.2 = some position.1 →
      ∃ ahead, Relation.ReflTransGen state.Waits position.1 ahead ∧ state.Enabled ahead := by
  induction position using wellFounded.induction with
  | _ position ih =>
    intro holds
    by_cases enabled : state.Enabled position.1
    · exact ⟨position.1, .refl, enabled⟩
    · -- whoever holds a mutex still has to unlock it
      have inside : state.todo position.1 ≠ [] := by
        intro idle
        have before := safe position.1
        rw [idle] at before
        have empty : state.heldBy position.1 = ∅ := before
        have member : position.2 ∈ state.heldBy position.1 := holds
        rw [empty] at member
        exact member
      obtain ⟨owner, wanted, rest, todo, owns⟩ :=
        LockState.waits_of_not_enabled inside enabled
      have different : owner ≠ position.1 := by
        rintro rfl
        exact not_selfLocking_of_allSafe safe ⟨_, wanted, rest, todo, owns⟩
      obtain ⟨ahead, chain, runs⟩ := ih (owner, wanted)
        ⟨different, nesting_of_wants keep todo holds⟩ owns
      exact ⟨ahead, .head ⟨wanted, rest, todo, owns⟩ chain, runs⟩

/-- Behind every thread inside the library there is an enabled thread. -/
theorem exists_enabled (wellFounded : WellFounded nesting.Follows)
    {state : LockState Mutex Callback} (safe : AllSafe program permits state)
    (keep : AllKeep program admits nesting state) (thread : ThreadId)
    (inside : state.todo thread ≠ []) :
    ∃ ahead, Relation.ReflTransGen state.Waits thread ahead ∧ state.Enabled ahead := by
  by_cases enabled : state.Enabled thread
  · exact ⟨thread, .refl, enabled⟩
  · obtain ⟨owner, mutex, rest, todo, owns⟩ := LockState.waits_of_not_enabled inside enabled
    obtain ⟨ahead, chain, runs⟩ :=
      exists_enabled_behind wellFounded safe keep (owner, mutex) owns
    exact ⟨ahead, .head ⟨mutex, rest, todo, owns⟩ chain, runs⟩

/-! ## Returning -/

/-- The event finishes something that has begun. -/
def Finishing (_ : LockState Mutex Callback) : LockEvent Entry Operation → Prop
  | .proceed _ => True
  | .leave _ => True
  | .start _ _ => False
  | .perform _ _ => False

theorem admitted_of_finishing {state : LockState Mutex Callback}
    {event : LockEvent Entry Operation} (finishing : Finishing state event) :
    Admitted enters admits state event := by
  cases event with
  | start thread entry => cases finishing
  | proceed thread => exact ⟨trivial, trivial⟩
  | perform thread operation => cases finishing
  | leave thread => exact ⟨trivial, trivial⟩

/-- The actions that are left to the threads of a set. -/
def remaining (inside : Finset ThreadId) (state : LockState Mutex Callback) : Nat :=
  ∑ thread ∈ inside, (state.todo thread).length

theorem remaining_lt {state next : LockState Mutex Callback} {inside : Finset ThreadId}
    {thread : ThreadId} (member : thread ∈ inside) (busy : state.todo thread ≠ [])
    (after : next.todo = Function.update state.todo thread (state.todo thread).tail) :
    remaining inside next < remaining inside state := by
  have shorter : (state.todo thread).tail.length < (state.todo thread).length := by
    have positive := List.length_pos_iff.mpr busy
    rw [List.length_tail]
    omega
  refine Finset.sum_lt_sum (fun other _ => ?_) ⟨thread, member, ?_⟩
  · rw [after]
    by_cases same : other = thread
    · rw [same, Function.update_self]
      exact shorter.le
    · rw [Function.update_of_ne same]
  · rw [after, Function.update_self]
    exact shorter

/-! ## Steps and runs -/

variable [DecidableEq Mutex]

/-- One thread steps, and the others hold and have to do what they did. -/
theorem threadStep_of_step {state next : LockState Mutex Callback}
    {event : LockEvent Entry Operation} (stepped : program.step? state event = some next) :
    ∃ thread, program.ThreadStep thread event (state.view thread) (next.view thread) ∧
      ∀ other, other ≠ thread → next.view other = state.view other := by
  cases effect_of_step stepped with
  | @start thread entry idle =>
      refine ⟨thread, ?_, fun other different => ?_⟩
      · simp only [LockState.view, idle, Function.update_self]
        exact .start entry _
      · simp only [LockState.view, Function.update_of_ne different]
        rfl
  | @lock thread mutex rest todo free =>
      refine ⟨thread, ?_, fun other different => ?_⟩
      · simp only [LockState.view, todo, Function.update_self, heldBy_lock_self]
        exact .lock mutex _ rest
      · have unowned : state.owner mutex ≠ some other := by
          rw [free]
          exact nofun
        have taken : some thread ≠ some other :=
          fun same => different (Option.some.inj same).symm
        simp only [LockState.view, Function.update_of_ne different,
          heldBy_update_other unowned taken]
  | @unlock thread mutex rest todo owned =>
      refine ⟨thread, ?_, fun other different => ?_⟩
      · simp only [LockState.view, todo, Function.update_self, heldBy_unlock_self]
        exact .unlock mutex _ rest
      · have unowned : state.owner mutex ≠ some other := by
          rw [owned]
          exact fun same => different (Option.some.inj same).symm
        simp only [LockState.view, Function.update_of_ne different,
          heldBy_update_other unowned (nofun : (none : Option ThreadId) ≠ some other)]
  | @perform thread callback rest operation todo =>
      refine ⟨thread, ?_, fun other different => ?_⟩
      · simp only [LockState.view, todo, Function.update_self]
        exact .perform callback operation _ rest
      · simp only [LockState.view, Function.update_of_ne different]
        rfl
  | @leave thread callback rest todo =>
      refine ⟨thread, ?_, fun other different => ?_⟩
      · simp only [LockState.view, todo, Function.update_self]
        exact .leave callback _ rest
      · simp only [LockState.view, Function.update_of_ne different]
        rfl

/-- An admitted step keeps every thread to its nesting. -/
theorem allKeep_step (orderly : program.Orderly permits admits enters nesting)
    {state next : LockState Mutex Callback} {event : LockEvent Entry Operation}
    (safe : AllSafe program permits state) (keep : AllKeep program admits nesting state)
    (admitted : Admitted enters admits state event)
    (stepped : program.step? state event = some next) :
    AllKeep program admits nesting next := by
  obtain ⟨thread, here, others⟩ := threadStep_of_step stepped
  intro other
  by_cases same : other = thread
  · subst same
    refine keeps_of_threadStep orderly (safe other) (keep other) ?_ ?_ here
    · rintro entry rfl
      exact admitted.2
    · rintro operation callback held rest rfl calls
      exact permits_of_view admitted.1 calls
  · have unchanged := others other same
    have before := keep other
    change Keeps _ _ _ (state.view other).1 (state.view other).2 at before
    rw [← unchanged] at before
    exact before

/-- An enabled thread does its next action. -/
theorem finishing_step_of_enabled {state : LockState Mutex Callback}
    (safe : AllSafe program permits state) {thread : ThreadId} (enabled : state.Enabled thread) :
    ∃ event next, Finishing state event ∧ program.step? state event = some next ∧
      next.todo = Function.update state.todo thread (state.todo thread).tail := by
  have before := safe thread
  cases todo : state.todo thread with
  | nil => exact absurd todo enabled.1
  | cons action rest =>
      rw [todo] at before
      cases action with
      | lock mutex =>
          have free := enabled.2 mutex rest todo
          exact ⟨.proceed thread, ⟨Function.update state.owner mutex (some thread),
            Function.update state.todo thread rest⟩, trivial, by simp [step?, todo, free], rfl⟩
      | unlock mutex =>
          have owned : state.owner mutex = some thread := before.1
          exact ⟨.proceed thread, ⟨Function.update state.owner mutex none,
            Function.update state.todo thread rest⟩, trivial, by simp [step?, todo, owned], rfl⟩
      | call callback =>
          exact ⟨.leave thread, ⟨state.owner, Function.update state.todo thread rest⟩,
            trivial, by simp [step?, todo], rfl⟩

theorem fewInside_step {state next : LockState Mutex Callback}
    {event : LockEvent Entry Operation} (few : FewInside state)
    (stepped : program.step? state event = some next) : FewInside next := by
  obtain ⟨inside, outside⟩ := few
  obtain ⟨thread, -, others⟩ := threadStep_of_step stepped
  refine ⟨insert thread inside, fun other notInside => ?_⟩
  rw [Finset.mem_insert, not_or] at notInside
  have unchanged : next.todo other = state.todo other :=
    congrArg Prod.snd (others other notInside.1)
  rw [unchanged]
  exact outside other notInside.2

theorem Kept.step (orderly : program.Orderly permits admits enters nesting)
    {state next : LockState Mutex Callback} {event : LockEvent Entry Operation}
    (kept : Kept program permits admits nesting state)
    (admitted : Admitted enters admits state event)
    (stepped : program.step? state event = some next) :
    Kept program permits admits nesting next where
  safe := by
    have permitted : Permitted permits state event := by
      cases event with
      | perform thread operation =>
          exact fun callback running => orderly.narrow _ _ (admitted.1 callback running)
      | _ => trivial
    exact allSafe_step orderly.disciplined kept.safe permitted stepped
  keep := allKeep_step orderly kept.safe kept.keep admitted stepped
  few := fewInside_step kept.few stepped

theorem Kept.of_run (orderly : program.Orderly permits admits enters nesting)
    {events : List (LockEvent Entry Operation)} {state : LockState Mutex Callback}
    (run : program.machine.Run (Admitted enters admits) {} events state) :
    Kept program permits admits nesting state :=
  run.invariant (fun _ _ _ kept admitted stepped => kept.step orderly admitted stepped)
    ⟨allSafe_start, allKeep_start, ∅, fun _ _ => rfl⟩

/-- All threads can return by going on alone. -/
theorem exists_returned (orderly : program.Orderly permits admits enters nesting)
    {state : LockState Mutex Callback} (kept : Kept program permits admits nesting state)
    {inside : Finset ThreadId} (outside : ∀ thread ∉ inside, state.todo thread = []) :
    ∃ events finish, program.machine.Run Finishing state events finish ∧ finish.Returned := by
  induction left : remaining inside state using Nat.strongRecOn generalizing state with
  | ind count ih =>
    by_cases returned : state.Returned
    · exact ⟨[], state, .refl, returned⟩
    · obtain ⟨thread, busy⟩ := not_forall.mp returned
      obtain ⟨ahead, -, enabled⟩ :=
        exists_enabled orderly.wellFounded kept.safe kept.keep thread busy
      obtain ⟨event, next, finishing, stepped, after⟩ :=
        finishing_step_of_enabled kept.safe enabled
      have member : ahead ∈ inside := by
        by_contra absent
        exact enabled.1 (outside ahead absent)
      have still : ∀ other ∉ inside, next.todo other = [] := by
        intro other absent
        have different : other ≠ ahead := fun same => absent (same ▸ member)
        rw [after, Function.update_of_ne different]
        exact outside other absent
      have fewer : remaining inside next < count := left ▸ remaining_lt member enabled.1 after
      obtain ⟨events, finish, run, done⟩ := ih _ fewer
        (kept.step orderly (admitted_of_finishing finishing) stepped) still rfl
      exact ⟨event :: events, finish, (Machine.Run.single finishing stepped).trans run, done⟩

/-- No admitted run ends in a deadlock, and from wherever it ends all threads can return
by going on alone. -/
theorem returns_of_run (orderly : program.Orderly permits admits enters nesting)
    {events : List (LockEvent Entry Operation)} {state : LockState Mutex Callback}
    (run : program.machine.Run (Admitted enters admits) {} events state) :
    ¬ state.Deadlocked ∧
      ∃ later finish, program.machine.Run Finishing state later finish ∧ finish.Returned := by
  have kept := Kept.of_run orderly run
  obtain ⟨inside, outside⟩ := kept.few
  exact ⟨LockState.not_deadlocked_of_enabled
      (exists_enabled orderly.wellFounded kept.safe kept.keep),
    exists_returned orderly kept outside⟩

end LockProgram

end GConnman.Foundation
