import GConnman.Connman.CallbackLocks
import GConnman.Foundation.LockProgress

/-!
# Threads that wait for each other

The handlers of signals, replies and agent calls of one bus all run on its loop
thread, and no other thread of the library holds a mutex when it locks one.  With one
bus, callbacks that may perform an operation at all can therefore not make threads
wait for each other.  With several buses the handlers of property changes can: each
runs under the mutex of its own registration, and a handler may register on a proxy of
another bus.  Handlers that register property handlers only in one direction are safe
there too, since everything else is locked in one order.
-/

namespace GConnman.Connman

open GConnman.Foundation GConnman.DBus

/-- What only the loop thread of a bus enters. -/
def EntryPoint.onLoop : EntryPoint → Bool
  | .onLoopStarted _ => true
  | .onPropertiesChangedCb _ _ _ => true
  | .replyCb _ _ _ _ => true
  | .getServicesCb _ _ _ _ => true
  | .getTechnologiesCb _ _ _ _ => true
  | .onServicesChangedCb _ _ _ => true
  | .onTechnologyAddedRemovedCb _ _ _ => true
  | .reportErrorCall _ _ _ _ => true
  | .operation _ => false
  | .construct _ => false
  | .start _ => false
  | .stop _ => false
  | .requestInputWorker _ _ _ => false

/-! ## What the pieces lock while something is held -/

section Pieces

variable {nests : Mutex → Mutex → Prop} {admits : UserCallback → ApiOperation → Prop}
  {held : Set Mutex}

abbrev KeepsScript (nests : Mutex → Mutex → Prop) (admits : UserCallback → ApiOperation → Prop) :=
  Keeps nests admits ApiOperation.body

theorem nested_guarded {mutex : Mutex} (nested : ∀ other ∈ held, nests other mutex) :
    Nested nests held (guarded mutex) := nested_section nested

theorem nested_sections {list : List Section}
    (unheld : ∀ entry mutex, Section.Owns entry mutex → mutex ∉ held)
    (nested : ∀ entry mutex, Section.Owns entry mutex → ∀ other ∈ held, nests other mutex) :
    Nested nests held (sections list) := by
  induction list with
  | nil => trivial
  | cons entry rest ih =>
      rw [sections, List.flatMap_cons]
      cases entry with
      | log =>
          exact nested_append (returns_guarded (unheld .log .log rfl))
            (nested_guarded (nested .log .log rfl)) ih
      | handshake id =>
          have free := unheld (.handshake id) (.handshake id) rfl
          have once := nested_guarded (nested (.handshake id) (.handshake id) rfl)
          exact nested_append (returns_append (returns_guarded free) (returns_guarded free))
            (nested_append (returns_guarded free) once once) ih

/-- An operation is one critical section or nothing. -/
theorem body_eq (operation : ApiOperation) :
    operation.body = [] ∨ ∃ mutex, operation.body = guarded mutex := by
  cases operation with
  | onPropertyChanged proxy callback =>
      cases callback with
      | none => exact .inl rfl
      | some callback => exact .inr ⟨_, rfl⟩
  | onServicesChanged manager callback =>
      cases callback with
      | none => exact .inl rfl
      | some callback => exact .inr ⟨_, rfl⟩
  | onTechnologiesChanged manager callback =>
      cases callback with
      | none => exact .inl rfl
      | some callback => exact .inr ⟨_, rfl⟩
  | objPath proxy => exact .inl rfl
  | internalAgentPath manager => exact .inl rfl
  | _ => exact .inr ⟨_, rfl⟩

theorem nested_body {operation : ApiOperation}
    (nested : ∀ mutex, .lock mutex ∈ operation.body → ∀ other ∈ held, nests other mutex) :
    Nested nests held operation.body := by
  rcases body_eq operation with nothing | ⟨mutex, locks⟩
  · rw [nothing]
    trivial
  · rw [locks] at nested ⊢
    exact nested_guarded (nested mutex List.mem_cons_self)

/-- Nothing is held, so everything may be locked. -/
theorem nested_nothing (mutex : Mutex) : ∀ other ∈ (∅ : Set Mutex), nests other mutex :=
  fun _ absent => nomatch absent

theorem keeps_guarded {mutex : Mutex} {rest : Script} (keeps : KeepsScript nests admits ∅ rest) :
    KeepsScript nests admits ∅ (guarded mutex ++ rest) :=
  keeps_append (returns_guarded (Set.notMem_empty mutex)) (nested_guarded (nested_nothing mutex))
    keeps

theorem nested_sections_empty (list : List Section) : Nested nests ∅ (sections list) :=
  nested_sections (fun _ _ _ => Set.notMem_empty _) fun _ mutex _ => nested_nothing mutex

theorem keeps_sections {list : List Section} {rest : Script}
    (keeps : KeepsScript nests admits ∅ rest) :
    KeepsScript nests admits ∅ (sections list ++ rest) :=
  keeps_append (returns_sections fun _ _ _ => Set.notMem_empty _) (nested_sections_empty list) keeps

/-- A callback that is called with nothing held keeps to every nesting. -/
theorem keeps_callIf {installed : Bool} {callback : UserCallback} {rest : Script}
    (keeps : KeepsScript nests admits ∅ rest) :
    KeepsScript nests admits ∅ (callIf installed callback ++ rest) := by
  cases installed with
  | true => exact ⟨fun operation _ => nested_body fun mutex _ => nested_nothing mutex, keeps⟩
  | false => exact keeps

theorem keeps_callIf_last {installed : Bool} {callback : UserCallback} :
    KeepsScript nests admits ∅ (callIf installed callback) := by
  rw [← List.append_nil (callIf installed callback)]
  exact keeps_callIf trivial

/-! ## Every entry point -/

/-- The order in which the library nests its mutexes, as far as admitted operations go. -/
structure NestsLibrary (nests : Mutex → Mutex → Prop)
    (admits : UserCallback → ApiOperation → Prop) : Prop where
  /-- `executeCallBack` ends with the decrement. -/
  decrement : ∀ proxy bus, nests (.proxy proxy) (.dbus bus)
  /-- The signal handlers of the lists build proxies. -/
  build : ∀ manager entry mutex, Section.Owns entry mutex → nests (.manager manager) mutex
  handler : ∀ proxy operation mutex, admits (.propertyChanged proxy) operation →
    .lock mutex ∈ operation.body → nests (.callback proxy) mutex

theorem keeps_executeCallBack (library : NestsLibrary nests admits) (bus : BusId)
    (proxy : ProxyId) (counter : Bool) :
    KeepsScript nests admits ∅ (executeCallBack bus proxy counter) := by
  have decrement : KeepsScript nests admits (insert (.proxy proxy) ∅)
      (onAnyAsyncDone bus ++ [.unlock (.proxy proxy)]) := by
    have nested : ∀ other ∈ (insert (.proxy proxy) ∅ : Set Mutex), nests other (.dbus bus) := by
      rintro other (rfl | absent)
      · exact library.decrement proxy bus
      · cases absent
    refine keeps_append (returns_guarded ?_) (nested_guarded nested) trivial
    rintro (same | absent)
    · cases same
    · cases absent
  cases counter with
  | false => exact ⟨nested_nothing _, decrement⟩
  | true =>
      refine ⟨nested_nothing _, ?_⟩
      change KeepsScript nests admits (insert (.proxy proxy) ∅ \ {.proxy proxy}) _
      rw [Set.insert_sdiff_self_of_notMem (Set.notMem_empty _)]
      exact ⟨fun operation _ => nested_body fun mutex _ => nested_nothing mutex,
        nested_nothing _, decrement⟩

theorem keeps_getProxiesCb (manager : ProxyId) (build : List Section)
    (success nonempty : Bool) (callback : UserCallback) :
    KeepsScript nests admits ∅ (getProxiesCb manager build success nonempty callback) := by
  apply keeps_sections
  cases success with
  | false => trivial
  | true => exact keeps_guarded keeps_callIf_last

theorem keeps_onListChangedCb (library : NestsLibrary nests admits) (manager : ProxyId)
    (process : List Section) (installed : Bool) (callback : UserCallback) :
    KeepsScript nests admits ∅ (onListChangedCb manager process installed callback) := by
  have unheld : ∀ entry mutex, Section.Owns entry mutex →
      mutex ∉ (insert (.manager manager) ∅ : Set Mutex) := by
    rintro entry mutex owned (rfl | absent)
    · cases entry <;> cases owned
    · cases absent
  have nested : ∀ entry mutex, Section.Owns entry mutex →
      ∀ other ∈ (insert (.manager manager) ∅ : Set Mutex), nests other mutex := by
    rintro entry mutex owned other (rfl | absent)
    · exact library.build manager entry mutex owned
    · cases absent
  refine ⟨nested_nothing _, keeps_append (returns_sections unheld)
    (nested_sections unheld nested) ?_⟩
  change KeepsScript nests admits (insert (.manager manager) ∅ \ {.manager manager}) _
  rw [Set.insert_sdiff_self_of_notMem (Set.notMem_empty _)]
  exact keeps_callIf_last

/-- What the handler of a property change locks is locked under the mutex of its
registration. -/
theorem keeps_propertyChanged (library : NestsLibrary nests admits) (proxy : ProxyId) :
    KeepsScript nests admits ∅
      [.lock (.callback proxy), .call (.propertyChanged proxy), .unlock (.callback proxy)] := by
  refine ⟨nested_nothing _, fun operation admitted => nested_body ?_, trivial⟩
  rintro mutex locks other (rfl | absent)
  · exact library.handler proxy operation mutex admitted locks
  · cases absent

/-- Threads that run no handlers hold nothing when they lock. -/
theorem keeps_of_not_onLoop {entry : EntryPoint} (elsewhere : entry.onLoop = false) :
    KeepsScript nests admits ∅ entry.script := by
  cases entry with
  | operation operation =>
      exact keeps_of_nested (nested_body fun mutex _ => nested_nothing mutex)
  | construct built => exact keeps_of_nested (nested_sections_empty built)
  | start bus => exact keeps_guarded (keeps_of_nested (nested_guarded (nested_nothing _)))
  | stop bus => exact keeps_of_nested (nested_guarded (nested_nothing _))
  | requestInputWorker manager asks after =>
      have ending : KeepsScript nests admits ∅ (sections after) :=
        keeps_of_nested (nested_sections_empty after)
      change KeepsScript nests admits ∅ (guarded (.manager manager) ++ callIf asks _ ++ _)
      rw [List.append_assoc]
      exact keeps_guarded (keeps_callIf ending)
  | _ => cases elsewhere

theorem keeps_entry (library : NestsLibrary nests admits) (entry : EntryPoint) :
    KeepsScript nests admits ∅ entry.script := by
  cases entry with
  | onLoopStarted bus => exact keeps_of_nested (nested_guarded (nested_nothing _))
  | onPropertiesChangedCb proxy update installed =>
      apply keeps_sections
      cases installed with
      | true => exact keeps_propertyChanged library proxy
      | false => trivial
  | replyCb bus proxy finish counter =>
      exact keeps_sections (keeps_executeCallBack library bus proxy counter)
  | getServicesCb manager build success nonempty =>
      exact keeps_getProxiesCb manager build success nonempty _
  | getTechnologiesCb manager build success nonempty =>
      exact keeps_getProxiesCb manager build success nonempty _
  | onServicesChangedCb manager process installed =>
      exact keeps_onListChangedCb library manager process installed _
  | onTechnologyAddedRemovedCb manager process installed =>
      exact keeps_onListChangedCb library manager process installed _
  | reportErrorCall manager before asks after =>
      have ending : KeepsScript nests admits ∅ (sections after) :=
        keeps_of_nested (nested_sections_empty after)
      change KeepsScript nests admits ∅
        (sections before ++ guarded (.manager manager) ++ callIf asks _ ++ sections after)
      rw [List.append_assoc, List.append_assoc]
      exact keeps_sections (keeps_guarded (keeps_callIf ending))
  | _ => exact keeps_of_not_onLoop rfl

end Pieces

/-! ## One bus -/

/-- The handlers of a bus run on its loop thread. -/
def entersOn (loop : ThreadId) (thread : ThreadId) (entry : EntryPoint) : Prop :=
  entry.onLoop = true → thread = loop

instance (loop thread : ThreadId) (entry : EntryPoint) : Decidable (entersOn loop thread entry) :=
  inferInstanceAs (Decidable (entry.onLoop = true → thread = loop))

/-- Only the loop thread nests mutexes. -/
def loopNesting (loop : ThreadId) : Nesting Mutex := fun thread _ _ => thread = loop

theorem orderly_oneLoop (loop : ThreadId) :
    library.Orderly permits permits (entersOn loop) (loopNesting loop) where
  disciplined := library_disciplined
  narrow _ _ permitted := permitted
  nests thread entry enters := by
    by_cases here : thread = loop
    · exact keeps_entry ⟨fun _ _ => here, fun _ _ _ _ => here, fun _ _ _ _ _ => here⟩ entry
    · have elsewhere : entry.onLoop = false := by
        rw [Bool.eq_false_iff]
        exact fun handles => here (enters handles)
      exact keeps_of_not_onLoop elsewhere
  wellFounded := Nesting.wellFounded_of_single fun _ _ _ here => here

/-- With one loop thread, no run whose callbacks perform permitted operations ends in a
deadlock, and from wherever it ends every thread can return from the library without
anybody entering it. -/
theorem oneLoop_returns (loop : ThreadId) {events : List (LockEvent EntryPoint ApiOperation)}
    {state : LockState Mutex UserCallback}
    (run : library.machine.Run (LockProgram.Admitted (entersOn loop) permits) {} events state) :
    ¬ state.Deadlocked ∧
      ∃ later finish, library.machine.Run LockProgram.Finishing state later finish ∧
        finish.Returned :=
  LockProgram.returns_of_run (orderly_oneLoop loop) run

/-- A property handler registers a handler on a second proxy while another thread is
registering one there. -/
theorem oneLoop_returns_contended :
    ∃ state : LockState Mutex UserCallback,
      state.Waits 0 1 ∧ ¬ state.Deadlocked ∧
        ∃ later finish, library.machine.Run LockProgram.Finishing state later finish ∧
          finish.Returned := by
  have executes : (library.machine.exec? (LockProgram.Admitted (entersOn 0) permits) {}
      [.start 0 (.onPropertiesChangedCb 1 [.log] true), .proceed 0, .proceed 0, .proceed 0,
        .start 1 (.operation (.onPropertyChanged 2 (some 8))), .proceed 1,
        .perform 0 (.onPropertyChanged 2 (some 7))]).any
      (fun state => state.todo 0 =
          [.lock (.callback 2), .unlock (.callback 2), .call (.propertyChanged 1),
            .unlock (.callback 1)] ∧
        state.owner (.callback 2) = some 1) = true := by
    decide
  obtain ⟨state, run, passes⟩ := Machine.Run.exists_of_exec executes
  obtain ⟨todo, owned⟩ := of_decide_eq_true passes
  exact ⟨state, ⟨.callback 2, _, todo, owned⟩, oneLoop_returns 0 run⟩

/-! ## Several buses -/

/-- Where a mutex stands: the mutexes of the registrations as their proxies do, and all
others above them, in one order. -/
def Mutex.rank : Mutex → Nat ⊕ ProxyId
  | .dbus _ => .inl 0
  | .log => .inl 0
  | .handshake _ => .inl 0
  | .proxy _ => .inl 1
  | .manager _ => .inl 2
  | .callback target => .inr target

/-- Handlers of property changes register handlers only on proxies above their own. -/
def permitsAbove (above : ProxyId → ProxyId → Prop) : UserCallback → ApiOperation → Prop
  | .propertyChanged proxy, operation => ∀ target ∈ operation.registersOn, above target proxy
  | _, _ => True

section Ranked

variable {above : ProxyId → ProxyId → Prop}

instance [∀ target proxy, Decidable (above target proxy)] (operation : ApiOperation) :
    (callback : UserCallback) → Decidable (permitsAbove above callback operation)
  | .propertyChanged proxy =>
      inferInstanceAs (Decidable (∀ target ∈ operation.registersOn, above target proxy))
  | .completion _ => .isTrue trivial
  | .servicesChanged _ => .isTrue trivial
  | .technologiesChanged _ => .isTrue trivial
  | .requestInput _ => .isTrue trivial
  | .reportError _ => .isTrue trivial

/-- The second mutex stands above the first. -/
def Mutex.Ascends (above : ProxyId → ProxyId → Prop) (first second : Mutex) : Prop :=
  Sum.Lex (· < ·) above second.rank first.rank

/-- A handler locks what stands above the mutex of its registration. -/
theorem ascends_of_permitted {proxy : ProxyId} {operation : ApiOperation} {mutex : Mutex}
    (permitted : permitsAbove above (.propertyChanged proxy) operation)
    (locks : .lock mutex ∈ operation.body) : Mutex.Ascends above (.callback proxy) mutex := by
  cases mutex with
  | callback target =>
      have registers := registersOn_eq_some_iff.mpr (locks_callback_iff.mp locks)
      exact .inr (permitted target registers)
  | log | dbus _ | manager _ | proxy _ | handshake _ => exact .sep _ _

theorem orderly_ranked (wellFounded : WellFounded above) :
    library.Orderly permits (permitsAbove above) (fun _ _ => True)
      (fun _ => Mutex.Ascends above) where
  disciplined := library_disciplined
  narrow callback operation permitted := by
    cases callback with
    | propertyChanged proxy =>
        intro registers
        have itself : above proxy proxy := permitted proxy registers
        exact wellFounded.asymmetric _ _ itself itself
    | _ => trivial
  nests _ entry _ := by
    refine keeps_entry ⟨fun _ _ => .inl (by decide), fun manager part mutex owned => ?_,
      fun proxy operation mutex admitted locks => ascends_of_permitted admitted locks⟩ entry
    cases part with
    | log =>
        cases owned
        exact .inl (by decide)
    | handshake id =>
        cases owned
        exact .inl (by decide)
  wellFounded :=
    Nesting.wellFounded_of_rank (Sum.lex_wf wellFounded_lt wellFounded) Mutex.rank
      fun _ _ _ ascends => ascends

end Ranked

/-- Two loop threads whose property handlers register handlers on each other's proxies
wait for each other, although neither handler performs an operation it may not. -/
theorem twoLoops_deadlock :
    ∃ (events : List (LockEvent EntryPoint ApiOperation)) (state : LockState Mutex UserCallback),
      library.machine.Run (LockProgram.Permitted permits) {} events state ∧ state.Deadlocked := by
  have executes : (library.machine.exec? (LockProgram.Permitted permits) {}
      [.start 0 (.onPropertiesChangedCb 1 [] true), .proceed 0,
        .start 1 (.onPropertiesChangedCb 2 [] true), .proceed 1,
        .perform 0 (.onPropertyChanged 2 (some 7)),
        .perform 1 (.onPropertyChanged 1 (some 7))]).any
      (fun state => (state.todo 0).head? = some (.lock (.callback 2)) ∧
        (state.todo 1).head? = some (.lock (.callback 1)) ∧
        state.owner (.callback 2) = some 1 ∧ state.owner (.callback 1) = some 0) = true := by
    decide
  obtain ⟨state, run, passes⟩ := Machine.Run.exists_of_exec executes
  obtain ⟨first, second, byOne, byZero⟩ := of_decide_eq_true passes
  obtain ⟨rest, here⟩ := List.head?_eq_some_iff.mp first
  obtain ⟨more, there⟩ := List.head?_eq_some_iff.mp second
  refine ⟨_, state, run, {0, 1}, ⟨0, .inl rfl⟩, ?_⟩
  rintro thread (rfl | rfl)
  · exact ⟨1, .inr rfl, _, rest, here, byOne⟩
  · exact ⟨0, .inl rfl, _, more, there, byZero⟩

/-- The same holds with any number of loop threads, when the handlers of property changes
register handlers only on proxies above their own, in an order of the proxies without
infinite ascending chains.  Without such an order two loop threads can deadlock. -/
theorem ranked_returns :
    (∀ above : ProxyId → ProxyId → Prop, WellFounded above →
      ∀ (events : List (LockEvent EntryPoint ApiOperation)) (state : LockState Mutex UserCallback),
        library.machine.Run (LockProgram.Permitted (permitsAbove above)) {} events state →
          ¬ state.Deadlocked ∧
            ∃ later finish, library.machine.Run LockProgram.Finishing state later finish ∧
              finish.Returned) ∧
      ∃ (events : List (LockEvent EntryPoint ApiOperation)) (state : LockState Mutex UserCallback),
        library.machine.Run (LockProgram.Permitted permits) {} events state ∧
          state.Deadlocked := by
  refine ⟨fun above wellFounded events state run => ?_, twoLoops_deadlock⟩
  exact LockProgram.returns_of_run (orderly_ranked wellFounded) (run.mono fun _ event permitted =>
    ⟨permitted, by cases event <;> trivial⟩)

/-- Two loop threads run property handlers, of which one registers a handler on the older
proxy of the other. -/
theorem ranked_returns_crossed :
    ∃ state : LockState Mutex UserCallback,
      state.Waits 0 1 ∧ ¬ state.Deadlocked ∧
        ∃ later finish, library.machine.Run LockProgram.Finishing state later finish ∧
          finish.Returned := by
  have executes : (library.machine.exec? (LockProgram.Permitted (permitsAbove (· < ·))) {}
      [.start 0 (.onPropertiesChangedCb 2 [] true), .proceed 0,
        .start 1 (.onPropertiesChangedCb 1 [] true), .proceed 1,
        .perform 1 (.properties 2), .proceed 1,
        .perform 0 (.onPropertyChanged 1 (some 7))]).any
      (fun state => state.todo 0 =
          [.lock (.callback 1), .unlock (.callback 1), .call (.propertyChanged 2),
            .unlock (.callback 2)] ∧
        state.owner (.callback 1) = some 1) = true := by
    decide
  obtain ⟨state, run, passes⟩ := Machine.Run.exists_of_exec executes
  obtain ⟨todo, owned⟩ := of_decide_eq_true passes
  exact ⟨state, ⟨.callback 1, _, todo, owned⟩, ranked_returns.1 _ wellFounded_lt _ _ run⟩

end GConnman.Connman
