import GConnman.DBus.RequestSystem
import GConnman.Foundation.LockDiscipline

/-!
# User callbacks and the mutexes of the library

The library has a mutex for its log, one in every `DBus`, one in every `Manager`,
two in every `DBusProxy`, and one on the stack of every constructor and
`connectSignal` that hands work to the loop.  This module lists what each entry
point of the library locks around the user callbacks it calls, and what each
public operation locks, and settles which operations a callback may perform.
-/

namespace GConnman.Connman

open GConnman.Foundation GConnman.DBus

/-! ## Mutexes, callbacks and operations -/

abbrev BusId := Nat

inductive Mutex where
  /-- `Log::mutex()`. -/
  | log
  /-- `DBus::mtx_`. -/
  | dbus (bus : BusId)
  /-- `Manager::mtx_`. -/
  | manager (manager : ProxyId)
  /-- `DBusProxy::mtx_`. -/
  | proxy (proxy : ProxyId)
  /-- `DBusProxy::cb_mtx_`. -/
  | callback (proxy : ProxyId)
  /-- The local mutex of a constructor or of `connectSignal`. -/
  | handshake (id : Nat)
  deriving DecidableEq, Repr

/-- The callbacks of the user that the library invokes. -/
inductive UserCallback where
  | completion (proxy : ProxyId)
  | propertyChanged (proxy : ProxyId)
  | servicesChanged (manager : ProxyId)
  | technologiesChanged (manager : ProxyId)
  | requestInput (manager : ProxyId)
  | reportError (manager : ProxyId)
  deriving DecidableEq, Repr

/-- The public operations of `Manager`, `Service`, `Technology` and `Clock`. -/
inductive ApiOperation where
  | properties (proxy : ProxyId)
  | objPath (proxy : ProxyId)
  | request (proxy : ProxyId) (operation : Operation)
  | onPropertyChanged (proxy : ProxyId) (callback : Option CallbackId)
  | services (manager : ProxyId)
  | technologies (manager : ProxyId)
  | onServicesChanged (manager : ProxyId) (callback : Option CallbackId)
  | onTechnologiesChanged (manager : ProxyId) (callback : Option CallbackId)
  | onRequestInputPassphrase (manager : ProxyId) (callback : Option CallbackId)
  | onRequestInputHiddenNetworkName (manager : ProxyId) (callback : Option CallbackId)
  | onRequestInputInputWPAEnterprise (manager : ProxyId) (callback : Option CallbackId)
  | onRequestInputInputWISPrEnabled (manager : ProxyId) (callback : Option CallbackId)
  | onReportError (manager : ProxyId) (callback : Option CallbackId)
  | internalAgentPath (manager : ProxyId)
  deriving DecidableEq, Repr

abbrev Script := List (LockAction Mutex UserCallback)

/-! ## Critical sections -/

/-- A `std::lock_guard` whose scope locks nothing else and calls nobody. -/
def guarded (mutex : Mutex) : Script := [.lock mutex, .unlock mutex]

/-- What the library does with a mutex of its own between two other steps. -/
inductive Section where
  /-- `LCM_LOG` while the log is enabled. -/
  | log
  /-- A constructor of a proxy or of the agent, or `connectSignal`: the destroy
  notify sets `done`, then the caller waits for it. -/
  | handshake (id : Nat)
  deriving DecidableEq, Repr

def Section.script : Section → Script
  | .log => guarded .log
  | .handshake id => guarded (.handshake id) ++ guarded (.handshake id)

/-- How many messages are logged and how many objects are built depends on the
data, so every entry point takes them as arguments. -/
def sections (list : List Section) : Script := list.flatMap Section.script

/-- A call that is made when a callback is there. -/
def callIf (installed : Bool) (callback : UserCallback) : Script :=
  if installed then [.call callback] else []

/-! ## The scripts of the source -/

/-- `prepareCallback`; sending the request takes no lock. -/
def prepareCallback (proxy : ProxyId) : Script := guarded (.proxy proxy)

def onAnyAsyncDone (bus : BusId) : Script := guarded (.dbus bus)

/-- `executeCallBack`. -/
def executeCallBack (bus : BusId) (proxy : ProxyId) (counter : Bool) : Script :=
  [.lock (.proxy proxy)] ++
    (if counter then
      [.unlock (.proxy proxy), .call (.completion proxy), .lock (.proxy proxy)]
    else []) ++
    onAnyAsyncDone bus ++ [.unlock (.proxy proxy)]

/-- `get_proxies_cb`: only the exchange of the list and the copy of the callback
are under the lock. -/
def getProxiesCb (manager : ProxyId) (build : List Section) (success nonempty : Bool)
    (callback : UserCallback) : Script :=
  sections build ++
    if success then guarded (.manager manager) ++ callIf nonempty callback else []

/-- The signal handlers of the lists, which build and erase proxies under the lock. -/
def onListChangedCb (manager : ProxyId) (process : List Section) (installed : Bool)
    (callback : UserCallback) : Script :=
  .lock (.manager manager) ::
    (sections process ++ .unlock (.manager manager) :: callIf installed callback)

/-- What an operation of the user locks. -/
def ApiOperation.body : ApiOperation → Script
  | .properties proxy => guarded (.proxy proxy)
  | .objPath _ => []
  | .request proxy _ => prepareCallback proxy
  | .onPropertyChanged proxy (some _) => guarded (.callback proxy)
  | .onPropertyChanged _ none => []
  | .services manager => guarded (.manager manager)
  | .technologies manager => guarded (.manager manager)
  | .onServicesChanged manager (some _) => guarded (.manager manager)
  | .onServicesChanged _ none => []
  | .onTechnologiesChanged manager (some _) => guarded (.manager manager)
  | .onTechnologiesChanged _ none => []
  | .onRequestInputPassphrase manager _ => guarded (.manager manager)
  | .onRequestInputHiddenNetworkName manager _ => guarded (.manager manager)
  | .onRequestInputInputWPAEnterprise manager _ => guarded (.manager manager)
  | .onRequestInputInputWISPrEnabled manager _ => guarded (.manager manager)
  | .onReportError manager _ => guarded (.manager manager)
  | .internalAgentPath _ => []

/-- Where threads enter the library. -/
inductive EntryPoint where
  /-- A thread of the user, outside every callback. -/
  | operation (operation : ApiOperation)
  /-- `Connman::Connman` after the loop runs, and everything else that only builds. -/
  | construct (built : List Section)
  | start (bus : BusId)
  | onLoopStarted (bus : BusId)
  | stop (bus : BusId)
  | onPropertiesChangedCb (proxy : ProxyId) (update : List Section) (installed : Bool)
  /-- `finishAsyncCall` and `get_property_cb`. -/
  | replyCb (bus : BusId) (proxy : ProxyId) (finish : List Section) (counter : Bool)
  | getServicesCb (manager : ProxyId) (build : List Section) (success : Bool) (nonempty : Bool)
  | getTechnologiesCb (manager : ProxyId) (build : List Section) (success : Bool)
      (nonempty : Bool)
  | onServicesChangedCb (manager : ProxyId) (process : List Section) (installed : Bool)
  | onTechnologyAddedRemovedCb (manager : ProxyId) (process : List Section) (installed : Bool)
  /-- The worker of `RequestInput`. -/
  | requestInputWorker (manager : ProxyId) (asks : Bool) (after : List Section)
  | reportErrorCall (manager : ProxyId) (before : List Section) (asks : Bool)
      (after : List Section)
  deriving DecidableEq, Repr

def EntryPoint.script : EntryPoint → Script
  | .operation performed => performed.body
  | .construct built => sections built
  | .start bus => guarded (.dbus bus) ++ guarded (.dbus bus)
  | .onLoopStarted bus => guarded (.dbus bus)
  | .stop bus => guarded (.dbus bus)
  | .onPropertiesChangedCb proxy update installed =>
      sections update ++
        -- the user's handler runs under the lock
        (if installed then
          [.lock (.callback proxy), .call (.propertyChanged proxy), .unlock (.callback proxy)]
        else [])
  | .replyCb bus proxy finish counter => sections finish ++ executeCallBack bus proxy counter
  | .getServicesCb manager build success nonempty =>
      getProxiesCb manager build success nonempty (.servicesChanged manager)
  | .getTechnologiesCb manager build success nonempty =>
      getProxiesCb manager build success nonempty (.technologiesChanged manager)
  | .onServicesChangedCb manager process installed =>
      onListChangedCb manager process installed (.servicesChanged manager)
  | .onTechnologyAddedRemovedCb manager process installed =>
      onListChangedCb manager process installed (.technologiesChanged manager)
  | .requestInputWorker manager asks after =>
      guarded (.manager manager) ++ callIf asks (.requestInput manager) ++ sections after
  | .reportErrorCall manager before asks after =>
      sections before ++ guarded (.manager manager) ++ callIf asks (.reportError manager) ++
        sections after

/-- The library as threads see it. -/
def library : LockProgram Mutex UserCallback EntryPoint ApiOperation where
  script := EntryPoint.script
  body := ApiOperation.body

/-- The proxy whose property handler an operation replaces. -/
def ApiOperation.registersOn : ApiOperation → Option ProxyId
  | .onPropertyChanged proxy (some _) => some proxy
  | _ => none

/-- Everything but the registration of a property handler on the proxy whose
property handler runs. -/
def permits : UserCallback → ApiOperation → Prop
  | .propertyChanged proxy, operation => operation.registersOn ≠ some proxy
  | _, _ => True

instance (operation : ApiOperation) :
    (callback : UserCallback) → Decidable (permits callback operation)
  | .propertyChanged proxy => inferInstanceAs (Decidable (operation.registersOn ≠ some proxy))
  | .completion _ => .isTrue trivial
  | .servicesChanged _ => .isTrue trivial
  | .technologiesChanged _ => .isTrue trivial
  | .requestInput _ => .isTrue trivial
  | .reportError _ => .isTrue trivial

/-! ## What the pieces lock -/

theorem returns_guarded {held : Set Mutex} {mutex : Mutex} (unheld : mutex ∉ held) :
    Returns held held (guarded mutex) := returns_section unheld

/-- The mutexes a section uses. -/
def Section.Owns : Section → Mutex → Prop
  | .log, mutex => mutex = .log
  | .handshake id, mutex => mutex = .handshake id

theorem returns_sections {held : Set Mutex} {list : List Section}
    (unheld : ∀ entry mutex, Section.Owns entry mutex → mutex ∉ held) :
    Returns held held (sections list) := by
  induction list with
  | nil => rfl
  | cons entry rest ih =>
      rw [sections, List.flatMap_cons]
      refine returns_append ?_ ih
      cases entry with
      | log => exact returns_guarded (unheld .log .log rfl)
      | handshake id =>
          have free := unheld (.handshake id) (.handshake id) rfl
          exact returns_append (returns_guarded free) (returns_guarded free)

/-- An operation takes one mutex at most and gives it back. -/
theorem returns_body {held : Set Mutex} {operation : ApiOperation}
    (unheld : ∀ mutex, .lock mutex ∈ operation.body → mutex ∉ held) :
    Returns held held operation.body := by
  cases operation with
  | objPath proxy => rfl
  | internalAgentPath manager => rfl
  | onPropertyChanged proxy callback =>
      cases callback with
      | none => rfl
      | some callback => exact returns_guarded (unheld _ List.mem_cons_self)
  | onServicesChanged manager callback =>
      cases callback with
      | none => rfl
      | some callback => exact returns_guarded (unheld _ List.mem_cons_self)
  | onTechnologiesChanged manager callback =>
      cases callback with
      | none => rfl
      | some callback => exact returns_guarded (unheld _ List.mem_cons_self)
  | _ => exact returns_guarded (unheld _ List.mem_cons_self)

/-- Only the registration of a property handler takes the mutex of that handler. -/
theorem locks_callback_iff {operation : ApiOperation} {proxy : ProxyId} :
    .lock (.callback proxy) ∈ operation.body ↔
      ∃ callback, operation = .onPropertyChanged proxy (some callback) := by
  constructor
  · intro locks
    cases operation with
    | onPropertyChanged target callback =>
        cases callback with
        | none => cases locks
        | some callback =>
            simp only [ApiOperation.body, guarded, List.mem_cons, LockAction.lock.injEq,
              Mutex.callback.injEq, reduceCtorEq, List.not_mem_nil, or_false] at locks
            exact ⟨callback, by rw [locks]⟩
    | onServicesChanged manager callback =>
        cases callback <;> simp [ApiOperation.body, guarded] at locks
    | onTechnologiesChanged manager callback =>
        cases callback <;> simp [ApiOperation.body, guarded] at locks
    | _ => simp [ApiOperation.body, guarded, prepareCallback] at locks
  · rintro ⟨callback, rfl⟩
    exact List.mem_cons_self

theorem registersOn_eq_some_iff {operation : ApiOperation} {proxy : ProxyId} :
    operation.registersOn = some proxy ↔
      ∃ callback, operation = .onPropertyChanged proxy (some callback) := by
  constructor
  · intro registers
    cases operation with
    | onPropertyChanged target callback =>
        cases callback with
        | none => cases registers
        | some callback =>
            cases registers
            exact ⟨callback, rfl⟩
    | _ => cases registers
  · rintro ⟨callback, rfl⟩
    rfl

/-! ## Every entry point -/

abbrev SafeScript := Safe permits ApiOperation.body

theorem safe_nil : SafeScript ∅ [] := rfl

/-- A callback that is called with nothing held may do anything. -/
theorem safe_call {callback : UserCallback} {rest : Script}
    (free : ∀ operation, permits callback operation) (safe : SafeScript ∅ rest) :
    SafeScript ∅ (.call callback :: rest) := by
  refine ⟨fun operation => ⟨fun _ => ?_, fun refused => absurd (free operation) refused⟩, safe⟩
  exact returns_body fun _ _ => Set.notMem_empty _

theorem safe_callIf {installed : Bool} {callback : UserCallback} {rest : Script}
    (free : ∀ operation, permits callback operation) (safe : SafeScript ∅ rest) :
    SafeScript ∅ (callIf installed callback ++ rest) := by
  cases installed with
  | true => exact safe_call free safe
  | false => exact safe

theorem safe_callIf_last {installed : Bool} {callback : UserCallback}
    (free : ∀ operation, permits callback operation) :
    SafeScript ∅ (callIf installed callback) := by
  cases installed with
  | true => exact safe_call free safe_nil
  | false => exact safe_nil

theorem safe_sections {list : List Section} {rest : Script} (safe : SafeScript ∅ rest) :
    SafeScript ∅ (sections list ++ rest) :=
  safe_append (returns_sections fun _ _ _ => Set.notMem_empty _) safe

theorem safe_guarded {mutex : Mutex} {rest : Script} (safe : SafeScript ∅ rest) :
    SafeScript ∅ (guarded mutex ++ rest) :=
  safe_append (returns_guarded (Set.notMem_empty mutex)) safe

/-- The handler of a property change runs with the mutex of its registration held. -/
theorem safe_propertyChanged (proxy : ProxyId) :
    SafeScript ∅
      [.lock (.callback proxy), .call (.propertyChanged proxy), .unlock (.callback proxy)] := by
  refine ⟨Set.notMem_empty _, fun operation => ⟨fun permitted => ?_, fun refused => ?_⟩,
    Set.mem_insert _ _, Set.insert_sdiff_self_of_notMem (Set.notMem_empty _)⟩
  · apply returns_body
    rintro mutex locks (rfl | held)
    · obtain ⟨callback, rfl⟩ := locks_callback_iff.mp locks
      exact permitted (registersOn_eq_some_iff.mpr ⟨callback, rfl⟩)
    · exact held
  · have registers : operation.registersOn = some proxy := not_not.mp refused
    obtain ⟨callback, rfl⟩ := registersOn_eq_some_iff.mp registers
    exact ⟨.callback proxy, [.unlock (.callback proxy)], rfl, Set.mem_insert _ _⟩

theorem safe_executeCallBack (bus : BusId) (proxy : ProxyId) (counter : Bool) :
    SafeScript ∅ (executeCallBack bus proxy counter) := by
  -- the decrement locks the bus while the proxy is locked
  have decrement : SafeScript (insert (.proxy proxy) ∅)
      (onAnyAsyncDone bus ++ [.unlock (.proxy proxy)]) := by
    refine safe_append (returns_guarded ?_) ⟨Set.mem_insert _ _, ?_⟩
    · rintro (same | held)
      · cases same
      · exact held
    · exact Set.insert_sdiff_self_of_notMem (Set.notMem_empty _)
  cases counter with
  | false => exact ⟨Set.notMem_empty _, decrement⟩
  | true =>
      refine ⟨Set.notMem_empty _, Set.mem_insert _ _, ?_⟩
      rw [Set.insert_sdiff_self_of_notMem (Set.notMem_empty _)]
      exact safe_call (fun _ => trivial) ⟨Set.notMem_empty _, decrement⟩

theorem safe_getProxiesCb (manager : ProxyId) (build : List Section) (success nonempty : Bool)
    {callback : UserCallback} (free : ∀ operation, permits callback operation) :
    SafeScript ∅ (getProxiesCb manager build success nonempty callback) := by
  apply safe_sections
  cases success with
  | false => exact safe_nil
  | true =>
      exact safe_guarded (safe_callIf_last free)

theorem safe_onListChangedCb (manager : ProxyId) (process : List Section) (installed : Bool)
    {callback : UserCallback} (free : ∀ operation, permits callback operation) :
    SafeScript ∅ (onListChangedCb manager process installed callback) := by
  refine safe_section (Set.notMem_empty _) (returns_sections ?_) (safe_callIf_last free)
  rintro entry mutex owned (rfl | held)
  · cases entry <;> cases owned
  · exact held

/-- Every entry point of the library is disciplined. -/
theorem library_disciplined : library.Disciplined permits := by
  intro entry
  cases entry with
  | operation operation =>
      exact safe_of_returns (returns_body fun _ _ => Set.notMem_empty _)
  | construct built => exact safe_of_returns (returns_sections fun _ _ _ => Set.notMem_empty _)
  | start bus =>
      have waits : SafeScript ∅ (guarded (.dbus bus)) :=
        safe_of_returns (returns_guarded (Set.notMem_empty _))
      exact safe_guarded waits
  | onLoopStarted bus => exact safe_of_returns (returns_guarded (Set.notMem_empty _))
  | stop bus => exact safe_of_returns (returns_guarded (Set.notMem_empty _))
  | onPropertiesChangedCb proxy update installed =>
      apply safe_sections
      cases installed with
      | true => exact safe_propertyChanged proxy
      | false => exact safe_nil
  | replyCb bus proxy finish counter => exact safe_sections (safe_executeCallBack bus proxy counter)
  | getServicesCb manager build success nonempty =>
      exact safe_getProxiesCb manager build success nonempty fun _ => trivial
  | getTechnologiesCb manager build success nonempty =>
      exact safe_getProxiesCb manager build success nonempty fun _ => trivial
  | onServicesChangedCb manager process installed =>
      exact safe_onListChangedCb manager process installed fun _ => trivial
  | onTechnologyAddedRemovedCb manager process installed =>
      exact safe_onListChangedCb manager process installed fun _ => trivial
  | requestInputWorker manager asks after =>
      have ending : SafeScript ∅ (sections after) :=
        safe_of_returns (returns_sections fun _ _ _ => Set.notMem_empty _)
      have asked : SafeScript ∅ (callIf asks (.requestInput manager) ++ sections after) :=
        safe_callIf (fun _ => trivial) ending
      change SafeScript ∅ (guarded (.manager manager) ++ callIf asks _ ++ sections after)
      rw [List.append_assoc]
      exact safe_guarded asked
  | reportErrorCall manager before asks after =>
      have ending : SafeScript ∅ (sections after) :=
        safe_of_returns (returns_sections fun _ _ _ => Set.notMem_empty _)
      have asked : SafeScript ∅ (callIf asks (.reportError manager) ++ sections after) :=
        safe_callIf (fun _ => trivial) ending
      change SafeScript ∅
        (sections before ++ guarded (.manager manager) ++ callIf asks _ ++ sections after)
      rw [List.append_assoc, List.append_assoc]
      exact safe_sections (safe_guarded asked)

/-! ## Every run -/

/-- In every run, from threads that hold nothing, no thread ever tries to lock a
mutex it holds, if and only if no property handler registers a property handler
on its own proxy. -/
theorem callbacks_reentrant_iff {events : List (LockEvent EntryPoint ApiOperation)}
    {state : LockState Mutex UserCallback}
    (run : library.machine.Run Machine.anyStep {} events state) :
    ¬ state.SelfLocking ↔ library.machine.Run (LockProgram.Permitted permits) {} events state :=
  LockProgram.not_selfLocking_iff library_disciplined run

/-- A completion callback reads the properties of its proxy and registers a
property handler on it. -/
theorem completion_registers :
    ∃ state : LockState Mutex UserCallback,
      library.machine.Run Machine.anyStep {}
          [.start 0 (.replyCb 0 1 [.log] true), .proceed 0, .proceed 0, .proceed 0, .proceed 0,
            .perform 0 (.properties 1), .proceed 0, .proceed 0,
            .perform 0 (.onPropertyChanged 1 (some 7)), .proceed 0, .proceed 0, .leave 0,
            .proceed 0]
          state ∧
        ¬ state.SelfLocking := by
  have executes : (library.machine.exec? (LockProgram.Permitted permits) {}
      [.start 0 (.replyCb 0 1 [.log] true), .proceed 0, .proceed 0, .proceed 0, .proceed 0,
        .perform 0 (.properties 1), .proceed 0, .proceed 0,
        .perform 0 (.onPropertyChanged 1 (some 7)), .proceed 0, .proceed 0, .leave 0,
        .proceed 0]).any
      (fun state => state.owner (.proxy 1) = some 0) = true := by
    decide
  obtain ⟨state, permitted, -⟩ := Machine.Run.exists_of_exec executes
  have run := permitted.mono fun _ _ _ => trivial
  exact ⟨state, run, (callbacks_reentrant_iff run).mpr permitted⟩

/-- A property handler that registers a new property handler on its own proxy
locks the mutex it is called under. -/
theorem property_handler_selfLocking :
    ¬ ∀ (events : List (LockEvent EntryPoint ApiOperation))
        (state : LockState Mutex UserCallback),
      library.machine.Run Machine.anyStep {} events state → ¬ state.SelfLocking := by
  intro claim
  have executes : (library.machine.exec? Machine.anyStep {}
      [.start 0 (.onPropertiesChangedCb 1 [] true), .proceed 0,
        .perform 0 (.onPropertyChanged 1 (some 7))]).any
      (fun state => state.todo 0 =
          [.lock (.callback 1), .unlock (.callback 1), .call (.propertyChanged 1),
            .unlock (.callback 1)] ∧
        state.owner (.callback 1) = some 0) = true := by
    decide
  obtain ⟨state, run, passes⟩ := Machine.Run.exists_of_exec executes
  obtain ⟨todo, owned⟩ := of_decide_eq_true passes
  exact claim _ state run ⟨0, .callback 1, _, todo, owned⟩

end GConnman.Connman
