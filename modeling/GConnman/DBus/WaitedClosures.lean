import GConnman.Foundation.HandshakeProgress

/-!
# Closures the library waits for

The constructor of `DBusProxy`, `connectSignal` and the constructor of `Agent` run a
closure on the loop thread and wait for it over a record on their stack.  They differ
in the closure only.  The completion of the closure unlocks the record's mutex and
then notifies its condition variable, and nothing makes the waiter stay that long.
-/

namespace GConnman.DBus

open GConnman.Foundation

/-- The identity of a C++ object. -/
abbrev ObjectId := Nat

/-- The closures, with what their records hold. -/
inductive WaitedClosure where
  /-- `DBusProxy::DBusProxy`. -/
  | newProxy (proxy : ObjectId) (name objPath interfaceName : String)
  /-- `DBusProxy::connectSignal`. -/
  | connectSignal (proxy : ObjectId) (signalName : String)
  /-- `Agent::Agent`. -/
  | registerObject (agent : ObjectId) (path : String)
  deriving DecidableEq, Repr

/-- What the closures have made in GLib. -/
structure GObjects where
  /-- The `GDBusProxy` objects, by the proxy they were made for. -/
  proxies : List (ObjectId × String × String × String) := []
  handlers : List (ObjectId × String) := []
  exported : List (ObjectId × String) := []
  deriving DecidableEq, Repr

/-- Run a closure.  The answer is the error of the GLib call, if any, and the result
what the record holds as its error. -/
def runClosure : WaitedClosure → Option String → GObjects → GObjects × String
  | .newProxy proxy name objPath interfaceName, none, objects =>
      ({ objects with
          proxies := (proxy, name, objPath, interfaceName) :: objects.proxies
          handlers := (proxy, "g-signal::PropertyChanged") :: objects.handlers }, "")
  | .newProxy _ _ _ _, some message, objects => (objects, "Failed to create proxy: " ++ message)
  | .connectSignal proxy signalName, _, objects =>
      ({ objects with handlers := (proxy, signalName) :: objects.handlers }, "")
  | .registerObject agent path, none, objects =>
      ({ objects with exported := (agent, path) :: objects.exported }, "")
  | .registerObject _ _, some message, objects => (objects, "Failed to register agent: " ++ message)

/-- The waiter throws exactly on a record that holds an error. -/
def throws (error : String) : Bool := error ≠ ""

/-- What a constructor that does not throw has made. -/
def Made (objects : GObjects) : WaitedClosure → Prop
  | .newProxy proxy name objPath interfaceName =>
      (proxy, name, objPath, interfaceName) ∈ objects.proxies ∧
        (proxy, "g-signal::PropertyChanged") ∈ objects.handlers
  | .connectSignal proxy signalName => (proxy, signalName) ∈ objects.handlers
  | .registerObject agent path => (agent, path) ∈ objects.exported

/-- The handshakes of a process with one loop thread. -/
def waitedClosures (Thread : Type) [DecidableEq Thread] :
    Machine (HandshakeState Thread GObjects WaitedClosure String)
      (HandshakeEvent Thread WaitedClosure (Option String)) :=
  HandshakeState.machine runClosure

theorem made_runClosure (closure : WaitedClosure) (answer : Option String) (objects : GObjects)
    (normal : throws (runClosure closure answer objects).2 = false) :
    Made (runClosure closure answer objects).1 closure := by
  cases closure with
  | newProxy proxy name objPath interfaceName =>
      cases answer with
      | none => exact ⟨List.mem_cons_self, List.mem_cons_self⟩
      | some message => simp [runClosure, throws] at normal
  | connectSignal proxy signalName => exact List.mem_cons_self
  | registerObject agent path =>
      cases answer with
      | none => exact List.mem_cons_self
      | some message => simp [runClosure, throws] at normal

/-- Closures only add to what there is. -/
theorem runClosure_grows (closure : WaitedClosure) (answer : Option String) (objects : GObjects) :
    objects.proxies ⊆ (runClosure closure answer objects).1.proxies ∧
      objects.handlers ⊆ (runClosure closure answer objects).1.handlers ∧
      objects.exported ⊆ (runClosure closure answer objects).1.exported := by
  cases closure <;> cases answer <;> simp [runClosure]

theorem Made.runClosure {objects : GObjects} {closure : WaitedClosure}
    (made : Made objects closure) (other : WaitedClosure) (answer : Option String) :
    Made (runClosure other answer objects).1 closure := by
  obtain ⟨proxies, handlers, exported⟩ := runClosure_grows other answer objects
  cases closure with
  | newProxy => exact ⟨proxies made.1, handlers made.2⟩
  | connectSignal => exact handlers made
  | registerObject => exact exported made

/-- A closure has made what it was to make, or its waiter will throw. -/
def KeepsWord (closure : WaitedClosure) (error : String) (objects : GObjects) : Prop :=
  throws error = false → Made objects closure

variable {Thread : Type} [DecidableEq Thread]
  {guard : HandshakeState Thread GObjects WaitedClosure String →
    HandshakeEvent Thread WaitedClosure (Option String) → Prop}
  {events : List (HandshakeEvent Thread WaitedClosure (Option String))}
  {finish : HandshakeState Thread GObjects WaitedClosure String}

/-- A waiter whose record holds no error finds made what its closure was to make. -/
theorem made_of_left {objects : GObjects}
    (run : (waitedClosures Thread).Run guard (.start Thread objects) events finish) {id : Nat}
    {record : Handshake WaitedClosure String} (found : finish.records id = some record)
    (passed : record.waiter.passed = true) :
    ∃ error, record.result = some error ∧
      (throws error = false → Made finish.world record.closure) := by
  have sound := HandshakeState.sound_of_run run (HandshakeState.sound_start objects)
  obtain ⟨error, result⟩ :=
    Option.isSome_iff_exists.mp ((sound.consistent id record found).closureRan passed)
  have delivered := HandshakeState.delivered_of_run made_runClosure
    (fun _ _ _ other answer kept normal => (kept normal).runClosure other answer) run
    (HandshakeState.delivered_start objects KeepsWord)
  exact ⟨error, result, delivered id record error found result⟩

/-- In a run in which no record is destroyed between the unlocking and the notification
the loop thread uses no record late; and a record destroyed in between is used late in
the next step of the loop thread.  In every run a waiter goes on only when its closure
has run. -/
theorem record_outlives_last_use (objects : GObjects) :
    ((waitedClosures Thread).Run (fun state event => state.outlives event = true)
        (.start Thread objects) events finish → finish.lateUses = []) ∧
    ((waitedClosures Thread).Run Machine.anyStep (.start Thread objects) events finish →
      (∀ id record, finish.records id = some record → record.waiter.passed = true →
        record.result.isSome) ∧
      ∀ event next, finish.outlives event = false →
        (waitedClosures Thread).step? finish event = some next →
        ∃ later, (waitedClosures Thread).step? next (.complete .notify) = some later ∧
          later.lateUses ≠ []) := by
  constructor
  · intro run
    exact (HandshakeState.settled_of_run run (HandshakeState.settled_start objects)).clean
  · intro run
    have sound := HandshakeState.sound_of_run run (HandshakeState.sound_start objects)
    constructor
    · intro id record found passed
      exact (sound.consistent id record found).closureRan passed
    · intro event next early stepped
      have effect : finish.Effect runClosure event next := HandshakeState.effect_of_step stepped
      exact HandshakeState.exists_lateUse sound effect early

/-- Every waiter gets away: once nothing new is posted, the threads take only so many
steps, however they are ordered, and then each closure has run, each waiter has gone on
with what its closure made or has an error to throw, and no record was used late. -/
theorem waiters_return {objects : GObjects}
    (run : (waitedClosures Thread).Run (fun state event => state.outlives event = true)
      (.start Thread objects) events finish) :
    (waitedClosures Thread).Attains HandshakeState.Proceeds
      (fun state => state.Returned ∧ ∀ id record, state.records id = some record →
        ∃ error, record.result = some error ∧
          (throws error = false → Made state.world record.closure)) finish := by
  have tended := HandshakeState.tended_of_run run (HandshakeState.tended_start objects)
  have attains : (waitedClosures Thread).Attains HandshakeState.Proceeds
      HandshakeState.Returned finish := HandshakeState.progress.attains tended
  refine ⟨attains.bounded, fun later state more stuck => ?_⟩
  have returned := attains.stops later state more stuck
  refine ⟨returned, fun id record found => ?_⟩
  have whole : (waitedClosures Thread).Run Machine.anyStep _ _ state :=
    (run.mono fun _ _ _ => trivial).trans (more.mono fun _ _ _ => trivial)
  exact made_of_left whole found (by rw [(returned.gone id record found).1]; rfl)

/-! ## One proxy -/

/-- The loop thread has run the closure of a new proxy, set the flag and unlocked, and
the waiter has seen the flag before it waited at all. -/
def seenEarly : List (HandshakeEvent Nat WaitedClosure (Option String)) :=
  [.post 0 (.newProxy 0 "net.connman" "/" "net.connman.Clock"), .dispatch 0 none,
    .complete .lock, .complete .mark, .complete .unlock,
    .wait 0 .lock, .wait 0 .check, .wait 0 .unlock]

/-- The waiter can destroy its record before the notification. -/
theorem seenEarly_executes :
    ((waitedClosures Nat).exec? Machine.anyStep (.start Nat {}) seenEarly).any (fun state =>
      !state.outlives (.wait 0 .destroy : HandshakeEvent Nat WaitedClosure (Option String)) &&
        ((waitedClosures Nat).step? state (.wait 0 .destroy)).isSome) = true := by
  decide

/-- The waiter destroys its record after the notification. -/
theorem notifiedFirst_executes :
    ((waitedClosures Nat).exec? (fun state event => state.outlives event = true) (.start Nat {})
      (seenEarly ++ [.complete .notify, .wait 0 .destroy])).any (fun state =>
        (state.records 0).any fun record => record.waiter.passed) = true := by
  decide

theorem record_outlives_last_use_newProxy :
    (∃ finish, (waitedClosures Nat).Run (fun state event => state.outlives event = true)
        (.start Nat {}) (seenEarly ++ [.complete .notify, .wait 0 .destroy]) finish ∧
      finish.lateUses = [] ∧ ∃ record, finish.records 0 = some record ∧
        record.result.isSome) ∧
    ∃ state next later, (waitedClosures Nat).Run Machine.anyStep (.start Nat {}) seenEarly state ∧
      (waitedClosures Nat).step? state (.wait 0 .destroy) = some next ∧
      (waitedClosures Nat).step? next (.complete .notify) = some later ∧ later.lateUses ≠ [] := by
  constructor
  · obtain ⟨finish, run, test⟩ := Machine.Run.exists_of_exec notifiedFirst_executes
    obtain ⟨record, found, passed⟩ := (Option.any_eq_true _ _).mp test
    have whole := (record_outlives_last_use {}).2 (run.mono fun _ _ _ => trivial)
    exact ⟨finish, run, (record_outlives_last_use {}).1 run, record, found,
      whole.1 0 record found passed⟩
  · obtain ⟨state, run, test⟩ := Machine.Run.exists_of_exec seenEarly_executes
    obtain ⟨early, enabled⟩ := Bool.and_eq_true_iff.mp test
    obtain ⟨next, stepped⟩ := Option.isSome_iff_exists.mp enabled
    obtain ⟨later, notified, late⟩ := ((record_outlives_last_use {}).2 run).2 _ next
      (by simpa using early) stepped
    exact ⟨state, next, later, run, stepped, notified, late⟩

/-- One thread waits before its closure has run, and another one has not got that far. -/
theorem waiters_return_two :
    ∃ state events finish, state.current 0 = some 0 ∧ state.current 1 = some 1 ∧
      (waitedClosures Nat).Run HandshakeState.Proceeds state events finish ∧
      finish.current 0 = none ∧ finish.current 1 = none ∧ finish.lateUses = [] := by
  have executes : ((waitedClosures Nat).exec?
      (fun state event => state.outlives event = true) (.start Nat {})
      [.post 0 (.newProxy 0 "net.connman" "/" "net.connman.Clock"), .wait 0 .lock,
        .wait 0 .check, .post 1 (.registerObject 1 "/agent"), .dispatch 1 none]).any
      (fun state => state.current 0 = some 0 ∧ state.current 1 = some 1) = true := by
    decide
  obtain ⟨state, run, waiting⟩ := Machine.Run.exists_of_exec executes
  obtain ⟨first, second⟩ := of_decide_eq_true waiting
  obtain ⟨events, finish, more, returned, -⟩ := (waiters_return run).exists_run
  exact ⟨state, events, finish, first, second, more, returned.free 0, returned.free 1,
    returned.clean⟩

/-- The waiter has destroyed its record when the notification comes. -/
theorem lateUse_reached :
    ∃ finish, (waitedClosures Nat).Run Machine.anyStep (.start Nat {})
      (seenEarly ++ [.wait 0 .destroy, .complete .notify]) finish ∧ finish.lateUses = [0] := by
  have executed : ((waitedClosures Nat).exec? Machine.anyStep (.start Nat {})
      (seenEarly ++ [.wait 0 .destroy, .complete .notify])).any
        (fun finish => decide (finish.lateUses = [0])) = true := by
    decide
  obtain ⟨finish, run, late⟩ := Machine.Run.exists_of_exec executed
  exact ⟨finish, run, of_decide_eq_true late⟩

end GConnman.DBus
