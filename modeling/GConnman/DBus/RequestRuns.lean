import GConnman.DBus.RequestSystem

/-!
# Steps and runs of the request system

What each event does, and the accounting that every run keeps: a prepared request
is in flight, in completion on the loop thread, or completed, and in exactly one
of these places.
-/

namespace GConnman.DBus

open GConnman.GLib GConnman.Foundation

namespace System

variable {Properties : ProxyId → Type}

/-! ## Accounting -/

theorem idle_of_ready {system : System Properties} (ready : system.ready = true) :
    system.activity = .idle ∧ system.dbus.loop ≠ .returned := by
  unfold System.ready at ready
  split at ready
  · rename_i idle
    exact ⟨idle, of_decide_eq_true ready⟩
  · cases ready

/-- The numbers of all requests, place by place. -/
def places (system : System Properties) : List RequestId :=
  system.inFlight ++ (system.activity.requests ++ system.completed)

/-- Every prepared request is in exactly one place. -/
def Accounted (system : System Properties) : Prop :=
  Census system.prepared.length system.places

theorem accounted_start (objPath : ProxyId → String)
    (props : (proxy : ProxyId) → Properties proxy) : Accounted (start objPath props) :=
  Census.empty

/-- The requests prepared and not yet completed. -/
def outstanding (system : System Properties) : List RequestId :=
  (List.range system.prepared.length).filter fun id => id ∉ system.completed

theorem length_outstanding {system : System Properties} (accounted : Accounted system) :
    system.outstanding.length = system.inFlight.length + system.activity.requests.length := by
  have census : Census system.prepared.length
      ((system.inFlight ++ system.activity.requests) ++ system.completed) := by
    rw [List.append_assoc]
    exact accounted
  rw [outstanding, census.length_remaining, List.length_append]

theorem mem_outstanding {system : System Properties} {id : RequestId} :
    id ∈ system.outstanding ↔ id < system.prepared.length ∧ id ∉ system.completed := by
  simp [outstanding]

theorem lt_of_completed {system : System Properties} (accounted : Accounted system)
    {id : RequestId} (done : id ∈ system.completed) : id < system.prepared.length :=
  (Census.mem_iff accounted).mp
    (List.mem_append.mpr (.inr (List.mem_append.mpr (.inr done))))

theorem lt_of_active {system : System Properties} (accounted : Accounted system)
    {id : RequestId} (active : id ∈ system.activity.requests) : id < system.prepared.length :=
  (Census.mem_iff accounted).mp
    (List.mem_append.mpr (.inr (List.mem_append.mpr (.inl active))))

theorem not_completed_of_active {system : System Properties} (accounted : Accounted system)
    {id : RequestId} (active : id ∈ system.activity.requests) : id ∉ system.completed :=
  fun completed => by
    have nodup := Census.nodup accounted
    exact (List.nodup_append.mp nodup.of_append_right).2.2 id active id completed rfl

/-- What a run changes of the records: requests are only added, and none of them under
a request that was completed before. -/
structure Later (middle last : System Properties) : Prop where
  prepared : middle.prepared <+: last.prepared
  completed : middle.completed <+: last.completed
  nested : ∀ id request parent, last.prepared[id]? = some request →
    request.parent = some parent → middle.prepared.length ≤ id → parent ∉ middle.completed

theorem Later.refl (system : System Properties) : Later system system where
  prepared := List.prefix_refl _
  completed := List.prefix_refl _
  nested := fun _ _ _ stored _ beyond => by
    obtain ⟨inside, -⟩ := List.getElem?_eq_some_iff.mp stored
    exact absurd beyond (Nat.not_le_of_lt inside)

theorem invoking_of_parentOf {system : System Properties} {origin : Origin} {parent : RequestId}
    (allowed : system.parentOf origin = some (some parent)) :
    system.activity = .invoking parent := by
  cases origin with
  | thread => cases allowed
  | callback =>
      unfold parentOf at allowed
      cases activity : system.activity with
      | invoking request =>
          rw [activity] at allowed
          cases allowed
          rfl
      | _ =>
          rw [activity] at allowed
          cases allowed

/-! ## Effects -/

variable [∀ proxy, PropertyRecord (Properties proxy)]

/-- What the events do, with everything that held before. -/
inductive Effect (system : System Properties) : Event → System Properties → Prop where
  | prepare {origin : Origin} {parent : Option RequestId} (proxy : ProxyId)
      (operation : Operation) (callback : Option CallbackId)
      (allowed : system.parentOf origin = some parent) :
      Effect system (.prepare origin proxy operation callback)
        (system.prepare parent proxy operation callback)
  | reply {id : RequestId} {reply : Option GVariant} {request : Request}
      {handled : DBusProxy (Properties request.proxy) × Argument Properties}
      (ready : system.ready = true) (member : id ∈ system.inFlight)
      (stored : system.prepared[id]? = some request)
      (result : request.operation.replyHandler.handle request.proxy
        (system.proxies request.proxy) reply = some handled) :
      Effect system (.dispatchReply id reply)
        { system with
          proxies := Function.update system.proxies request.proxy handled.1
          inFlight := system.inFlight.erase id
          activity := .replied id handled.2
          served := system.served ++ [⟨id, reply, system.proxies⟩] }
  | finish {id : RequestId} {argument : Argument Properties} {request : Request}
      (activity : system.activity = .replied id argument)
      (stored : system.prepared[id]? = some request) (plain : request.counter = none) :
      Effect system .enterCallBack (system.complete id)
  | enter {id : RequestId} {argument : Argument Properties} {request : Request}
      {counter : UInt64} {callback : CallbackId}
      (activity : system.activity = .replied id argument)
      (stored : system.prepared[id]? = some request) (counted : request.counter = some counter)
      (found : ((system.proxies request.proxy).findCallBack
        request.operation.replyHandler.castType counter).2 = .ok callback) :
      Effect system .enterCallBack
        { system with
          proxies := Function.update system.proxies request.proxy
            ((system.proxies request.proxy).findCallBack
              request.operation.replyHandler.castType counter).1
          activity := .invoking id
          invocations := system.invocations ++ [⟨id, callback, argument⟩] }
  | leave {id : RequestId} {request : Request} {counter : UInt64}
      (activity : system.activity = .invoking id)
      (stored : system.prepared[id]? = some request) (counted : request.counter = some counter) :
      Effect system .leaveCallBack
        ({ system with
          proxies := Function.update system.proxies request.proxy
            ((system.proxies request.proxy).eraseCallBack counter) }.complete id)
  | signal {id : ProxyId} {change : Option (String × GVariant)}
      {proxy : DBusProxy (Properties id)} (ready : system.ready = true)
      (result : (system.proxies id).change change = some proxy) :
      Effect system (.dispatchSignal id change)
        { system with
          proxies := Function.update system.proxies id proxy
          activity := .signalled }
  | leaveSignal (activity : system.activity = .signalled) :
      Effect system .leaveSignal { system with activity := .idle }
  | clearRunning (phase : system.stop = .notCalled) :
      Effect system .clearRunning
        { system with dbus := system.dbus.clearRunning, stop := .flagged }
  | quitWhenIdle (phase : system.stop = .flagged) :
      Effect system .quitWhenIdle
        { system with dbus := system.dbus.quitWhenIdle, stop := .joining }
  | loopReturns (activity : system.activity = .idle) (quitting : system.dbus.loop = .quitting) :
      Effect system .loopReturns { system with dbus := { system.dbus with loop := .returned } }
  | stopReturns (phase : system.stop = .joining) (returned : system.dbus.loop = .returned) :
      Effect system .stopReturns { system with stop := .returned }

theorem effect_of_step {system next : System Properties} {event : Event}
    (stepped : step? system event = some next) : Effect system event next := by
  cases event with
  | prepare origin proxy operation callback =>
      obtain ⟨parent, allowed, rfl⟩ := Option.map_eq_some_iff.mp stepped
      exact .prepare proxy operation callback allowed
  | dispatchReply id reply =>
      simp only [step?, dispatchReply] at stepped
      split at stepped
      · rename_i guarded
        obtain ⟨request, stored, remaining⟩ := Option.bind_eq_some_iff.mp stepped
        obtain ⟨handled, result, rfl⟩ := Option.map_eq_some_iff.mp remaining
        exact .reply guarded.1 guarded.2 stored result
      · cases stepped
  | enterCallBack =>
      simp only [step?, enterCallBack] at stepped
      split at stepped
      · rename_i id argument activity
        obtain ⟨request, stored, remaining⟩ := Option.bind_eq_some_iff.mp stepped
        split at remaining
        · rename_i plain
          cases remaining
          exact .finish activity stored plain
        · rename_i counter counted
          split at remaining
          · cases remaining
          · rename_i callback found
            cases remaining
            exact .enter activity stored counted found
      · cases stepped
  | leaveCallBack =>
      simp only [step?, leaveCallBack] at stepped
      split at stepped
      · rename_i id activity
        obtain ⟨request, stored, remaining⟩ := Option.bind_eq_some_iff.mp stepped
        obtain ⟨counter, counted, rfl⟩ := Option.map_eq_some_iff.mp remaining
        exact .leave activity stored counted
      · cases stepped
  | dispatchSignal id change =>
      simp only [step?, dispatchSignal] at stepped
      split at stepped
      · rename_i ready
        obtain ⟨proxy, result, rfl⟩ := Option.map_eq_some_iff.mp stepped
        exact .signal ready result
      · cases stepped
  | leaveSignal =>
      simp only [step?, leaveSignal] at stepped
      split at stepped
      · rename_i activity
        cases stepped
        exact .leaveSignal activity
      · cases stepped
  | clearRunning =>
      simp only [step?] at stepped
      split at stepped
      · rename_i phase
        cases stepped
        exact .clearRunning phase
      · cases stepped
  | quitWhenIdle =>
      simp only [step?] at stepped
      split at stepped
      · rename_i phase
        cases stepped
        exact .quitWhenIdle phase
      · cases stepped
  | loopReturns =>
      simp only [step?, loopReturns] at stepped
      split at stepped
      · rename_i activity
        split at stepped
        · rename_i quitting
          cases stepped
          exact .loopReturns activity quitting
        · cases stepped
      · cases stepped
  | stopReturns =>
      simp only [step?] at stepped
      split at stepped
      · rename_i both
        cases stepped
        exact .stopReturns both.1 both.2
      · cases stepped

theorem accounted_effect {system next : System Properties} {event : Event}
    (accounted : Accounted system) (effect : Effect system event next) : Accounted next := by
  cases effect with
  | prepare proxy operation callback allowed =>
      change Census (system.prepared ++ [_]).length _
      rw [List.length_append, List.length_singleton]
      refine Census.add accounted fun id => ?_
      simp only [places, prepare, List.count_append]
      omega
  | @reply id reply request handled ready member stored result =>
      refine Census.move accounted fun other => ?_
      have taken := (List.perm_cons_erase member).count_eq other
      have idle := (idle_of_ready ready).1
      simp only [places, idle, Activity.requests, List.count_append, List.count_cons,
        List.count_nil] at taken ⊢
      omega
  | finish activity stored plain =>
      refine Census.move accounted fun other => ?_
      simp only [places, complete, activity, Activity.requests, List.count_append, List.count_nil]
      omega
  | enter activity stored counted found =>
      refine Census.move accounted fun other => ?_
      simp only [places, activity, Activity.requests]
  | leave activity stored counted =>
      refine Census.move accounted fun other => ?_
      simp only [places, complete, activity, Activity.requests, List.count_append, List.count_nil]
      omega
  | signal ready result =>
      refine Census.move accounted fun other => ?_
      simp only [places, (idle_of_ready ready).1, Activity.requests]
  | leaveSignal activity =>
      refine Census.move accounted fun other => ?_
      simp only [places, activity, Activity.requests]
  | clearRunning phase => exact accounted
  | quitWhenIdle phase => exact accounted
  | loopReturns activity quitting => exact accounted
  | stopReturns phase returned => exact accounted

/-- The accounting holds along every run. -/
theorem accounted_run {guard : System Properties → Event → Prop} {events : List Event}
    {system last : System Properties} (accounted : Accounted system)
    (run : machine.Run guard system events last) : Accounted last :=
  run.invariant (fun _ _ _ held _ stepped => accounted_effect held (effect_of_step stepped))
    accounted

/-! ## The order of preparations and completions -/

/-- A step prepares at most one request; its parent is the request whose callback runs. -/
theorem prepared_effect {system next : System Properties} {event : Event}
    (effect : Effect system event next) :
    next.prepared = system.prepared ∨
      ∃ request, next.prepared = system.prepared ++ [request] ∧
        ∀ parent, request.parent = some parent → system.activity = .invoking parent := by
  cases effect with
  | @prepare origin parent proxy operation callback allowed =>
      refine .inr ⟨_, rfl, fun request nested => ?_⟩
      change parent = some request at nested
      rw [nested] at allowed
      exact invoking_of_parentOf allowed
  | _ => exact .inl rfl

/-- A step completes at most one request, the one in completion. -/
theorem completed_effect {system next : System Properties} {event : Event}
    (effect : Effect system event next) :
    next.completed = system.completed ∨
      ∃ id, system.activity.requests = [id] ∧ next.completed = system.completed ++ [id] := by
  cases effect with
  | finish activity stored plain => exact .inr ⟨_, congrArg Activity.requests activity, rfl⟩
  | leave activity stored counted => exact .inr ⟨_, congrArg Activity.requests activity, rfl⟩
  | _ => exact .inl rfl

theorem later_effect {middle system next : System Properties} {event : Event}
    (later : Later middle system) (accounted : Accounted system)
    (effect : Effect system event next) : Later middle next where
  prepared := by
    rcases prepared_effect effect with same | ⟨request, added, -⟩
    · rw [same]
      exact later.prepared
    · rw [added]
      exact later.prepared.trans (List.prefix_append _ _)
  completed := by
    rcases completed_effect effect with same | ⟨id, -, added⟩
    · rw [same]
      exact later.completed
    · rw [added]
      exact later.completed.trans (List.prefix_append _ _)
  nested := by
    intro id request parent stored nested beyond
    rcases prepared_effect effect with same | ⟨last, added, invoked⟩
    · rw [same] at stored
      exact later.nested id request parent stored nested beyond
    · rw [added, getElem?_concat_eq_some_iff] at stored
      rcases stored with earlier | ⟨-, rfl⟩
      · exact later.nested id request parent earlier nested beyond
      · have running := invoked parent nested
        have active : parent ∈ system.activity.requests := by
          rw [running]
          exact List.mem_singleton_self parent
        exact fun done =>
          not_completed_of_active accounted active (later.completed.subset done)

/-- The records of a state that a run reaches from an accounted state. -/
theorem later_run {guard : System Properties → Event → Prop} {events : List Event}
    {middle last : System Properties} (accounted : Accounted middle)
    (run : machine.Run guard middle events last) : Later middle last := by
  induction run with
  | refl => exact Later.refl middle
  | tail before _ stepped ih =>
      exact later_effect ih (accounted_run accounted before) (effect_of_step stepped)

end System

end GConnman.DBus
