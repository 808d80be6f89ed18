import GConnman.DBus.RequestRuns
import GConnman.Foundation.Tabulation

/-!
# The table of completion callbacks

The counter of a proxy makes a fresh key for every request that comes with a
callback, as long as it does not wrap around.  At every moment the table of a
proxy then holds the callbacks of its outstanding requests and nothing else, each
stored with the type of its operation, so that a completion finds its callback
under its key and the cast to the type of its handler succeeds.
-/

namespace GConnman.DBus

open GConnman.GLib GConnman.Foundation

namespace DBusProxy

variable {Record : Type}

/-- The table and the counter that makes its keys are the same. -/
def SameTable (before after : DBusProxy Record) : Prop :=
  after.callbacks = before.callbacks ∧ after.callbackCounter = before.callbackCounter

theorem SameTable.refl (proxy : DBusProxy Record) : proxy.SameTable proxy := ⟨rfl, rfl⟩

/-- A stored callback is found, and looking for it leaves the table alone. -/
theorem findCallBack_of_stored {proxy : DBusProxy Record} {type : CallbackType}
    {counter : UInt64} {callback : CallbackId}
    (stored : proxy.callbacks counter = some (.stored type callback)) :
    proxy.findCallBack type counter = (proxy, .ok callback) := by
  have unchanged : Function.update proxy.callbacks counter (some (.stored type callback)) =
      proxy.callbacks := by
    rw [← stored]
    exact Function.update_eq_self counter proxy.callbacks
  simp only [findCallBack, stored, Option.getD_some, unchanged, AnyCallback.cast, if_true]

variable [PropertyRecord Record]

theorem sameTable_updateProperty (proxy : DBusProxy Record) (prop : GVariant) :
    proxy.SameTable (proxy.updateProperty prop).state := by
  obtain ⟨props, changed⟩ := proxy.exists_props_updateProperty prop
  rw [changed]
  exact ⟨rfl, rfl⟩

theorem sameTable_updateProperties (proxy : DBusProxy Record) (properties : GVariant) :
    proxy.SameTable (proxy.updateProperties properties).state := by
  obtain ⟨props, changed⟩ := proxy.exists_props_updateProperties properties
  rw [changed]
  exact ⟨rfl, rfl⟩

end DBusProxy

section Handlers

variable {Properties : ProxyId → Type} [∀ proxy, PropertyRecord (Properties proxy)]

theorem sameTable_handle {handler : ReplyHandler} {id : ProxyId}
    {proxy : DBusProxy (Properties id)} {reply : Option GVariant}
    {handled : DBusProxy (Properties id) × Argument Properties}
    (result : handler.handle id proxy reply = some handled) : proxy.SameTable handled.1 := by
  unfold ReplyHandler.handle at result
  split at result
  · cases result
    exact .refl proxy
  · cases result
    exact .refl proxy
  · split at result <;> cases result
    exact DBusProxy.sameTable_updateProperties proxy _

theorem sameTable_change {id : ProxyId} {proxy changed : DBusProxy (Properties id)}
    {change : Option (String × GVariant)} (result : proxy.change change = some changed) :
    proxy.SameTable changed := by
  unfold DBusProxy.change at result
  split at result
  · cases result
    exact .refl proxy
  · split at result <;> cases result
    exact DBusProxy.sameTable_updateProperty proxy _

end Handlers

/-- The entry that a request with a callback has in the table of its proxy. -/
def Request.Registers (request : Request) (proxy : ProxyId) (counter : UInt64)
    (value : AnyCallback) : Prop :=
  request.proxy = proxy ∧ request.counter = some counter ∧
    ∃ callback, request.callback = some callback ∧
      value = .stored request.operation.callbackType callback

namespace System

variable {Properties : ProxyId → Type}

/-- The number of requests a proxy has prepared. -/
def requestsOf (system : System Properties) (proxy : ProxyId) : Nat :=
  system.prepared.countP fun request => request.proxy = proxy

/-- Every proxy prepares fewer than `2 ^ 64` requests. -/
def FewRequests (system : System Properties) : Event → Prop
  | .prepare _ proxy _ _ => system.requestsOf proxy + 1 < UInt64.size
  | _ => True

instance (system : System Properties) (event : Event) : Decidable (FewRequests system event) :=
  match event with
  | .prepare _ _ _ _ => inferInstanceAs (Decidable (_ < _))
  | .dispatchReply _ _ | .enterCallBack | .leaveCallBack | .dispatchSignal _ _ | .leaveSignal
  | .clearRunning | .quitWhenIdle | .loopReturns | .stopReturns => .isTrue trivial

/-- An outstanding request waits for its completion under this entry. -/
def Awaits (system : System Properties) (proxy : ProxyId) (counter : UInt64)
    (value : AnyCallback) : Prop :=
  ∃ id ∈ system.outstanding, ∃ request, system.prepared[id]? = some request ∧
    request.Registers proxy counter value

/-- Every table holds the entries of the outstanding requests, under keys that the
counter has given out once. -/
structure Tabled (system : System Properties) : Prop where
  accounted : Accounted system
  counters : ∀ proxy, (system.proxies proxy).callbackCounter.toNat ≤ system.requestsOf proxy
  issued : ∀ (id : RequestId) (request : Request) (counter : UInt64),
    system.prepared[id]? = some request → request.counter = some counter →
      counter.toNat ≤ (system.proxies request.proxy).callbackCounter.toNat
  distinct : ∀ (first second : RequestId) (one other : Request) (counter : UInt64),
    system.prepared[first]? = some one → system.prepared[second]? = some other →
      one.proxy = other.proxy → one.counter = some counter → other.counter = some counter →
        first = second
  carried : ∀ (id : RequestId) (request : Request), system.prepared[id]? = some request →
    request.counter.isSome = request.callback.isSome
  table : ∀ proxy, Tabulates (system.proxies proxy).callbacks (system.Awaits proxy)

theorem tabled_start (objPath : ProxyId → String)
    (props : (proxy : ProxyId) → Properties proxy) : Tabled (start objPath props) where
  accounted := accounted_start objPath props
  counters _ := Nat.le_refl 0
  issued := by
    intro id request counter stored
    cases stored
  distinct := by
    intro first second one other counter stored
    cases stored
  carried := by
    intro id request stored
    cases stored
  table := fun proxy => .empty fun counter value awaited => by
    obtain ⟨id, -, request, stored, -⟩ := awaited
    cases stored

/-! ## Finding a callback -/

/-- An outstanding request with a counter has its callback in the table. -/
theorem Tabled.stored {system : System Properties} (tabled : Tabled system) {id : RequestId}
    {request : Request} {counter : UInt64} (outstanding : id ∈ system.outstanding)
    (stored : system.prepared[id]? = some request) (counted : request.counter = some counter) :
    ∃ callback, request.callback = some callback ∧
      (system.proxies request.proxy).callbacks counter =
        some (.stored request.operation.callbackType callback) := by
  have carries := tabled.carried id request stored
  rw [counted] at carries
  obtain ⟨callback, given⟩ := Option.isSome_iff_exists.mp carries.symm
  refine ⟨callback, given, (tabled.table request.proxy counter _).mpr ?_⟩
  exact ⟨id, outstanding, request, stored, rfl, counted, callback, given, rfl⟩

/-- The completion of a request finds the callback it was given. -/
theorem Tabled.found {system : System Properties} (tabled : Tabled system) {id : RequestId}
    {request : Request} {counter : UInt64} (outstanding : id ∈ system.outstanding)
    (stored : system.prepared[id]? = some request) (counted : request.counter = some counter) :
    ∃ callback, request.callback = some callback ∧
      (system.proxies request.proxy).findCallBack request.operation.replyHandler.castType
        counter = (system.proxies request.proxy, .ok callback) := by
  obtain ⟨callback, given, held⟩ := tabled.stored outstanding stored counted
  rw [Operation.castType_replyHandler]
  exact ⟨callback, given, DBusProxy.findCallBack_of_stored held⟩

theorem outstanding_of_active {system : System Properties} (accounted : Accounted system)
    {id : RequestId} (active : id ∈ system.activity.requests) : id ∈ system.outstanding :=
  mem_outstanding.mpr ⟨lt_of_active accounted active, not_completed_of_active accounted active⟩

/-- A completion in progress finds its callback and can go on. -/
theorem enterCallBack_isSome {system : System Properties} (tabled : Tabled system)
    {id : RequestId} {argument : Argument Properties}
    (activity : system.activity = .replied id argument) : system.enterCallBack.isSome := by
  have active : id ∈ system.activity.requests := by
    rw [activity]
    exact List.mem_singleton_self id
  have begun := lt_of_active tabled.accounted active
  have outstanding := outstanding_of_active tabled.accounted active
  have stored := List.getElem?_eq_getElem begun
  simp only [enterCallBack, activity, stored, Option.bind_some]
  split
  · rfl
  · rename_i counter counted
    obtain ⟨callback, -, found⟩ := tabled.found outstanding stored counted
    rw [found]
    rfl

/-! ## Steps that leave the tables alone -/

theorem sameTable_update {proxies : (proxy : ProxyId) → DBusProxy (Properties proxy)} {id : ProxyId}
    {proxy : DBusProxy (Properties id)} (same : (proxies id).SameTable proxy) (other : ProxyId) :
    (proxies other).SameTable (Function.update proxies id proxy other) := by
  by_cases equal : other = id
  · subst equal
    rw [Function.update_self]
    exact same
  · rw [Function.update_of_ne equal]
    exact .refl _

/-- The tables stay exact when neither they nor the outstanding requests change. -/
theorem tabled_of_same {system next : System Properties} (tabled : Tabled system)
    (accounted : Accounted next) (prepared : next.prepared = system.prepared)
    (completed : next.completed = system.completed)
    (tables : ∀ proxy, (system.proxies proxy).SameTable (next.proxies proxy)) : Tabled next where
  accounted
  counters proxy := by
    unfold requestsOf
    rw [(tables proxy).2, prepared]
    exact tabled.counters proxy
  issued id request counter stored counted := by
    rw [prepared] at stored
    rw [(tables request.proxy).2]
    exact tabled.issued id request counter stored counted
  distinct := by
    rw [prepared]
    exact tabled.distinct
  carried := by
    rw [prepared]
    exact tabled.carried
  table proxy := by
    rw [(tables proxy).1]
    refine (tabled.table proxy).congr fun counter value => ?_
    unfold Awaits outstanding
    rw [prepared, completed]

/-! ## Preparing a request -/

theorem requestsOf_append {system next : System Properties} {request : Request}
    (prepared : next.prepared = system.prepared ++ [request]) (proxy : ProxyId) :
    next.requestsOf proxy =
      system.requestsOf proxy + if request.proxy = proxy then 1 else 0 := by
  unfold requestsOf
  rw [prepared, List.countP_append, List.countP_singleton]
  simp only [decide_eq_true_eq]

/-- A new request is outstanding besides those that were. -/
theorem awaits_append {system next : System Properties} {request : Request}
    (accounted : Accounted system) (prepared : next.prepared = system.prepared ++ [request])
    (completed : next.completed = system.completed) (proxy : ProxyId) (counter : UInt64)
    (value : AnyCallback) :
    next.Awaits proxy counter value ↔
      system.Awaits proxy counter value ∨ request.Registers proxy counter value := by
  unfold Awaits
  simp only [mem_outstanding, prepared, completed, getElem?_concat_eq_some_iff]
  constructor
  · rintro ⟨id, ⟨-, unfinished⟩, found, earlier | ⟨-, rfl⟩, registers⟩
    · obtain ⟨inside, -⟩ := List.getElem?_eq_some_iff.mp earlier
      exact .inl ⟨id, ⟨inside, unfinished⟩, found, earlier, registers⟩
    · exact .inr registers
  · rintro (⟨id, ⟨inside, unfinished⟩, found, earlier, registers⟩ | registers)
    · refine ⟨id, ⟨?_, unfinished⟩, found, .inl earlier, registers⟩
      rw [List.length_append]
      exact Nat.lt_add_right _ inside
    · refine ⟨system.prepared.length, ⟨?_, fun done => ?_⟩, request, .inr ⟨rfl, rfl⟩, registers⟩
      · rw [List.length_append]
        exact Nat.lt_succ_self _
      · exact Nat.lt_irrefl _ (lt_of_completed accounted done)

/-- A new request keeps the tables exact when its key, if it takes one, is the next one. -/
theorem tabled_append {system next : System Properties} (request : Request)
    (tabled : Tabled system) (accounted : Accounted next)
    (prepared : next.prepared = system.prepared ++ [request])
    (completed : next.completed = system.completed)
    (carried : request.counter.isSome = request.callback.isSome)
    (counters : ∀ proxy, (next.proxies proxy).callbackCounter.toNat =
      (system.proxies proxy).callbackCounter.toNat +
        if request.proxy = proxy ∧ request.counter.isSome then 1 else 0)
    (issued : ∀ counter, request.counter = some counter →
      counter.toNat = (system.proxies request.proxy).callbackCounter.toNat + 1)
    (table : ∀ proxy, Tabulates (next.proxies proxy).callbacks fun counter value =>
      system.Awaits proxy counter value ∨ request.Registers proxy counter value) :
    Tabled next := by
  have fresh : ∀ (id : RequestId) (earlier : Request) (counter : UInt64),
      system.prepared[id]? = some earlier → earlier.proxy = request.proxy →
        request.counter = some counter → earlier.counter ≠ some counter := by
    intro id earlier counter stored same taken counted
    have bound := tabled.issued id earlier counter stored counted
    rw [same, issued counter taken] at bound
    exact Nat.not_succ_le_self _ bound
  exact {
    accounted
    counters := fun proxy => by
      rw [counters, requestsOf_append prepared]
      refine Nat.add_le_add (tabled.counters proxy) ?_
      split_ifs with both same same
      · exact Nat.le_refl 1
      · exact absurd both.1 same
      all_goals exact Nat.zero_le _
    issued := fun id other counter stored counted => by
      rw [prepared] at stored
      rw [counters]
      rcases getElem?_concat_eq_some_iff.mp stored with earlier | ⟨-, rfl⟩
      · exact Nat.le_add_right_of_le (tabled.issued id other counter earlier counted)
      · rw [issued counter counted, if_pos ⟨rfl, by rw [counted]; rfl⟩]
    distinct := fun first second one other counter storedOne storedOther same countedOne
        countedOther => by
      rw [prepared] at storedOne storedOther
      rcases getElem?_concat_eq_some_iff.mp storedOne with earlierOne | ⟨lastOne, rfl⟩
      · rcases getElem?_concat_eq_some_iff.mp storedOther with earlierOther | ⟨-, rfl⟩
        · exact tabled.distinct first second one other counter earlierOne earlierOther same
            countedOne countedOther
        · exact absurd countedOne (fresh first one counter earlierOne same countedOther)
      · rcases getElem?_concat_eq_some_iff.mp storedOther with earlierOther | ⟨lastOther, -⟩
        · exact absurd countedOther
            (fresh second other counter earlierOther same.symm countedOne)
        · rw [lastOne, lastOther]
    carried := fun id other stored => by
      rw [prepared] at stored
      rcases getElem?_concat_eq_some_iff.mp stored with earlier | ⟨-, rfl⟩
      · exact tabled.carried id other earlier
      · exact carried
    table := fun proxy =>
      (table proxy).congr (awaits_append tabled.accounted prepared completed proxy) }

/-- A request without a callback takes no key. -/
theorem tabled_prepare_plain {system : System Properties} (tabled : Tabled system)
    {parent : Option RequestId} {proxy : ProxyId} {operation : Operation}
    (accounted : Accounted (system.prepare parent proxy operation none)) :
    Tabled (system.prepare parent proxy operation none) := by
  have proxies : (system.prepare parent proxy operation none).proxies = system.proxies :=
    Function.update_eq_self proxy system.proxies
  refine tabled_append ⟨proxy, operation, none, none, parent⟩ tabled accounted rfl rfl rfl
    ?_ ?_ ?_
  · intro other
    rw [proxies, if_neg (by simp)]
    rfl
  · intro counter counted
    cases counted
  · intro other
    rw [proxies]
    refine (tabled.table other).congr fun counter value => or_iff_left ?_
    rintro ⟨-, counted, -⟩
    cases counted

/-- A request with a callback gets a key that no earlier request of its proxy has. -/
theorem tabled_prepare_callback {system : System Properties} (tabled : Tabled system)
    {parent : Option RequestId} {proxy : ProxyId} {operation : Operation} {callback : CallbackId}
    (few : system.requestsOf proxy + 1 < UInt64.size)
    (accounted : Accounted (system.prepare parent proxy operation (some callback))) :
    Tabled (system.prepare parent proxy operation (some callback)) := by
  have above : ((system.proxies proxy).callbackCounter + 1).toNat =
      (system.proxies proxy).callbackCounter.toNat + 1 := by
    have room : (system.proxies proxy).callbackCounter.toNat + 1 < UInt64.size :=
      Nat.lt_of_le_of_lt (Nat.succ_le_succ (tabled.counters proxy)) few
    rw [UInt64.toNat_add, UInt64.toNat_one, Nat.mod_eq_of_lt room]
  refine tabled_append _ tabled accounted rfl rfl rfl ?_ ?_ ?_
  · intro other
    by_cases same : proxy = other
    · subst same
      rw [if_pos ⟨rfl, rfl⟩]
      change (Function.update system.proxies proxy _ proxy).callbackCounter.toNat = _
      rw [Function.update_self]
      exact above
    · rw [if_neg fun both => same both.1]
      change (Function.update system.proxies proxy _ other).callbackCounter.toNat = _
      rw [Function.update_of_ne (Ne.symm same)]
      rfl
  · rintro counter ⟨⟩
    exact above
  · intro other
    by_cases same : proxy = other
    · subst same
      have unrelated : ∀ value,
          ¬ system.Awaits proxy ((system.proxies proxy).callbackCounter + 1) value := by
        rintro value ⟨id, -, request, stored, rfl, counted, -⟩
        have bound := tabled.issued id request _ stored counted
        rw [above] at bound
        exact Nat.not_succ_le_self _ bound
      change Tabulates (Function.update system.proxies proxy _ proxy).callbacks _
      rw [Function.update_self]
      refine ((tabled.table proxy).insert unrelated
        (.stored operation.callbackType callback)).congr fun counter value => ?_
      refine or_congr_right ⟨?_, ?_⟩
      · rintro ⟨-, counted, given, called, rfl⟩
        cases counted
        cases called
        exact ⟨rfl, rfl⟩
      · rintro ⟨rfl, rfl⟩
        exact ⟨rfl, rfl, callback, rfl, rfl⟩
    · change Tabulates (Function.update system.proxies proxy _ other).callbacks _
      rw [Function.update_of_ne (Ne.symm same)]
      exact (tabled.table other).congr fun counter value =>
        or_iff_left fun registers => same registers.1

/-! ## Completing a request -/

/-- A completed request is not outstanding any more. -/
theorem awaits_complete {system next : System Properties} {id : RequestId}
    (prepared : next.prepared = system.prepared)
    (completed : next.completed = system.completed ++ [id]) (proxy : ProxyId) (counter : UInt64)
    (value : AnyCallback) :
    next.Awaits proxy counter value ↔
      ∃ other ∈ system.outstanding, other ≠ id ∧ ∃ request,
        system.prepared[other]? = some request ∧ request.Registers proxy counter value := by
  unfold Awaits
  simp only [mem_outstanding, prepared, completed, List.mem_append, List.mem_singleton, not_or,
    and_assoc]

/-- The end of a completion keeps the tables exact when it removes the entry of its request. -/
theorem tabled_complete {system next : System Properties} {id : RequestId} {request : Request}
    (tabled : Tabled system) (accounted : Accounted next)
    (prepared : next.prepared = system.prepared)
    (completed : next.completed = system.completed ++ [id])
    (counters : ∀ proxy,
      (next.proxies proxy).callbackCounter = (system.proxies proxy).callbackCounter)
    (stored : system.prepared[id]? = some request)
    (table : ∀ proxy, Tabulates (next.proxies proxy).callbacks fun counter value =>
      system.Awaits proxy counter value ∧
        ¬ (request.proxy = proxy ∧ request.counter = some counter)) :
    Tabled next where
  accounted
  counters proxy := by
    unfold requestsOf
    rw [counters, prepared]
    exact tabled.counters proxy
  issued other another counter storedOther counted := by
    rw [prepared] at storedOther
    rw [counters]
    exact tabled.issued other another counter storedOther counted
  distinct := by
    rw [prepared]
    exact tabled.distinct
  carried := by
    rw [prepared]
    exact tabled.carried
  table proxy := by
    refine (table proxy).congr fun counter value => ?_
    rw [awaits_complete prepared completed]
    constructor
    · rintro ⟨other, outstanding, different, another, storedOther, registers⟩
      refine ⟨⟨other, outstanding, another, storedOther, registers⟩, fun same => different ?_⟩
      exact tabled.distinct other id another request counter storedOther stored
        (registers.1.trans same.1.symm) registers.2.1 same.2
    · rintro ⟨⟨other, outstanding, another, storedOther, registers⟩, different⟩
      refine ⟨other, outstanding, ?_, another, storedOther, registers⟩
      rintro rfl
      rw [stored] at storedOther
      cases storedOther
      exact different ⟨registers.1, registers.2.1⟩

variable [∀ proxy, PropertyRecord (Properties proxy)]

theorem tabled_effect {system next : System Properties} {event : Event} (tabled : Tabled system)
    (few : FewRequests system event) (effect : Effect system event next) : Tabled next := by
  have accounted := accounted_effect tabled.accounted effect
  cases effect with
  | prepare proxy operation callback allowed =>
      cases callback with
      | none => exact tabled_prepare_plain tabled accounted
      | some callback => exact tabled_prepare_callback tabled few accounted
  | reply ready member stored result =>
      exact tabled_of_same tabled accounted rfl rfl (sameTable_update (sameTable_handle result))
  | finish activity stored plain =>
      refine tabled_complete tabled accounted rfl rfl (fun _ => rfl) stored fun proxy => ?_
      refine (tabled.table proxy).congr fun counter value => and_iff_left ?_
      rintro ⟨-, counted⟩
      rw [plain] at counted
      cases counted
  | enter activity stored counted found =>
      have outstanding := outstanding_of_active tabled.accounted
        (by rw [activity]; exact List.mem_singleton_self _)
      obtain ⟨callback, -, result⟩ := tabled.found outstanding stored counted
      refine tabled_of_same tabled accounted rfl rfl (sameTable_update ?_)
      rw [result]
      exact .refl _
  | @leave id request counter activity stored counted =>
      refine tabled_complete tabled accounted rfl rfl ?_ stored ?_
      · intro proxy
        change (Function.update system.proxies request.proxy _ proxy).callbackCounter = _
        by_cases same : proxy = request.proxy
        · subst same
          rw [Function.update_self]
          rfl
        · rw [Function.update_of_ne same]
      · intro proxy
        change Tabulates (Function.update system.proxies request.proxy _ proxy).callbacks _
        by_cases same : proxy = request.proxy
        · subst same
          rw [Function.update_self]
          refine ((tabled.table _).erase counter).congr fun key value => ?_
          rw [counted, Option.some_inj, eq_comm (a := counter)]
          exact and_congr_right fun _ => not_congr (and_iff_right rfl)
        · rw [Function.update_of_ne same]
          exact (tabled.table proxy).congr fun key value =>
            and_iff_left fun both => same both.1.symm
  | signal ready result =>
      exact tabled_of_same tabled accounted rfl rfl (sameTable_update (sameTable_change result))
  | leaveSignal activity => exact tabled_of_same tabled accounted rfl rfl fun _ => .refl _
  | clearRunning phase => exact tabled_of_same tabled accounted rfl rfl fun _ => .refl _
  | quitWhenIdle phase => exact tabled_of_same tabled accounted rfl rfl fun _ => .refl _
  | loopReturns activity quitting =>
      exact tabled_of_same tabled accounted rfl rfl fun _ => .refl _
  | stopReturns phase returned =>
      exact tabled_of_same tabled accounted rfl rfl fun _ => .refl _

theorem tabled_run {objPath : ProxyId → String} {props : (proxy : ProxyId) → Properties proxy}
    {events : List Event} {system : System Properties}
    (run : machine.Run FewRequests (start objPath props) events system) : Tabled system :=
  run.invariant
    (fun _ _ _ tabled few stepped => tabled_effect tabled few (effect_of_step stepped))
    (tabled_start objPath props)

end System

end GConnman.DBus
