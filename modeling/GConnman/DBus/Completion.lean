import GConnman.Connman.Properties
import GConnman.DBus.CallbackTable

/-!
# Completions and their callbacks

Replies are dispatched one at a time, so the requests served so far are the
completed ones, in their order, and the one in completion.  A completion with a
callback finds it in the table and calls it with what the reply of that very
request says; a completion without a callback calls nothing.
-/

namespace GConnman.DBus

open GConnman.GLib GConnman.Foundation GConnman.Connman

/-- The request whose callback runs. -/
def Activity.invoked {Properties : ProxyId → Type} : Activity Properties → List RequestId
  | invoking request => [request]
  | _ => []

theorem Activity.invoked_sublist {Properties : ProxyId → Type} (activity : Activity Properties) :
    activity.invoked.Sublist activity.requests := by
  cases activity with
  | invoking request => exact .refl _
  | _ => exact List.nil_sublist _

/-- The properties in the argument are those the proxies hold. -/
def Argument.Current {Properties : ProxyId → Type} (argument : Argument Properties)
    (proxies : (proxy : ProxyId) → DBusProxy (Properties proxy)) : Prop :=
  match argument with
  | .success _ => True
  | .properties proxy value => (proxies proxy).props = value

section Arguments

variable {Properties : ProxyId → Type} [∀ proxy, PropertyRecord (Properties proxy)]

/-- The properties of a proxy after the reply; an error changes nothing. -/
def Served.propsAfter (served : Served Properties) (proxy : ProxyId) : Properties proxy :=
  match served.reply with
  | none => (served.proxies proxy).props
  | some outProperties => ((served.proxies proxy).updateProperties outProperties).state.props

/-- What a callback is promised for the reply to its request. -/
def Served.Reports (served : Served Properties) (request : Request)
    (argument : Argument Properties) : Prop :=
  match request.operation.callbackType with
  | .propertiesSet => argument = .success served.reply.isSome
  | .properties => argument = .properties request.proxy (served.propsAfter request.proxy)

/-- The handlers report the reply, with the properties they leave in the proxy. -/
theorem handle_reports (id : RequestId) {request : Request} {reply : Option GVariant}
    {proxies : (proxy : ProxyId) → DBusProxy (Properties proxy)}
    {handled : DBusProxy (Properties request.proxy) × Argument Properties}
    (result : request.operation.replyHandler.handle request.proxy (proxies request.proxy) reply =
      some handled) :
    (Served.mk id reply proxies).Reports request handled.2 ∧
      handled.2.Current (Function.update proxies request.proxy handled.1) := by
  rw [Served.Reports, ← Operation.castType_replyHandler]
  cases handler : request.operation.replyHandler with
  | finishAsyncCall =>
      rw [handler] at result
      cases result
      exact ⟨rfl, trivial⟩
  | getPropertyCb =>
      rw [handler] at result
      cases reply with
      | none =>
          cases result
          refine ⟨rfl, ?_⟩
          rw [Argument.Current, Function.update_self]
      | some outProperties =>
          simp only [ReplyHandler.handle] at result
          split at result
          · cases result
            refine ⟨rfl, ?_⟩
            rw [Argument.Current, Function.update_self]
          · cases result

end Arguments

namespace System

variable {Properties : ProxyId → Type}

/-- The callback a request was given. -/
def callbackOf (system : System Properties) (id : RequestId) : Option CallbackId :=
  system.prepared[id]?.bind Request.callback

theorem callbackOf_of_stored {system : System Properties} {id : RequestId} {request : Request}
    (stored : system.prepared[id]? = some request) : system.callbackOf id = request.callback := by
  rw [callbackOf, stored, Option.bind_some]

theorem callbackOf_append {system next : System Properties} {added : List Request}
    (prepared : next.prepared = system.prepared ++ added) {id : RequestId}
    (inside : id < system.prepared.length) : next.callbackOf id = system.callbackOf id := by
  rw [callbackOf, callbackOf, prepared, List.getElem?_append_left inside]

theorem current_prepare {system : System Properties} {argument : Argument Properties}
    (current : argument.Current system.proxies) (proxy : ProxyId) (operation : Operation)
    (callback : Option CallbackId) :
    argument.Current (Function.update system.proxies proxy
      ((system.proxies proxy).prepareCallback operation.callbackType callback).1) := by
  cases argument with
  | success value => trivial
  | properties other value =>
      change (Function.update system.proxies proxy _ other).props = value
      by_cases same : other = proxy
      · subst same
        rw [Function.update_self]
        cases callback <;> exact current
      · rw [Function.update_of_ne same]
        exact current

variable [∀ proxy, PropertyRecord (Properties proxy)]

/-- The argument is what the request is promised for its reply. -/
def Answered (system : System Properties) (id : RequestId) (argument : Argument Properties) :
    Prop :=
  ∃ request, system.prepared[id]? = some request ∧
    ∃ served ∈ system.served, served.request = id ∧ served.Reports request argument

theorem Answered.append {system next : System Properties} {id : RequestId}
    {argument : Argument Properties} (answered : system.Answered id argument)
    (prepared : system.prepared <+: next.prepared) (served : system.served ⊆ next.served) :
    next.Answered id argument := by
  obtain ⟨request, stored, reply, member, same, reports⟩ := answered
  obtain ⟨inside, found⟩ := List.getElem?_eq_some_iff.mp stored
  refine ⟨request, ?_, reply, served member, same, reports⟩
  rw [List.prefix_iff_getElem?.mp prepared id inside, found]

/-- Every completion so far went to the callback of its request. -/
structure Delivered (system : System Properties) : Prop where
  tabled : Tabled system
  serving : system.served.map Served.request = system.completed ++ system.activity.requests
  replied : ∀ id argument, system.activity = .replied id argument →
    system.Answered id argument ∧ argument.Current system.proxies
  invoked : system.invocations.map Invocation.request =
    (system.completed ++ system.activity.invoked).filter fun id => (system.callbackOf id).isSome
  justified : ∀ invocation ∈ system.invocations,
    system.callbackOf invocation.request = some invocation.callback ∧
      system.Answered invocation.request invocation.argument

theorem delivered_start (objPath : ProxyId → String)
    (props : (proxy : ProxyId) → Properties proxy) : Delivered (start objPath props) where
  tabled := tabled_start objPath props
  serving := rfl
  replied := by
    intro id argument activity
    cases activity
  invoked := rfl
  justified := List.forall_mem_nil _

/-! ## One step -/

theorem delivered_prepare {system : System Properties} {parent : Option RequestId}
    {proxy : ProxyId} {operation : Operation} {callback : Option CallbackId}
    (delivered : Delivered system)
    (tabled : Tabled (system.prepare parent proxy operation callback)) :
    Delivered (system.prepare parent proxy operation callback) := by
  have inside : ∀ id ∈ system.completed ++ system.activity.invoked,
      id < system.prepared.length := by
    intro id member
    rcases List.mem_append.mp member with done | invoked
    · exact lt_of_completed delivered.tabled.accounted done
    · exact lt_of_active delivered.tabled.accounted (system.activity.invoked_sublist.subset invoked)
  have prepared : (system.prepare parent proxy operation callback).prepared =
      system.prepared ++ [_] := rfl
  have known : ∀ {id argument}, system.Answered id argument →
      (system.prepare parent proxy operation callback).Answered id argument :=
    fun answered => answered.append (List.prefix_append _ _) (List.Subset.refl _)
  exact {
    tabled
    serving := delivered.serving
    replied := fun id argument activity =>
      have before := delivered.replied id argument activity
      ⟨known before.1, current_prepare before.2 proxy operation callback⟩
    invoked := by
      refine delivered.invoked.trans (List.filter_congr fun id member => ?_)
      rw [callbackOf_append prepared (inside id member)]
    justified := fun invocation member => by
      obtain ⟨given, answered⟩ := delivered.justified invocation member
      obtain ⟨request, stored, -⟩ := id answered
      obtain ⟨begun, -⟩ := List.getElem?_eq_some_iff.mp stored
      rw [callbackOf_append prepared begun]
      exact ⟨given, known answered⟩ }

theorem delivered_reply {system : System Properties} {id : RequestId} {reply : Option GVariant}
    {request : Request} {handled : DBusProxy (Properties request.proxy) × Argument Properties}
    (delivered : Delivered system) (idle : system.activity = .idle)
    (stored : system.prepared[id]? = some request)
    (result : request.operation.replyHandler.handle request.proxy (system.proxies request.proxy)
      reply = some handled)
    {next : System Properties}
    (replied : next = { system with
      proxies := Function.update system.proxies request.proxy handled.1
      inFlight := system.inFlight.erase id
      activity := .replied id handled.2
      served := system.served ++ [⟨id, reply, system.proxies⟩] })
    (tabled : Tabled next) : Delivered next := by
  subst replied
  exact {
    tabled
    serving := by
      rw [List.map_append, delivered.serving, idle]
      exact congrArg (· ++ [id]) (List.append_nil system.completed)
    replied := by
      rintro _ _ ⟨⟩
      have reports := handle_reports id result
      exact ⟨⟨request, stored, _, List.mem_append.mpr (.inr (List.mem_singleton_self _)), rfl,
        reports.1⟩, reports.2⟩
    invoked := by
      have before := delivered.invoked
      rw [idle] at before
      exact before
    justified := fun invocation member => by
      obtain ⟨given, answered⟩ := delivered.justified invocation member
      exact ⟨given, answered.append (List.prefix_refl _) (List.subset_append_left _ _)⟩ }

theorem delivered_finish {system : System Properties} {id : RequestId}
    {argument : Argument Properties} {request : Request} (delivered : Delivered system)
    (activity : system.activity = .replied id argument)
    (stored : system.prepared[id]? = some request) (plain : request.counter = none)
    (tabled : Tabled (system.complete id)) : Delivered (system.complete id) where
  tabled
  serving := by
    have before := delivered.serving
    rw [activity] at before
    exact before.trans (List.append_nil _).symm
  replied := by
    intro other value idle
    cases idle
  invoked := by
    have before := delivered.invoked
    have carries := delivered.tabled.carried id request stored
    rw [plain, ← callbackOf_of_stored stored] at carries
    rw [activity] at before
    change _ = ((system.completed ++ [id]) ++ []).filter fun other =>
      (system.callbackOf other).isSome
    rw [List.append_nil, List.filter_append, List.filter_singleton, ← carries]
    exact before.trans (by simp [Activity.invoked])
  justified := delivered.justified

theorem delivered_enter {system : System Properties} {id : RequestId}
    {argument : Argument Properties} {request : Request} {counter : UInt64}
    {callback : CallbackId} (delivered : Delivered system)
    (activity : system.activity = .replied id argument)
    (stored : system.prepared[id]? = some request) (counted : request.counter = some counter)
    (found : ((system.proxies request.proxy).findCallBack
      request.operation.replyHandler.castType counter).2 = .ok callback)
    {next : System Properties}
    (entered : next = { system with
      proxies := Function.update system.proxies request.proxy
        ((system.proxies request.proxy).findCallBack
          request.operation.replyHandler.castType counter).1
      activity := .invoking id
      invocations := system.invocations ++ [⟨id, callback, argument⟩] })
    (tabled : Tabled next) : Delivered next := by
  have outstanding := outstanding_of_active delivered.tabled.accounted
    (by rw [activity]; exact List.mem_singleton_self id)
  obtain ⟨given, carried, result⟩ := delivered.tabled.found outstanding stored counted
  rw [result] at found
  cases found
  have called : system.callbackOf id = some callback := (callbackOf_of_stored stored).trans carried
  subst entered
  exact {
    tabled
    serving := by
      have before := delivered.serving
      rw [activity] at before
      exact before
    replied := by
      rintro _ _ ⟨⟩
    invoked := by
      have before := delivered.invoked
      rw [activity] at before
      change (system.invocations ++ [_]).map _ =
        (system.completed ++ [id]).filter fun other => (system.callbackOf other).isSome
      rw [List.map_append, before, List.filter_append, List.filter_append]
      simp [Activity.invoked, called]
    justified := by
      intro invocation member
      rcases List.mem_append.mp member with earlier | last
      · exact delivered.justified invocation earlier
      · rw [List.mem_singleton.mp last]
        exact ⟨called, (delivered.replied id argument activity).1⟩ }

theorem delivered_leave {system : System Properties} {id : RequestId} {request : Request}
    {counter : UInt64} (delivered : Delivered system) (activity : system.activity = .invoking id)
    {next : System Properties}
    (left : next = { system with
      proxies := Function.update system.proxies request.proxy
        ((system.proxies request.proxy).eraseCallBack counter) }.complete id)
    (tabled : Tabled next) : Delivered next := by
  subst left
  exact {
    tabled
    serving := by
      have before := delivered.serving
      rw [activity] at before
      exact before.trans (List.append_nil _).symm
    replied := by
      rintro _ _ ⟨⟩
    invoked := by
      have before := delivered.invoked
      rw [activity] at before
      exact before.trans (congrArg _ (List.append_nil _).symm)
    justified := delivered.justified }

theorem delivered_effect {system next : System Properties} {event : Event}
    (delivered : Delivered system) (few : FewRequests system event)
    (effect : Effect system event next) : Delivered next := by
  have tabled := tabled_effect delivered.tabled few effect
  cases effect with
  | prepare proxy operation callback allowed => exact delivered_prepare delivered tabled
  | reply ready member stored result =>
      exact delivered_reply delivered (idle_of_ready ready).1 stored result rfl tabled
  | finish activity stored plain =>
      exact delivered_finish delivered activity stored plain tabled
  | enter activity stored counted found =>
      exact delivered_enter delivered activity stored counted found rfl tabled
  | leave activity stored counted => exact delivered_leave delivered activity rfl tabled
  | signal ready result =>
      have idle := (idle_of_ready ready).1
      have serving := delivered.serving
      have invoked := delivered.invoked
      rw [idle] at serving invoked
      exact {
        tabled, serving, invoked
        replied := by
          rintro _ _ ⟨⟩
        justified := delivered.justified }
  | leaveSignal activity =>
      have serving := delivered.serving
      have invoked := delivered.invoked
      rw [activity] at serving invoked
      exact {
        tabled, serving, invoked
        replied := by
          rintro _ _ ⟨⟩
        justified := delivered.justified }
  | clearRunning phase => exact { delivered with tabled }
  | quitWhenIdle phase => exact { delivered with tabled }
  | loopReturns activity quitting => exact { delivered with tabled }
  | stopReturns phase returned => exact { delivered with tabled }

theorem delivered_run {objPath : ProxyId → String} {props : (proxy : ProxyId) → Properties proxy}
    {events : List Event} {system : System Properties}
    (run : machine.Run FewRequests (start objPath props) events system) : Delivered system :=
  run.invariant
    (fun _ _ _ delivered few stepped => delivered_effect delivered few (effect_of_step stepped))
    (delivered_start objPath props)

/-! ## Runs -/

/-- In every state of every run with fewer than `2 ^ 64` requests of each proxy, the
tables hold the callbacks of the outstanding requests, a completion in progress
finds its callback while the proxy holds the properties it reports, every callback
is called at most once and with what the only reply to its own request says, and
the callbacks of all completed requests have been called. -/
theorem completions_reach_callbacks {objPath : ProxyId → String}
    {props : (proxy : ProxyId) → Properties proxy} {events : List Event}
    {system : System Properties}
    (run : machine.Run FewRequests (start objPath props) events system) :
    (∀ proxy counter value,
        (system.proxies proxy).callbacks counter = some value ↔
          system.Awaits proxy counter value) ∧
      (∀ id argument, system.activity = .replied id argument →
        system.enterCallBack.isSome ∧ argument.Current system.proxies) ∧
      (system.invocations.map Invocation.request).Nodup ∧
      (∀ invocation ∈ system.invocations,
        system.callbackOf invocation.request = some invocation.callback ∧
          system.Answered invocation.request invocation.argument) ∧
      (system.served.map Served.request).Nodup ∧
      (∀ id ∈ system.completed, (system.callbackOf id).isSome →
        id ∈ system.invocations.map Invocation.request) := by
  have delivered := delivered_run run
  have nodup : (system.activity.requests ++ system.completed).Nodup :=
    (Census.nodup delivered.tabled.accounted).of_append_right
  have once : (system.completed ++ system.activity.requests).Nodup :=
    List.perm_append_comm.nodup nodup
  refine ⟨delivered.tabled.table, ?_, ?_, delivered.justified, ?_, ?_⟩
  · intro id argument activity
    exact ⟨enterCallBack_isSome delivered.tabled activity,
      (delivered.replied id argument activity).2⟩
  · rw [delivered.invoked]
    refine List.Nodup.filter _ (once.sublist ?_)
    exact List.Sublist.append_left system.activity.invoked_sublist system.completed
  · rw [delivered.serving]
    exact once
  · intro id done called
    rw [delivered.invoked]
    exact List.mem_filter.mpr ⟨List.mem_append.mpr (.inl done), called⟩

/-- Two requests of one proxy, the second prepared in the callback of the first and
the first sent by `getProperties`: both callbacks are called, each with its reply. -/
theorem nested_completions_delivered :
    ∃ system : System fun _ => ClockProperties,
      machine.Run FewRequests (start (fun _ => "/") fun _ => {})
          [.prepare .thread 0 .getProperties (some 1), .prepare .thread 0 .setTime (some 2),
            .dispatchReply 1 none, .enterCallBack, .prepare .callback 0 .setTimeZone none,
            .leaveCallBack, .dispatchReply 0 (some (.dictionary [("Timezone", .string "UTC")])),
            .enterCallBack, .leaveCallBack, .dispatchReply 2 (some (.tuple [])),
            .enterCallBack] system ∧
        system.invocations.length = 2 ∧
        ∀ invocation ∈ system.invocations,
          system.callbackOf invocation.request = some invocation.callback := by
  have executes : (machine.exec? FewRequests
      (start (fun _ => "/") fun _ => ({} : ClockProperties))
      [.prepare .thread 0 .getProperties (some 1), .prepare .thread 0 .setTime (some 2),
        .dispatchReply 1 none, .enterCallBack, .prepare .callback 0 .setTimeZone none,
        .leaveCallBack, .dispatchReply 0 (some (.dictionary [("Timezone", .string "UTC")])),
        .enterCallBack, .leaveCallBack, .dispatchReply 2 (some (.tuple [])),
        .enterCallBack]).any
      (fun system => system.invocations.length = 2) = true := by
    decide
  obtain ⟨system, run, passes⟩ := Machine.Run.exists_of_exec executes
  have delivered := (completions_reach_callbacks run).2.2.2.1
  exact ⟨system, run, of_decide_eq_true passes,
    fun invocation member => (delivered invocation member).1⟩

end System

end GConnman.DBus
