import GConnman.Connman.ServiceList

/-!
# What an application is told

An application that has registered for the list of services and for the properties of
services keeps a view of its own: the list it was last called with, the records it read
of the listed services in that call, and what it has been called with for single
services since.  Its calls come from the loop thread, between one message and the next.

Not every change is followed by a call.  An empty reply to GetServices empties the list
in silence, and a record that changes without a handler of its own, or by a reply that
nobody waits for, changes in silence as well.
-/

namespace GConnman.Connman

open GConnman.GLib GConnman.DBus GConnman.Foundation
open PropertyRecord KnownProperties

/-- `on_properties_changed_cb`: what the signal makes of the service, and the call of the
user's handler. -/
def Service.onPropertiesChangedCb (service : Service) (parameters : GVariant) :
    Outcome Fault Service × Option (CallbackId × ServProperties) :=
  let updated := service.updateProperty parameters
  (updated,
    match updated.raised with
    | none => updated.state.onPropertyChangedUserCb.map fun callback =>
        (callback, updated.state.props)
    | some _ => none)

/-- `get_property_cb`: the reply is read in, and the callback of the request is called with
the record, also after an error. -/
def Service.getPropertyCb (service : Service) (reply : Option GVariant)
    (callback : Option CallbackId) :
    Outcome Fault Service × Option (CallbackId × ServProperties) :=
  let updated :=
    match reply with
    | none => .done service
    | some properties => service.updateProperties properties
  (updated,
    match updated.raised with
    | none => callback.map fun called => (called, updated.state.props)
    | some _ => none)

/-- What an application has of the services. -/
structure ServicesView where
  list : List Ref
  records : Ref → Option ServProperties

/-- The record of a service. -/
def Manager.record (manager : Manager) (ref : Ref) : Option ServProperties :=
  (manager.services.store.get? ref).map DBusProxy.props

/-- The application takes the list it is called with and reads the listed services. -/
def ServicesView.listCalled (view : ServicesView) (manager : Manager) :
    ListCall → ServicesView
  | .servicesChanged _ proxies =>
      { list := proxies
        records := fun ref => if ref ∈ proxies then manager.record ref else view.records ref }
  | .technologiesChanged _ _ => view

/-- The application takes the record it is called with, if it is called. -/
def ServicesView.recordCalled (view : ServicesView) (ref : Ref) :
    Option (CallbackId × ServProperties) → ServicesView
  | none => view
  | some (_, props) => { view with records := Function.update view.records ref (some props) }

structure Observation where
  manager : Manager
  view : ServicesView

inductive ObservationEvent where
  | getServicesReply (reply : Option (List Announcement))
  | servicesChanged (changed : List Announcement) (removed : List String)
  | onServicesChanged (callback : Option CallbackId)
  | propertyChanged (ref : Ref) (pair : String × GVariant)
  | onPropertyChanged (ref : Ref) (callback : Option CallbackId)
  | getPropertiesReply (ref : Ref) (reply : Option (List (String × GVariant)))
    (callback : Option CallbackId)

namespace Observation

/-- The state after a message for the list. -/
def afterList (state : Observation) (reaction : Reaction) : Option Observation :=
  reaction.next?.map fun manager =>
    { manager, view := reaction.calls.foldl (·.listCalled manager) state.view }

/-- The state after a message for one service. -/
def afterRecord (state : Observation) (ref : Ref)
    (handler : Service → Outcome Fault Service × Option (CallbackId × ServProperties)) :
    Option Observation :=
  (state.manager.updateService ref fun service => (handler service).1).next?.map fun manager =>
    { manager
      view := state.view.recordCalled ref
        ((state.manager.services.store.get? ref).bind fun service => (handler service).2) }

def step? (state : Observation) : ObservationEvent → Option Observation
  | .getServicesReply reply => state.afterList (state.manager.handle (.getServicesReply reply))
  | .servicesChanged changed removed =>
      state.afterList (state.manager.handle (.servicesChanged changed removed))
  | .onServicesChanged callback =>
      state.afterList (state.manager.handle (.onServicesChanged callback))
  | .propertyChanged ref pair =>
      state.afterRecord ref fun service =>
        service.onPropertiesChangedCb (.tuple [.string pair.1, .variant pair.2])
  | .onPropertyChanged ref callback =>
      state.afterRecord ref fun service => (.done (service.onPropertyChanged callback), none)
  | .getPropertiesReply ref reply callback =>
      state.afterRecord ref fun service =>
        service.getPropertyCb (reply.map GVariant.dictionary) callback

def machine : Machine Observation ObservationEvent := ⟨step?⟩

/-- An application has registered and read the list and the listed services. -/
def begin (manager : Manager) (callback : CallbackId) : Observation where
  manager := manager.onServicesChanged (some callback)
  view := { list := manager.services.refs, records := manager.record }

/-- The messages are well formed. -/
def Admissible (_ : Observation) : ObservationEvent → Prop
  | .getServicesReply reply => ∀ all ∈ reply, WellFormed all
  | .servicesChanged changed _ => WellFormed changed
  | .propertyChanged _ pair => known ServProperties pair.1 pair.2 = true
  | .getPropertiesReply _ reply _ =>
      ∀ entries ∈ reply, knownEntries ServProperties entries = true
  | .onServicesChanged _ | .onPropertyChanged _ _ => True

/-- The application knows the list and the record of every listed service. -/
structure Exact (state : Observation) : Prop where
  list : state.view.list = state.manager.services.refs
  records : ∀ ref ∈ state.manager.services.refs,
    state.view.records ref = state.manager.record ref

/-- A change of a record that nobody is called for is none, or of no listed service. -/
def Idle (state : Observation) (ref : Ref) (called : Service → Bool)
    (change : ServProperties → ServProperties) : Prop :=
  ref ∈ state.manager.services.refs → ∀ service,
    state.manager.services.store.get? ref = some service →
      called service = true ∨ change service.props = service.props

/-- What the event changes is reported. -/
def Reported (state : Observation) : ObservationEvent → Prop
  | .getServicesReply (some []) => state.manager.services.refs = []
  | .propertyChanged ref pair =>
      state.Idle ref (fun service => service.onPropertyChangedUserCb.isSome)
        (overwrite · pair)
  | .getPropertiesReply ref (some entries) callback =>
      state.Idle ref (fun _ => callback.isSome) (fold · entries)
  | _ => True

/-! ## Records -/

theorem record_updateService_self {manager : Manager} {ref : Ref} {service : Service}
    (stored : manager.services.store.get? ref = some service)
    (action : Service → Outcome Fault Service) :
    (manager.updateService ref action).manager.record ref =
      some (action service).state.props := by
  have updated := manager.services.store.get?_perform_self stored action
  exact congrArg (Option.map DBusProxy.props) updated

theorem record_updateService_of_ne (manager : Manager) {ref other : Ref}
    (different : ref ≠ other) (action : Service → Outcome Fault Service) :
    (manager.updateService ref action).manager.record other = manager.record other :=
  congrArg (Option.map DBusProxy.props)
    (manager.services.store.get?_perform_of_ne action different)

theorem updateService_of_missing {manager : Manager} {ref : Ref}
    (missing : manager.services.store.get? ref = none)
    (action : Service → Outcome Fault Service) (other : Ref) :
    (manager.updateService ref action).manager.record other = manager.record other := by
  unfold Manager.record Manager.updateService
  simp only [SharedList.withStore_store, ObjectStore.perform, missing, Outcome.done_state]

variable {state next : Observation}

/-- A handler that makes this change of a service, and calls for some services with what it
has made. -/
structure Handles
    (handler : Service → Outcome Fault Service × Option (CallbackId × ServProperties))
    (called : Service → Bool) (change : ServProperties → ServProperties) : Prop where
  props : ∀ service, (handler service).1.state.props = change service.props
  tells : ∀ service, (handler service).2.map Prod.snd =
    if called service then some (change service.props) else none

/-- After the message of a service the view is exact exactly if a change was reported. -/
theorem exact_afterRecord_iff (exact : state.Exact) {ref : Ref}
    {handler : Service → Outcome Fault Service × Option (CallbackId × ServProperties)}
    {called : Service → Bool} {change : ServProperties → ServProperties}
    (handles : Handles handler called change)
    (stepped : state.afterRecord ref handler = some next) :
    next.Exact ↔ state.Idle ref called change := by
  obtain ⟨manager, updated, rfl⟩ := Option.map_eq_some_iff.mp stepped
  obtain ⟨-, rfl⟩ := Reaction.next?_eq_some.mp updated
  cases stored : state.manager.services.store.get? ref with
  | none =>
      constructor
      · intro _ _ service found
        rw [stored] at found
        cases found
      · intro _
        refine ⟨exact.list, fun other member => ?_⟩
        rw [updateService_of_missing stored]
        exact exact.records other member
  | some service =>
      have tells := handles.tells service
      have own := record_updateService_self stored fun service => (handler service).1
      rw [handles.props] at own
      have others : ∀ other, ref ≠ other → _ := fun other different =>
        record_updateService_of_ne state.manager different fun service => (handler service).1
      rw [Option.bind_some]
      cases reported : called service with
      | true =>
          rw [reported, if_pos rfl, Option.map_eq_some_iff] at tells
          obtain ⟨call, made, same⟩ := tells
          constructor
          · intro _ _ found held
            rw [stored] at held
            cases held
            exact .inl reported
          · intro _
            rw [made]
            refine ⟨exact.list, fun other member => ?_⟩
            by_cases here : ref = other
            · subst here
              rw [own, ← same]
              exact Function.update_self ..
            · rw [others other here]
              exact (Function.update_of_ne (Ne.symm here) ..).trans (exact.records other member)
      | false =>
          rw [reported, if_neg Bool.false_ne_true, Option.map_eq_none_iff] at tells
          rw [tells]
          have before : state.manager.record ref = some service.props := by
            rw [Manager.record, stored]
            rfl
          constructor
          · intro after member found held
            rw [stored] at held
            cases held
            have same := (exact.records ref member).symm.trans (after.records ref member)
            rw [before, own] at same
            exact .inr (Option.some.inj same).symm
          · intro idle
            refine ⟨exact.list, fun other member => ?_⟩
            by_cases here : ref = other
            · subst here
              have same := (idle member service stored).resolve_left (by simp [reported])
              rw [own, same, ← before]
              exact exact.records ref member
            · rw [others other here]
              exact exact.records other member

theorem handles_onPropertiesChangedCb {pair : String × GVariant}
    (accepted : known ServProperties pair.1 pair.2 = true) :
    Handles
      (fun service => service.onPropertiesChangedCb (.tuple [.string pair.1, .variant pair.2]))
      (fun service => service.onPropertyChangedUserCb.isSome) (overwrite · pair) := by
  have updated : ∀ service : Service,
      service.updateProperty (.tuple [.string pair.1, .variant pair.2]) =
        .done { service with props := overwrite service.props pair } :=
    fun service => service.updateProperty_of_known accepted
  constructor
  · intro service
    rw [Service.onPropertiesChangedCb, updated]
    rfl
  · intro service
    rw [Service.onPropertiesChangedCb, updated]
    cases service.onPropertyChangedUserCb <;> rfl

theorem handles_getPropertyCb {reply : Option (List (String × GVariant))}
    (accepted : ∀ entries ∈ reply, knownEntries ServProperties entries = true)
    (callback : Option CallbackId) :
    Handles (fun service => service.getPropertyCb (reply.map GVariant.dictionary) callback)
      (fun _ => callback.isSome) (fold · (reply.getD [])) := by
  cases reply with
  | none => constructor <;> intro service <;> cases callback <;> rfl
  | some entries =>
      have updated : ∀ service : Service,
          service.updateProperties (GVariant.dictionary entries) =
            .done { service with props := fold service.props entries } :=
        fun service => service.updateProperties_of_known (accepted entries rfl)
      constructor
      · intro service
        simp only [Option.map_some, Service.getPropertyCb, updated, Outcome.done_state]
        rfl
      · intro service
        simp only [Option.map_some, Service.getPropertyCb, updated, Outcome.done_raised,
          Outcome.done_state]
        cases callback <;> rfl

/-! ## Lists -/

/-- A reply is followed by a call with the new list, unless that is empty. -/
theorem getServicesCb_calls {manager after : Manager} {reply : GVariant}
    (survived : (manager.getServicesCb (some reply)).next? = some after) :
    (manager.getServicesCb (some reply)).calls =
      if after.services.refs = [] then []
      else manager.servicesChangedCb.toList.map (.servicesChanged · after.services.refs) := by
  obtain ⟨normal, rfl⟩ := Reaction.next?_eq_some.mp survived
  unfold Manager.getServicesCb at normal ⊢
  cases raised : (arraysToProxies Service.new manager.services reply).raised with
  | none => simp [raised, List.isEmpty_iff]
  | some fault => simp [raised] at normal

theorem refs_eq_nil_iff {Properties : Type} (list : SharedList (DBusProxy Properties)) :
    list.refs = [] ↔ paths list = [] := by
  constructor
  · intro empty
    rw [paths, SharedList.objects, empty]
    rfl
  · intro none
    apply List.eq_nil_iff_forall_not_mem.mpr
    intro ref member
    obtain ⟨object, stored⟩ := list.exists_of_mem member
    have listed : object.objPath ∈ paths list :=
      List.mem_map_of_mem (list.mem_objects.mpr ⟨ref, member, stored⟩)
    rw [none] at listed
    cases listed

/-- A call with the list in force makes the view exact. -/
theorem exact_listCalled (view : ServicesView) (manager : Manager) (callback : CallbackId) :
    Exact { manager
            view := view.listCalled manager
              (.servicesChanged callback manager.services.refs) } where
  list := rfl
  records _ member := if_pos member

/-- A message makes the view exact or not exactly as it reports what it changes. -/
theorem exact_step_iff (watched : state.manager.servicesChangedCb.isSome = true)
    (exact : state.Exact) {event : ObservationEvent} (admissible : Admissible state event)
    (stepped : state.step? event = some next) : next.Exact ↔ state.Reported event := by
  obtain ⟨watcher, installed⟩ := Option.isSome_iff_exists.mp watched
  cases event with
  | getServicesReply reply =>
      obtain ⟨manager, updated, rfl⟩ := Option.map_eq_some_iff.mp stepped
      cases reply with
      | none =>
          cases updated
          exact ⟨fun _ => trivial, fun _ => exact⟩
      | some all =>
          have calls := getServicesCb_calls updated
          have listed := getServicesCb_paths updated
          change Exact { manager, view :=
            (state.manager.getServicesCb (some (announcements all))).calls.foldl _ _ } ↔ _
          rw [calls, installed]
          cases all with
          | nil =>
              have empty := (refs_eq_nil_iff _).mpr listed
              rw [if_pos empty]
              constructor
              · intro after
                exact exact.list.symm.trans (after.list.trans empty)
              · intro silent
                refine ⟨(exact.list.trans silent).trans empty.symm, fun ref member => ?_⟩
                rw [empty] at member
                cases member
          | cons first rest =>
              have some_listed : manager.services.refs ≠ [] := by
                intro empty
                rw [(refs_eq_nil_iff _).mp empty] at listed
                cases listed
              rw [if_neg some_listed]
              exact ⟨fun _ => trivial, fun _ => exact_listCalled state.view manager watcher⟩
  | servicesChanged changed removed =>
      obtain ⟨manager, updated, rfl⟩ := Option.map_eq_some_iff.mp stepped
      obtain ⟨-, rfl⟩ := Reaction.next?_eq_some.mp updated
      have calls := (onServicesChangedCb_spec state.manager admissible removed).2.2.2
      change Exact { manager := _, view :=
        (state.manager.onServicesChangedCb _).calls.foldl _ _ } ↔ _
      rw [calls, installed]
      exact ⟨fun _ => trivial, fun _ => exact_listCalled state.view _ watcher⟩
  | onServicesChanged callback =>
      cases stepped
      refine ⟨fun _ => trivial, fun _ => ?_⟩
      cases callback with
      | none => exact exact
      | some callback => exact ⟨exact.list, exact.records⟩
  | propertyChanged ref pair =>
      exact exact_afterRecord_iff exact (handles_onPropertiesChangedCb admissible) stepped
  | onPropertyChanged ref callback =>
      have handles : Handles (fun service => (.done (service.onPropertyChanged callback), none))
          (fun _ => false) id :=
        ⟨fun service => by cases callback <;> rfl, fun _ => rfl⟩
      rw [exact_afterRecord_iff exact handles stepped]
      exact ⟨fun _ => trivial, fun _ _ _ _ => .inr rfl⟩
  | getPropertiesReply ref reply callback =>
      rw [exact_afterRecord_iff exact (handles_getPropertyCb admissible callback) stepped]
      cases reply with
      | none => exact ⟨fun _ => trivial, fun _ _ _ _ => .inr rfl⟩
      | some entries => exact Iff.rfl

/-! ## Runs -/

/-- No message takes the list callback away, and nothing puts a null one in its place. -/
theorem handle_watched {manager : Manager} (watched : manager.servicesChangedCb.isSome = true)
    (event : ListEvent) : (manager.handle event).manager.servicesChangedCb.isSome = true := by
  cases event with
  | getServicesReply reply =>
      cases reply with
      | none => exact watched
      | some all =>
          simp only [Manager.handle, Manager.getServicesCb, Option.map_some]
          split <;> exact watched
  | servicesChanged changed removed =>
      simp only [Manager.handle, Manager.onServicesChangedCb]
      split
      · exact watched
      · split <;> exact watched
  | onServicesChanged callback =>
      cases callback with
      | none => exact watched
      | some callback => rfl
  | propertyChanged ref pair => exact watched
  | onPropertyChanged ref callback => exact watched

theorem watched_step (watched : state.manager.servicesChangedCb.isSome = true)
    {event : ObservationEvent} (stepped : state.step? event = some next) :
    next.manager.servicesChangedCb.isSome = true := by
  have kept := handle_watched watched
  cases event with
  | getServicesReply reply =>
      obtain ⟨manager, updated, rfl⟩ := Option.map_eq_some_iff.mp stepped
      obtain ⟨-, rfl⟩ := Reaction.next?_eq_some.mp updated
      exact kept (.getServicesReply reply)
  | servicesChanged changed removed =>
      obtain ⟨manager, updated, rfl⟩ := Option.map_eq_some_iff.mp stepped
      obtain ⟨-, rfl⟩ := Reaction.next?_eq_some.mp updated
      exact kept (.servicesChanged changed removed)
  | onServicesChanged callback =>
      cases stepped
      exact kept (.onServicesChanged callback)
  | propertyChanged ref pair =>
      obtain ⟨manager, updated, rfl⟩ := Option.map_eq_some_iff.mp stepped
      obtain ⟨-, rfl⟩ := Reaction.next?_eq_some.mp updated
      exact watched
  | onPropertyChanged ref callback =>
      obtain ⟨manager, updated, rfl⟩ := Option.map_eq_some_iff.mp stepped
      obtain ⟨-, rfl⟩ := Reaction.next?_eq_some.mp updated
      exact watched
  | getPropertiesReply ref reply callback =>
      obtain ⟨manager, updated, rfl⟩ := Option.map_eq_some_iff.mp stepped
      obtain ⟨-, rfl⟩ := Reaction.next?_eq_some.mp updated
      exact watched

theorem exact_begin (manager : Manager) (callback : CallbackId) :
    Exact (begin manager callback) where
  list := rfl
  records _ _ := rfl

variable {manager : Manager} {callback : CallbackId} {events : List ObservationEvent}
  {finish : Observation}

/-- The application is up to date and will be called for the next list. -/
structure Following (state : Observation) : Prop where
  watched : state.manager.servicesChangedCb.isSome = true
  exact : state.Exact

/-- In a run that reports its changes the application is up to date. -/
theorem following_of_reported
    (run : machine.Run (fun state event => Admissible state event ∧ state.Reported event)
      (begin manager callback) events finish) : Following finish := by
  refine run.invariant (fun before event after following allowed stepped => ?_)
    ⟨rfl, exact_begin manager callback⟩
  obtain ⟨watched, exact⟩ := following
  exact ⟨watched_step watched stepped,
    (exact_step_iff watched exact allowed.1 stepped).mpr allowed.2⟩

/-- An application that has registered and read once knows the list and the records
throughout a run exactly if the run reports all its changes. -/
theorem reported_iff_exact (manager : Manager) (callback : CallbackId)
    (events : List ObservationEvent) (finish : Observation) :
    machine.Run (fun state event => Admissible state event ∧ state.Reported event)
        (begin manager callback) events finish ↔
      machine.Run (fun state event => Admissible state event ∧
        ∀ next, state.step? event = some next → next.Exact)
        (begin manager callback) events finish := by
  constructor
  · intro run
    induction run with
    | refl => exact .refl
    | tail before allowed stepped ih =>
        obtain ⟨watched, exact⟩ := following_of_reported before
        exact ih.tail ⟨allowed.1, fun next goes =>
          (exact_step_iff watched exact allowed.1 goes).mpr allowed.2⟩ stepped
  · intro run
    induction run with
    | refl => exact .refl
    | tail before allowed stepped ih =>
        obtain ⟨watched, exact⟩ := following_of_reported ih
        exact ih.tail ⟨allowed.1,
          (exact_step_iff watched exact allowed.1 stepped).mp (allowed.2 _ stepped)⟩ stepped

/-- An empty reply empties the list of two services, and the application keeps both. -/
example : (machine.exec? Machine.anyStep (begin Manager.populated 1)
    [.getServicesReply (some [])]).any
    (fun finish => finish.manager.services.refs = [] ∧ finish.view.list = [0, 1]) = true := by
  decide

end Observation

end GConnman.Connman
