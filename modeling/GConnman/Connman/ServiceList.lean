import GConnman.Connman.ServiceOrder
import GConnman.Foundation.TransitionSystem

/-!
# The service list over whole runs

Everything that reaches the service list: replies to GetServices, ServicesChanged
signals, the property changes of single services and the registrations of user
handlers.  After every signal the list holds exactly the announced paths in the
announced order; services that stay keep their identity and all their state, and
the others are built afresh.
-/

namespace GConnman.Connman

open GConnman.GLib GConnman.DBus GConnman.Foundation
open KnownProperties

/-- What happens to the service list. -/
inductive ListEvent where
  | getServicesReply (reply : Option (List Announcement))
  | servicesChanged (changed : List Announcement) (removed : List String)
  | onServicesChanged (callback : Option CallbackId)
  | propertyChanged (ref : Ref) (pair : String × GVariant)
  | onPropertyChanged (ref : Ref) (callback : Option CallbackId)

/-- Run an action on one service in place. -/
def Manager.updateService (manager : Manager) (ref : Ref)
    (action : Service → Outcome Fault Service) : Reaction where
  manager :=
    { manager with
      services := manager.services.withStore (manager.services.store.perform ref action).state
        (Nat.le_of_eq (ObjectStore.size_perform ..).symm) }
  raised := (manager.services.store.perform ref action).raised

def Manager.handle (manager : Manager) : ListEvent → Reaction
  | .getServicesReply reply => manager.getServicesCb (reply.map announcements)
  | .servicesChanged changed removed =>
      manager.onServicesChangedCb (servicesChangedParameters changed removed)
  | .onServicesChanged callback => { manager := manager.onServicesChanged callback }
  | .propertyChanged ref pair =>
      manager.updateService ref fun service =>
        service.updateProperty (.tuple [.string pair.1, .variant pair.2])
  | .onPropertyChanged ref callback =>
      manager.updateService ref fun service => .done (service.onPropertyChanged callback)

/-- A list of announcements the daemon may send: distinct paths, known entries. -/
def WellFormed (all : List Announcement) : Prop :=
  (all.map Prod.fst).Nodup ∧
    ∀ announced ∈ all, knownEntries ServProperties announced.2 = true

/-- The events whose messages are well formed. -/
def Admissible (_ : Manager) : ListEvent → Prop
  | .getServicesReply reply => ∀ all ∈ reply, WellFormed all
  | .servicesChanged changed _ => WellFormed changed
  | .propertyChanged _ pair => known ServProperties pair.1 pair.2 = true
  | .onServicesChanged _ => True
  | .onPropertyChanged _ _ => True

instance (all : List Announcement) : Decidable (WellFormed all) :=
  inferInstanceAs (Decidable (_ ∧ _))

instance (manager : Manager) (event : ListEvent) : Decidable (Admissible manager event) :=
  match event with
  | .getServicesReply none => .isTrue fun _ member => nomatch member
  | .getServicesReply (some all) =>
      decidable_of_iff (WellFormed all) ⟨fun formed _ member => by cases member; exact formed,
        fun formed => formed all rfl⟩
  | .servicesChanged changed _ => inferInstanceAs (Decidable (WellFormed changed))
  | .propertyChanged _ pair =>
      inferInstanceAs (Decidable (known ServProperties pair.1 pair.2 = true))
  | .onServicesChanged _ => inferInstanceAs (Decidable True)
  | .onPropertyChanged _ _ => inferInstanceAs (Decidable True)

def listMachine : Machine Manager ListEvent where
  step? manager event := (manager.handle event).next?

/-- The manager as its constructor leaves it; the two list callbacks are preset
with a function that does nothing. -/
def Manager.constructed (noop : CallbackId) : Manager where
  servicesChangedCb := some noop
  technologiesChangedCb := some noop

/-! ## Replies to GetServices -/

theorem getServicesCb_raised (manager : Manager) (all : List Announcement) :
    (manager.getServicesCb (some (announcements all))).raised = none ↔
      ∀ announced ∈ all, knownEntries ServProperties announced.2 = true := by
  rw [← proxies_raised Service.new (Draft.start manager.services) all,
    ← arraysToProxies_announcements]
  unfold Manager.getServicesCb
  cases ended : (arraysToProxies Service.new manager.services (announcements all)).raised with
  | none => simp only [ended]
  | some fault => simp only [ended, reduceCtorEq]

/-- A reply that does not raise makes the list the announced one. -/
theorem getServicesCb_paths {manager next : Manager} {all : List Announcement}
    (survived : (manager.getServicesCb (some (announcements all))).next? = some next) :
    paths next.services = all.map Prod.fst := by
  obtain ⟨normal, rfl⟩ := Reaction.next?_eq_some.mp survived
  obtain ⟨ended, -, -, placed, order, fresh⟩ := proxies_spec Service.new
    (Draft.start manager.services) all ((getServicesCb_raised manager all).mp normal)
  rw [← arraysToProxies_announcements] at ended order fresh
  have stored := paths_of_forall₂ (fresh.imp fun announced ref placement =>
    ⟨withEntries (Service.new announced.1) announced.2, placement.2, rfl⟩)
  rw [Draft.start_built, List.nil_append] at order
  simp only [Manager.getServicesCb, ended]
  rw [← stored, ← order]
  rfl

/-! ## ServicesChanged signals -/

theorem onServicesChangedCb_parameters (manager : Manager) (changed : List Announcement)
    (removed : List String) :
    manager.onServicesChangedCb (servicesChangedParameters changed removed) =
      let newOrder := placeServices (.start (eraseRemoved manager.services removed)) changed
      match newOrder.raised with
      | some fault =>
          { manager := { manager with services := newOrder.state.list }, raised := some fault }
      | none =>
          { manager := { manager with services := newOrder.state.commit }
            calls := manager.servicesChangedCb.toList.map
              (.servicesChanged · newOrder.state.built) } := by
  unfold Manager.onServicesChangedCb processServicesChanged
  rw [readServicesChanged_parameters]
  cases raised : (placeServices (.start (eraseRemoved manager.services removed)) changed).raised
  · simp only [raised]
    rfl
  · simp only [raised]

theorem onServicesChangedCb_raised (manager : Manager) (changed : List Announcement)
    (removed : List String) :
    (manager.onServicesChangedCb (servicesChangedParameters changed removed)).raised = none ↔
      ∀ announced ∈ changed, knownEntries ServProperties announced.2 = true := by
  rw [← placeServices_raised (.start (eraseRemoved manager.services removed)) changed,
    onServicesChangedCb_parameters]
  cases ended : (placeServices (.start (eraseRemoved manager.services removed)) changed).raised with
  | none => simp only [ended]
  | some fault => simp only [ended, reduceCtorEq]

/-- A signal that does not raise makes the list the announced one. -/
theorem onServicesChangedCb_paths {manager next : Manager} {changed : List Announcement}
    {removed : List String}
    (survived : (manager.onServicesChangedCb
      (servicesChangedParameters changed removed)).next? = some next) :
    paths next.services = changed.map Prod.fst := by
  obtain ⟨normal, rfl⟩ := Reaction.next?_eq_some.mp survived
  have known := (onServicesChangedCb_raised manager changed removed).mp normal
  have ended := (placeServices_raised (.start (eraseRemoved manager.services removed))
    changed).mpr known
  obtain ⟨placed, order, loop⟩ := placeServices_placed
    (.start (eraseRemoved manager.services removed)) changed known
  have stored := paths_of_forall₂ (loop.imp fun announced ref => placed_path changed)
  rw [Draft.start_built, List.nil_append] at order
  rw [onServicesChangedCb_parameters]
  simp only [ended]
  rw [← stored, ← order]
  rfl

/-- What becomes of an announcement: a listed service that is not removed stays
and has the entries folded in, and any other path gets a new service. -/
def Reconciled (services : SharedList Service) (removed : List String)
    (after : ObjectStore Service) (announced : Announcement) (ref : Ref) : Prop :=
  if announced.1 ∈ paths services ∧ announced.1 ∉ removed then
    ref ∈ services.refs ∧
      ∃ service, services.store.get? ref = some service ∧ service.objPath = announced.1 ∧
        after.get? ref = some (withEntries service announced.2)
  else
    services.store.size ≤ ref ∧
      after.get? ref = some (withEntries (Service.new announced.1) announced.2)

/-- A path is still listed after the erasing loop when it was listed and not removed. -/
theorem mem_paths_eraseRemoved (services : SharedList Service) (removed : List String)
    (path : String) :
    path ∈ paths (eraseRemoved services removed) ↔ path ∈ paths services ∧ path ∉ removed := by
  rw [eraseRemoved_paths, List.mem_filter]
  simp

theorem reconciled_of_placed {services : SharedList Service} {removed : List String}
    {changed : List Announcement} (formed : WellFormed changed) {announced : Announcement}
    (member : announced ∈ changed) {ref : Ref}
    (placed : Placed (eraseRemoved services removed)
      (placeServices (.start (eraseRemoved services removed)) changed).state.list.store
      announced ref) :
    Reconciled services removed
      (placeServices (.start (eraseRemoved services removed)) changed).state.list.store
      announced ref := by
  have still := mem_paths_eraseRemoved services removed announced.1
  unfold Placed at placed
  unfold Reconciled
  cases found : lookup (eraseRemoved services removed) announced.1 with
  | none =>
      have absent := lookup_none.mp found
      rw [found, eraseRemoved_store] at placed
      rw [if_neg fun listed => absent (still.mpr listed)]
      exact placed
  | some target =>
      rw [found] at placed
      cases placed
      obtain ⟨inLeft, service, stored, path⟩ := lookup_some found
      have present : announced.1 ∈ paths (eraseRemoved services removed) :=
        List.mem_map.mpr ⟨service, SharedList.mem_objects _ |>.mpr ⟨ref, inLeft, stored⟩, path⟩
      have entries := placeServices_get?_old (.start (eraseRemoved services removed)) changed
        (ObjectStore.lt_size_of_get? _ stored)
      rw [Draft.start_list, stored, Option.map_some, applied_of_known formed.2,
        carried_of_found formed.1 member found] at entries
      rw [if_pos (still.mp present)]
      rw [eraseRemoved_store] at stored
      exact ⟨mem_eraseRemoved inLeft, service, stored, path, entries⟩

/-- A well-formed signal is handled completely, from any state of the manager. -/
theorem onServicesChangedCb_spec (manager : Manager) {changed : List Announcement}
    (formed : WellFormed changed) (removed : List String) :
    let reaction := manager.onServicesChangedCb (servicesChangedParameters changed removed)
    reaction.raised = none ∧
      paths reaction.manager.services = changed.map Prod.fst ∧
      List.Forall₂ (Reconciled manager.services removed reaction.manager.services.store)
        changed reaction.manager.services.refs ∧
      reaction.calls = manager.servicesChangedCb.toList.map
        (.servicesChanged · reaction.manager.services.refs) := by
  have normal := (placeServices_raised (.start (eraseRemoved manager.services removed))
    changed).mpr formed.2
  obtain ⟨placed, order, loop⟩ := placeServices_placed
    (.start (eraseRemoved manager.services removed)) changed formed.2
  have listed := onServicesChangedCb_paths (Reaction.next?_eq_some.mpr
    ⟨(onServicesChangedCb_raised manager changed removed).mpr formed.2, rfl⟩)
  rw [onServicesChangedCb_parameters] at listed ⊢
  simp only [normal] at listed ⊢
  rw [Draft.start_built, List.nil_append] at order
  have reconciled : List.Forall₂ (Reconciled manager.services removed
      (placeServices (.start (eraseRemoved manager.services removed)) changed).state.list.store)
      changed placed := by
    rw [List.forall₂_iff_zip] at loop ⊢
    exact ⟨loop.1, fun pair => reconciled_of_placed formed (List.of_mem_zip pair).1 (loop.2 pair)⟩
  rw [Draft.commit_refs, order]
  exact ⟨trivial, listed, reconciled, rfl⟩

/-! ## Changes of single services -/

theorem paths_updateService (manager : Manager) (ref : Ref)
    {action : Service → Outcome Fault Service}
    (samePath : ∀ service, (action service).state.objPath = service.objPath) :
    paths (manager.updateService ref action).manager.services = paths manager.services := by
  have same : ∀ other,
      ((manager.services.store.perform ref action).state.get? other).map DBusProxy.objPath =
        (manager.services.store.get? other).map DBusProxy.objPath := by
    intro other
    by_cases equal : ref = other
    · subst equal
      cases stored : manager.services.store.get? ref with
      | none => rw [ObjectStore.perform, stored, Outcome.done_state, stored]
      | some service =>
          rw [ObjectStore.get?_perform_self _ stored, Option.map_some, Option.map_some, samePath]
    · rw [ObjectStore.get?_perform_of_ne _ _ equal]
  unfold paths SharedList.objects
  rw [List.map_filterMap, List.map_filterMap]
  exact List.filterMap_congr fun other _ => same other

theorem updateProperty_objPath (service : Service) (prop : GVariant) :
    (service.updateProperty prop).state.objPath = service.objPath := by
  obtain ⟨props, changed⟩ := service.exists_props_updateProperty prop
  rw [changed]

theorem onPropertyChanged_objPath (service : Service) (callback : Option CallbackId) :
    (service.onPropertyChanged callback).objPath = service.objPath := by
  cases callback <;> rfl

/-! ## Runs -/

/-- Well-formed messages never raise. -/
theorem handle_raised (manager : Manager) {event : ListEvent}
    (admissible : Admissible manager event) : (manager.handle event).raised = none := by
  cases event with
  | getServicesReply reply =>
      cases reply with
      | none => rfl
      | some all => exact (getServicesCb_raised manager all).mpr (admissible all rfl).2
  | servicesChanged changed removed =>
      exact (onServicesChangedCb_spec manager admissible removed).1
  | onServicesChanged callback => rfl
  | propertyChanged ref pair =>
      change (manager.services.store.perform ref _).raised = none
      cases stored : manager.services.store.get? ref with
      | none => rw [ObjectStore.perform, stored, Outcome.done_raised]
      | some service =>
          rw [ObjectStore.perform_raised _ stored]
          exact congrArg Outcome.raised (DBusProxy.updateProperty_of_known service admissible)
  | onPropertyChanged ref callback =>
      change (manager.services.store.perform ref _).raised = none
      cases stored : manager.services.store.get? ref with
      | none => rw [ObjectStore.perform, stored, Outcome.done_raised]
      | some service => rw [ObjectStore.perform_raised _ stored, Outcome.done_raised]

theorem step_of_admissible (manager : Manager) {event : ListEvent}
    (admissible : Admissible manager event) :
    listMachine.step? manager event = some (manager.handle event).manager := by
  exact Reaction.next?_eq_some.mpr ⟨handle_raised manager admissible, rfl⟩

/-- No two listed services have the same path. -/
def DistinctPaths (manager : Manager) : Prop := (paths manager.services).Nodup

/-- Every admissible event keeps the listed paths distinct. -/
theorem handle_distinct (manager : Manager) {event : ListEvent}
    (admissible : Admissible manager event) (distinct : DistinctPaths manager) :
    DistinctPaths (manager.handle event).manager := by
  cases event with
  | getServicesReply reply =>
      cases reply with
      | none => exact distinct
      | some all =>
          have formed := admissible all rfl
          have survived := Reaction.next?_eq_some.mpr
            ⟨(getServicesCb_raised manager all).mpr formed.2, rfl⟩
          change (paths (manager.getServicesCb (some (announcements all))).manager.services).Nodup
          rw [getServicesCb_paths survived]
          exact formed.1
  | servicesChanged changed removed =>
      have listed := (onServicesChangedCb_spec manager admissible removed).2.1
      change (paths (manager.onServicesChangedCb _).manager.services).Nodup
      rw [listed]
      exact admissible.1
  | onServicesChanged callback => cases callback <;> exact distinct
  | propertyChanged ref pair =>
      change (paths (manager.updateService ref _).manager.services).Nodup
      rw [paths_updateService manager ref fun service => updateProperty_objPath service _]
      exact distinct
  | onPropertyChanged ref callback =>
      change (paths (manager.updateService ref _).manager.services).Nodup
      rw [paths_updateService manager ref fun service => onPropertyChanged_objPath service callback]
      exact distinct

theorem run_distinct {noop : CallbackId} {events : List ListEvent} {manager : Manager}
    (run : listMachine.Run Admissible (Manager.constructed noop) events manager) :
    DistinctPaths manager := by
  refine run.invariant ?_ List.nodup_nil
  intro before event after distinct admissible step
  rw [step_of_admissible before admissible, Option.some.injEq] at step
  rw [← step]
  exact handle_distinct before admissible distinct

/-- In every state a run of well-formed messages reaches, the listed paths are
distinct, no further well-formed message raises, and every further ServicesChanged
signal makes the list exactly the announced one: the same paths in the same order,
each with its old object updated in place if the path was listed and not removed
and with a new object otherwise.  The callback in force is called once, with the
new list. -/
theorem service_list_reconciled {noop : CallbackId} {events : List ListEvent} {manager : Manager}
    (run : listMachine.Run Admissible (Manager.constructed noop) events manager) :
    DistinctPaths manager ∧
      (∀ event, Admissible manager event → (manager.handle event).raised = none) ∧
      ∀ changed removed, WellFormed changed →
        let reaction := manager.handle (.servicesChanged changed removed)
        paths reaction.manager.services = changed.map Prod.fst ∧
          List.Forall₂ (Reconciled manager.services removed reaction.manager.services.store)
            changed reaction.manager.services.refs ∧
          reaction.calls = manager.servicesChangedCb.toList.map
            (.servicesChanged · reaction.manager.services.refs) :=
  ⟨run_distinct run, fun _ => handle_raised manager,
    fun _ removed formed => (onServicesChangedCb_spec manager formed removed).2⟩

/-- The manager after a reply that lists two services. -/
def Manager.populated : Manager :=
  ((Manager.constructed 0).handle (.getServicesReply (some
    [("/wifi", [("Name", .string "Home"), ("Type", .string "wifi")]), ("/wired", [])]))).manager

/-- One service is renamed and moves to the end, the other one is removed and
announced again in the same signal. -/
theorem populated_list_reconciled :
    DistinctPaths Manager.populated ∧
      paths (Manager.populated.handle (.servicesChanged
        [("/wired", []), ("/wifi", [("Name", .string "Office")])] ["/wired"])).manager.services =
        ["/wired", "/wifi"] := by
  have admissible : Admissible (Manager.constructed 0) (.getServicesReply (some
      [("/wifi", [("Name", .string "Home"), ("Type", .string "wifi")]), ("/wired", [])])) := by
    decide
  have reconciled := service_list_reconciled
    (.single admissible (step_of_admissible (Manager.constructed 0) admissible))
  exact ⟨reconciled.1, (reconciled.2.2 _ _ (by decide)).1⟩

end GConnman.Connman
