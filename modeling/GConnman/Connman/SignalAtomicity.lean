import GConnman.Connman.ServiceList
import GConnman.Connman.ServiceSlots

/-!
# Signals that raise

The handler of ServicesChanged erases the removed services and updates the
listed ones in place before it knows that the whole message can be decoded.  A
signal that raises is therefore undone only where there is nothing to undo: it
must not remove a listed path, and whatever it applies to a listed service
before the failing entry must repeat what the service already holds.
-/

namespace GConnman.Connman

open GConnman.GLib GConnman.DBus GConnman.Foundation
open SlottedProperties

/-- The list and the properties of the services on it are what they were. -/
structure Untouched (before after : SharedList Service) : Prop where
  refs : after.refs = before.refs
  paths : paths after = paths before
  props : ∀ ref ∈ before.refs,
    (after.store.get? ref).map DBusProxy.props = (before.store.get? ref).map DBusProxy.props

/-- No listed path is removed. -/
def RemovesNothing (services : SharedList Service) (removed : List String) : Prop :=
  ∀ path ∈ paths services, path ∉ removed

/-- Of everything that is applied to a listed service before the failing entry,
the last value for each property is the one the service holds. -/
def RepeatsHeldValues (services : SharedList Service) (changed : List Announcement) : Prop :=
  ∀ ref ∈ services.refs, ∀ service, services.store.get? ref = some service →
    ∀ slot : Slot ServProperties,
      ∀ value ∈ lastValue slot (carried services (applied changed) ref),
        value = get service.props slot

theorem eraseRemoved_of_removesNothing {services : SharedList Service} {removed : List String}
    (nothing : RemovesNothing services removed) : eraseRemoved services removed = services := by
  obtain ⟨store, refs, linked⟩ := services
  rw [eraseRemoved_eq]
  simp only [SharedList.removeIf, SharedList.mk.injEq, true_and]
  apply List.filter_eq_self.mpr
  intro ref member
  obtain ⟨service, stored⟩ := store.exists_get? (linked ref member)
  have listed : service.objPath ∈ paths ⟨store, refs, linked⟩ :=
    List.mem_map.mpr ⟨service, SharedList.mem_objects _ |>.mpr ⟨ref, member, stored⟩, rfl⟩
  rw [SharedList.test_eq _ stored, decide_eq_false (nothing _ listed)]
  rfl

theorem removesNothing_of_paths {services : SharedList Service} {removed : List String}
    (same : paths (eraseRemoved services removed) = paths services) :
    RemovesNothing services removed := by
  intro path listed
  rw [← same, mem_paths_eraseRemoved] at listed
  exact listed.2

/-- What a raising signal leaves behind. -/
theorem raising_signal_services (manager : Manager) (changed : List Announcement)
    (removed : List String) {fault : Fault}
    (raises : (manager.onServicesChangedCb
      (servicesChangedParameters changed removed)).raised = some fault) :
    (manager.onServicesChangedCb (servicesChangedParameters changed removed)).manager.services =
      (placeServices (.start (eraseRemoved manager.services removed)) changed).state.list := by
  rw [onServicesChangedCb_parameters] at raises ⊢
  cases ended : (placeServices (.start (eraseRemoved manager.services removed)) changed).raised with
  | none =>
      simp only [ended] at raises
      cases raises
  | some fault => simp only [ended]

/-- The loop only touches properties, so the listed paths stay. -/
theorem placeServices_paths (services : SharedList Service) (changed : List Announcement) :
    paths (placeServices (.start services) changed).state.list = paths services := by
  unfold paths SharedList.objects
  rw [placeServices_refs, List.map_filterMap, List.map_filterMap]
  apply List.filterMap_congr
  intro ref member
  rw [placeServices_get?_old _ _ (services.linked ref member), Option.map_map]
  rfl

/-- The properties of a listed service survive the loop exactly when the values
applied to it repeat the ones it holds. -/
theorem placeServices_props_iff (services : SharedList Service) (changed : List Announcement) :
    (∀ ref ∈ services.refs,
      ((placeServices (.start services) changed).state.list.store.get? ref).map DBusProxy.props =
        (services.store.get? ref).map DBusProxy.props) ↔
      RepeatsHeldValues services changed := by
  unfold RepeatsHeldValues
  refine forall₂_congr fun ref member => ?_
  obtain ⟨service, stored⟩ := services.exists_of_mem member
  rw [placeServices_get?_old (.start services) changed (services.linked ref member),
    Draft.start_list, stored, Option.map_some, Option.map_some, Option.map_some,
    Option.some.injEq]
  have slots := fold_eq_self_iff service.props (carried services (applied changed) ref)
  constructor
  · rintro same other equal
    cases equal
    exact slots.mp same
  · intro repeats
    exact slots.mpr (repeats service rfl)

/-- A signal that raises is all-or-nothing exactly when it removes no listed path
and repeats the held values up to the failing entry. -/
theorem raising_signal_untouched_iff (manager : Manager) (changed : List Announcement)
    (removed : List String) {fault : Fault}
    (raises : (manager.onServicesChangedCb
      (servicesChangedParameters changed removed)).raised = some fault) :
    Untouched manager.services (manager.onServicesChangedCb
        (servicesChangedParameters changed removed)).manager.services ↔
      RemovesNothing manager.services removed ∧ RepeatsHeldValues manager.services changed := by
  rw [raising_signal_services manager changed removed raises]
  constructor
  · rintro ⟨-, paths, props⟩
    rw [placeServices_paths] at paths
    have nothing := removesNothing_of_paths paths
    rw [eraseRemoved_of_removesNothing nothing] at props
    exact ⟨nothing, (placeServices_props_iff manager.services changed).mp props⟩
  · rintro ⟨nothing, repeats⟩
    rw [eraseRemoved_of_removesNothing nothing]
    exact ⟨placeServices_refs _ _, placeServices_paths _ _,
      (placeServices_props_iff manager.services changed).mpr repeats⟩

/-- A signal whose first entry is the failing one, and that removes nothing, is
all-or-nothing. -/
theorem populated_list_untouched :
    Untouched Manager.populated.services (Manager.populated.onServicesChangedCb
      (servicesChangedParameters [("/wifi", [("State", .string "unheard-of")])]
        [])).manager.services := by
  have raises : (Manager.populated.onServicesChangedCb
      (servicesChangedParameters [("/wifi", [("State", .string "unheard-of")])] [])).raised =
        some .invalidStringValue := by decide
  refine (raising_signal_untouched_iff Manager.populated _ _ raises).mpr ⟨?_, ?_⟩
  · intro path _ removed
    cases removed
  · intro ref _ service _ slot value last
    have nothing : carried Manager.populated.services
        (applied [("/wifi", [("State", .string "unheard-of")])]) ref = [] := by
      change carried Manager.populated.services [("/wifi", [])] ref = []
      rw [carried_cons, ite_self]
      rfl
    rw [nothing] at last
    cases last

/-- A signal that removes one service and then fails on the other one has
already dropped the first. -/
theorem raising_signal_erases_first :
    ¬ ∀ (manager : Manager) (changed : List Announcement) (removed : List String),
      (manager.onServicesChangedCb (servicesChangedParameters changed removed)).raised =
          some .invalidStringValue →
        Untouched manager.services (manager.onServicesChangedCb
          (servicesChangedParameters changed removed)).manager.services := by
  intro claim
  have untouched := claim Manager.populated [("/wifi", [("State", .string "unheard-of")])]
    ["/wired"] (by decide)
  have before : paths Manager.populated.services = ["/wifi", "/wired"] := by decide
  have after : paths (Manager.populated.onServicesChangedCb
      (servicesChangedParameters [("/wifi", [("State", .string "unheard-of")])]
        ["/wired"])).manager.services = ["/wifi"] := by decide
  have same := untouched.paths
  rw [before, after] at same
  exact absurd same (by decide)

end GConnman.Connman
