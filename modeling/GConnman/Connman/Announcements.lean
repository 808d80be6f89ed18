import Mathlib.Data.List.Forall2
import GConnman.Connman.Manager

/-!
# Announced objects

The daemon announces objects as pairs of a path and a property dictionary.  This
module gives the values such messages travel as, and what building a proxy for
an announcement does: it creates one new object at the end of the store, whose
properties are the defaults with the dictionary folded in.
-/

namespace GConnman.Connman

open GConnman.GLib GConnman.DBus GConnman.Foundation
open KnownProperties

/-- An object path with the entries of its property dictionary. -/
abbrev Announcement := String × List (String × GVariant)

namespace Announcement

/-- What `dict_to_path_prop` reads from an announcement. -/
def pathProp (announced : Announcement) : String × GVariant :=
  (announced.1, GVariant.dictionary announced.2)

/-- The tuple `(oa{sv})`. -/
def toVariant (announced : Announcement) : GVariant :=
  .tuple [.objectPath announced.1, GVariant.dictionary announced.2]

@[simp] theorem dictToPathProp_toVariant (announced : Announcement) :
    dictToPathProp announced.toVariant = .ok announced.pathProp := rfl

end Announcement

/-- The array `a(oa{sv})`. -/
def announcements (announced : List Announcement) : GVariant :=
  .array (.tuple [.objectPath, .dictionary]) (announced.map Announcement.toVariant)

/-- The arguments of a ServicesChanged signal. -/
def servicesChangedParameters (changed : List Announcement) (removed : List String) : GVariant :=
  .tuple [announcements changed, .array .objectPath (removed.map .objectPath)]

theorem readChanged_announcements (changed : List Announcement) :
    readChanged (announcements changed).children =
      .ok (changed.map Announcement.pathProp) := by
  change readChanged (changed.map Announcement.toVariant) = _
  induction changed with
  | nil => rfl
  | cons first rest ih =>
      rw [List.map_cons, readChanged, ih, Announcement.dictToPathProp_toVariant]
      rfl

theorem readRemoved_paths (removed : List String) :
    readRemoved (removed.map GVariant.objectPath) = .ok removed := by
  induction removed with
  | nil => rfl
  | cons first rest ih =>
      rw [List.map_cons, readRemoved, ih]
      rfl

theorem readServicesChanged_parameters (changed : List Announcement) (removed : List String) :
    readServicesChanged (servicesChangedParameters changed removed) =
      .ok (changed.map Announcement.pathProp, removed) := by
  have first := readChanged_announcements changed
  have second := readRemoved_paths removed
  change (readChanged (announcements changed).children).bind (fun servicesChanged =>
    (readRemoved (removed.map GVariant.objectPath)).map fun servicesRemoved =>
      (servicesChanged, servicesRemoved)) = _
  rw [first, second]
  rfl

section Proxies

variable {Properties : Type}

/-- The paths of the listed proxies, in list order. -/
def paths (list : SharedList (DBusProxy Properties)) : List String :=
  list.objects.map DBusProxy.objPath

/-- The paths of the objects a list of references leads to. -/
theorem paths_of_forall₂ {store : ObjectStore (DBusProxy Properties)}
    {announced : List Announcement} {refs : List Ref}
    (placed : List.Forall₂
      (fun first ref => ∃ proxy, store.get? ref = some proxy ∧ proxy.objPath = first.1)
      announced refs) :
    (refs.filterMap store.get?).map DBusProxy.objPath = announced.map Prod.fst := by
  induction placed with
  | nil => rfl
  | cons head _ ih =>
      obtain ⟨proxy, stored, path⟩ := head
      rw [List.filterMap_cons_some stored, List.map_cons, List.map_cons, ih, path]

variable [PropertyRecord Properties]

/-- A proxy whose properties have a dictionary folded in. -/
def withEntries (proxy : DBusProxy Properties) (entries : List (String × GVariant)) :
    DBusProxy Properties :=
  { proxy with props := fold proxy.props entries }

@[simp] theorem withEntries_nil (proxy : DBusProxy Properties) : withEntries proxy [] = proxy :=
  rfl

theorem withEntries_append (proxy : DBusProxy Properties)
    (first second : List (String × GVariant)) :
    withEntries proxy (first ++ second) = withEntries (withEntries proxy first) second := by
  simp only [withEntries, fold_append]

variable (construct : String → DBusProxy Properties) (draft : Draft (DBusProxy Properties))
  (announced : Announcement)

@[simp] theorem dictToProxy_refs :
    (dictToProxy construct draft announced.pathProp).state.list.refs = draft.list.refs := rfl

@[simp] theorem dictToProxy_built :
    (dictToProxy construct draft announced.pathProp).state.built =
      draft.built ++ [draft.list.store.size] := rfl

@[simp] theorem dictToProxy_size :
    (dictToProxy construct draft announced.pathProp).state.list.store.size =
      draft.list.store.size + 1 := by
  rw [dictToProxy, Draft.perform_store, Draft.pushNew_store, ObjectStore.size_perform,
    ObjectStore.size_alloc]

theorem dictToProxy_get?_old {ref : Ref} (inside : ref < draft.list.store.size) :
    (dictToProxy construct draft announced.pathProp).state.list.store.get? ref =
      draft.list.store.get? ref := by
  rw [dictToProxy, Draft.perform_store, Draft.pushNew_store,
    ObjectStore.get?_perform_of_ne _ _ (Nat.ne_of_gt inside)]
  exact ObjectStore.get?_alloc_of_lt _ _ inside

/-- A list of announcements read from an array is decoded item by item. -/
theorem arraysToProxies_announcements (list : SharedList (DBusProxy Properties))
    (all : List Announcement) :
    arraysToProxies construct list (announcements all) =
      .forEach (dictToProxy construct) (.start list) (all.map Announcement.pathProp) := by
  change Outcome.forEach _ _ (all.map Announcement.toVariant) = _
  generalize Draft.start list = initial
  induction all generalizing initial with
  | nil => rfl
  | cons first rest ih =>
      rw [List.map_cons, List.map_cons, Outcome.forEach_cons, Outcome.forEach_cons]
      simp only [Announcement.dictToPathProp_toVariant, ih]

variable [KnownProperties Properties]

theorem dictToProxy_raised :
    (dictToProxy construct draft announced.pathProp).raised = none ↔
      knownEntries Properties announced.2 = true := by
  have stored := draft.list.store.get?_alloc_self (construct announced.1)
  change ((draft.list.store.alloc (construct announced.1)).perform draft.list.store.size
    (fun proxy => proxy.updateProperties (GVariant.dictionary announced.2))).raised = none ↔ _
  rw [ObjectStore.perform_raised _ stored]
  exact DBusProxy.updateProperties_raised _ _

/-- The new object: the entries up to the first unknown one are folded in. -/
theorem dictToProxy_get?_new :
    (dictToProxy construct draft announced.pathProp).state.list.store.get?
        draft.list.store.size =
      some (withEntries (construct announced.1) (acceptedPrefix Properties announced.2)) := by
  have stored := draft.list.store.get?_alloc_self (construct announced.1)
  have updated := ObjectStore.get?_perform_self _ stored
    (fun proxy => proxy.updateProperties (GVariant.dictionary announced.2))
  rw [DBusProxy.updateProperties_state] at updated
  exact updated

/-- The loop that builds proxies raises exactly when some announcement has an
unknown entry. -/
theorem proxies_raised (all : List Announcement) :
    (Outcome.forEach (dictToProxy construct) draft (all.map Announcement.pathProp)).raised = none ↔
      ∀ announced ∈ all, knownEntries Properties announced.2 = true := by
  induction all generalizing draft with
  | nil => exact iff_of_true rfl fun _ member => nomatch member
  | cons first rest ih =>
      have one := dictToProxy_raised construct draft first
      rw [List.map_cons, Outcome.forEach_cons, List.forall_mem_cons, ← one]
      cases ended : (dictToProxy construct draft first.pathProp).raised with
      | none => rw [Outcome.andThen_of_done ended, ih, and_iff_right rfl]
      | some fault =>
          rw [Outcome.andThen_of_raised ended, ended]
          simp

/-- Building proxies for announcements with known entries creates one new object
for each of them and leaves every older object alone. -/
theorem proxies_spec (all : List Announcement)
    (accepted : ∀ announced ∈ all, knownEntries Properties announced.2 = true) :
    let proxies := Outcome.forEach (dictToProxy construct) draft (all.map Announcement.pathProp)
    proxies.raised = none ∧
      draft.list.store.size ≤ proxies.state.list.store.size ∧
      (∀ ref < draft.list.store.size,
        proxies.state.list.store.get? ref = draft.list.store.get? ref) ∧
      ∃ placed, proxies.state.built = draft.built ++ placed ∧
        List.Forall₂ (fun announced ref => draft.list.store.size ≤ ref ∧
          proxies.state.list.store.get? ref =
            some (withEntries (construct announced.1) announced.2)) all placed := by
  induction all generalizing draft with
  | nil => exact ⟨rfl, Nat.le_refl _, fun _ _ => rfl, [], (List.append_nil _).symm, .nil⟩
  | cons first rest ih =>
      have known := accepted first (List.mem_cons_self ..)
      have normal := (dictToProxy_raised construct draft first).mpr known
      have created := dictToProxy_get?_new construct draft first
      have kept : ∀ ref < draft.list.store.size,
          (dictToProxy construct draft first.pathProp).state.list.store.get? ref =
            draft.list.store.get? ref :=
        fun ref inside => dictToProxy_get?_old construct draft first inside
      rw [acceptedPrefix_of_known known] at created
      simp only [List.map_cons, Outcome.forEach_cons, Outcome.andThen_of_done normal]
      generalize nextEq : (dictToProxy construct draft first.pathProp).state = next at created kept
      have size : next.list.store.size = draft.list.store.size + 1 := by
        rw [← nextEq, dictToProxy_size]
      have built : next.built = draft.built ++ [draft.list.store.size] := by
        rw [← nextEq, dictToProxy_built]
      obtain ⟨ended, grows, frame, placed, order, fresh⟩ :=
        ih next fun announced member => accepted announced (List.mem_cons_of_mem _ member)
      refine ⟨ended, by omega, ?_, draft.list.store.size :: placed, ?_,
        .cons ⟨Nat.le_refl _, ?_⟩ ?_⟩
      · intro ref inside
        rw [frame ref (by omega), kept ref inside]
      · rw [order, built, List.append_assoc]
        rfl
      · rw [frame _ (by omega), created]
      · exact fresh.imp fun announced ref placement => ⟨by omega, placement.2⟩

end Proxies

end GConnman.Connman
