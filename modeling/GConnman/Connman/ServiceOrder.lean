import GConnman.Connman.Announcements

/-!
# Placing announced services

What `process_services_changed` does to the list and to the objects behind it.
The first loop is one filter.  An iteration of the second loop looks the
announced path up among the services that are left, in a list that no iteration
changes.  An object that was there before the loop therefore ends with the
entries of exactly those announcements folded in whose path leads to it, up to
the first entry that raises.
-/

namespace GConnman.Connman

open GConnman.GLib GConnman.DBus GConnman.Foundation
open KnownProperties

/-- The first listed service with an object path. -/
def lookup (services : SharedList Service) (path : String) : Option Ref :=
  services.find? fun service => service.objPath = path

theorem lookup_some {services : SharedList Service} {path : String} {ref : Ref}
    (found : lookup services path = some ref) :
    ref ∈ services.refs ∧
      ∃ service, services.store.get? ref = some service ∧ service.objPath = path := by
  obtain ⟨member, service, stored, same⟩ := services.find?_some found
  exact ⟨member, service, stored, of_decide_eq_true same⟩

theorem lookup_none {services : SharedList Service} {path : String} :
    lookup services path = none ↔ path ∉ paths services := by
  constructor
  · rintro missing listed
    obtain ⟨service, member, same⟩ := List.mem_map.mp listed
    exact of_decide_eq_false (services.find?_none missing service member) same
  · intro absent
    cases found : lookup services path with
    | none => rfl
    | some ref =>
        obtain ⟨member, service, stored, same⟩ := lookup_some found
        have listed := services.mem_objects.mpr ⟨ref, member, stored⟩
        exact absurd (List.mem_map.mpr ⟨service, listed, same⟩) absent

/-- Lookups depend on the references and the paths behind them only. -/
theorem lookup_congr {first second : SharedList Service} (sameRefs : second.refs = first.refs)
    (samePath : ∀ ref ∈ first.refs,
      (second.store.get? ref).map DBusProxy.objPath =
        (first.store.get? ref).map DBusProxy.objPath) (path : String) :
    lookup second path = lookup first path := by
  unfold lookup SharedList.find?
  rw [sameRefs]
  have sameTest : ∀ ref ∈ first.refs,
      second.test (fun service => service.objPath = path) ref =
        first.test (fun service => service.objPath = path) ref := by
    intro ref member
    have same := congrArg (fun found => found.any fun other => decide (other = path))
      (samePath ref member)
    simpa only [Option.any_map, SharedList.test, Function.comp_def] using same
  generalize first.refs = refs at sameTest
  induction refs with
  | nil => rfl
  | cons ref rest ih =>
      obtain ⟨head, tail⟩ := List.forall_mem_cons.mp sameTest
      rw [List.find?_cons, List.find?_cons, head, ih tail]

/-! ## The erasing loop -/

theorem removeIf_removeIf {Object : Type*} (list : SharedList Object)
    (first second : Object → Bool) :
    (list.removeIf first).removeIf second =
      list.removeIf fun object => first object || second object := by
  obtain ⟨store, refs, linked⟩ := list
  simp only [SharedList.removeIf, SharedList.test, List.filter_filter, SharedList.mk.injEq,
    true_and]
  apply List.filter_congr
  intro ref _
  cases store.get? ref with
  | none => rfl
  | some object => simp [Bool.and_comm]

/-- The erasing loop is one filter. -/
theorem eraseRemoved_eq (services : SharedList Service) (removed : List String) :
    eraseRemoved services removed =
      services.removeIf fun service => decide (service.objPath ∈ removed) := by
  unfold eraseRemoved
  induction removed generalizing services with
  | nil =>
      obtain ⟨store, refs, linked⟩ := services
      simp [SharedList.removeIf, SharedList.test]
  | cons first rest ih =>
      rw [List.foldl_cons, ih, removeIf_removeIf]
      simp only [List.mem_cons, Bool.decide_or]

@[simp] theorem eraseRemoved_store (services : SharedList Service) (removed : List String) :
    (eraseRemoved services removed).store = services.store := by
  rw [eraseRemoved_eq, SharedList.removeIf_store]

theorem eraseRemoved_paths (services : SharedList Service) (removed : List String) :
    paths (eraseRemoved services removed) =
      (paths services).filter fun path => !decide (path ∈ removed) := by
  rw [paths, paths, eraseRemoved_eq, SharedList.objects_removeIf, List.filter_map]
  rfl

theorem mem_eraseRemoved {services : SharedList Service} {removed : List String} {ref : Ref}
    (member : ref ∈ (eraseRemoved services removed).refs) : ref ∈ services.refs := by
  rw [eraseRemoved_eq] at member
  exact List.mem_of_mem_filter member

/-! ## One iteration of the placing loop -/

section Iteration

variable (draft : Draft Service) (announced : Announcement)

theorem placeService_of_listed {ref : Ref}
    (found : lookup draft.list announced.1 = some ref) :
    ∃ inside, placeService draft announced.pathProp =
      (draft.push ref inside).perform ref
        (fun service => service.updateProperties (GVariant.dictionary announced.2)) := by
  unfold placeService
  split
  · rename_i other same
    have equal : some other = some ref := same.symm.trans found
    cases equal
    exact ⟨draft.list.linked ref (lookup_some found).1, rfl⟩
  · rename_i missing
    exact absurd (missing.symm.trans found) (by simp)

theorem placeService_of_unlisted (missing : lookup draft.list announced.1 = none) :
    placeService draft announced.pathProp = dictToProxy Service.new draft announced.pathProp := by
  unfold placeService
  split
  · rename_i other same
    exact absurd (same.symm.trans missing) (by simp)
  · rfl

/-- The reference an iteration appends. -/
def placement : Ref := (lookup draft.list announced.1).getD draft.list.store.size

theorem placeService_refs :
    (placeService draft announced.pathProp).state.list.refs = draft.list.refs := by
  cases found : lookup draft.list announced.1 with
  | none => rw [placeService_of_unlisted draft announced found, dictToProxy_refs]
  | some ref =>
      obtain ⟨inside, placed⟩ := placeService_of_listed draft announced found
      rw [placed, Draft.perform_refs, Draft.push_list]

theorem placeService_built :
    (placeService draft announced.pathProp).state.built =
      draft.built ++ [placement draft announced] := by
  unfold placement
  cases found : lookup draft.list announced.1 with
  | none =>
      rw [placeService_of_unlisted draft announced found, dictToProxy_built]
      rfl
  | some ref =>
      obtain ⟨inside, placed⟩ := placeService_of_listed draft announced found
      rw [placed, Draft.perform_built, Draft.push_built]
      rfl

theorem placeService_size_le :
    draft.list.store.size ≤ (placeService draft announced.pathProp).state.list.store.size := by
  cases found : lookup draft.list announced.1 with
  | none =>
      rw [placeService_of_unlisted draft announced found, dictToProxy_size]
      exact Nat.le_succ _
  | some ref =>
      obtain ⟨inside, placed⟩ := placeService_of_listed draft announced found
      rw [placed, Draft.perform_store, ObjectStore.size_perform, Draft.push_list]

/-- An iteration raises exactly on dictionaries with an unknown entry. -/
theorem placeService_raised :
    (placeService draft announced.pathProp).raised = none ↔
      knownEntries ServProperties announced.2 = true := by
  cases found : lookup draft.list announced.1 with
  | none =>
      rw [placeService_of_unlisted draft announced found]
      exact dictToProxy_raised Service.new draft announced
  | some ref =>
      obtain ⟨inside, placed⟩ := placeService_of_listed draft announced found
      obtain ⟨-, service, stored, -⟩ := lookup_some found
      rw [placed, Draft.perform_raised, Draft.push_list, ObjectStore.perform_raised _ stored]
      exact DBusProxy.updateProperties_raised service announced.2

/-- The entries of an announcement reach the object its path leads to and no other. -/
theorem placeService_get?_old {ref : Ref} (inside : ref < draft.list.store.size) :
    (placeService draft announced.pathProp).state.list.store.get? ref =
      (draft.list.store.get? ref).map fun service => withEntries service
        (if lookup draft.list announced.1 = some ref then
          acceptedPrefix ServProperties announced.2 else []) := by
  cases found : lookup draft.list announced.1 with
  | none =>
      rw [placeService_of_unlisted draft announced found,
        dictToProxy_get?_old Service.new draft announced inside, if_neg (by simp)]
      simp
  | some target =>
      obtain ⟨_, placed⟩ := placeService_of_listed draft announced found
      obtain ⟨-, service, stored, -⟩ := lookup_some found
      rw [placed, Draft.perform_store, Draft.push_list]
      by_cases same : target = ref
      · subst same
        rw [ObjectStore.get?_perform_self _ stored, stored, if_pos rfl, Option.map_some,
          DBusProxy.updateProperties_state]
        rfl
      · rw [ObjectStore.get?_perform_of_ne _ _ same, if_neg (by simpa using same)]
        simp

/-- An announcement of an unlisted path creates a service at the end of the store. -/
theorem placeService_get?_new (missing : lookup draft.list announced.1 = none) :
    (placeService draft announced.pathProp).state.list.store.get? draft.list.store.size =
      some (withEntries (Service.new announced.1)
        (acceptedPrefix ServProperties announced.2)) := by
  rw [placeService_of_unlisted draft announced missing]
  exact dictToProxy_get?_new Service.new draft announced

/-- No iteration changes where a path leads. -/
theorem lookup_placeService (path : String) :
    lookup (placeService draft announced.pathProp).state.list path = lookup draft.list path := by
  apply lookup_congr (placeService_refs draft announced)
  intro ref member
  rw [placeService_get?_old draft announced (draft.list.linked ref member), Option.map_map]
  rfl

end Iteration

/-! ## The whole loop -/

/-- The announcements a signal gets to apply: everything before the first
unknown entry. -/
def applied : List Announcement → List Announcement
  | [] => []
  | first :: rest =>
      if knownEntries ServProperties first.2 then first :: applied rest
      else [(first.1, acceptedPrefix ServProperties first.2)]

theorem applied_of_known {all : List Announcement}
    (known : ∀ announced ∈ all, knownEntries ServProperties announced.2 = true) :
    applied all = all := by
  induction all with
  | nil => rfl
  | cons first rest ih =>
      obtain ⟨knownFirst, knownRest⟩ := List.forall_mem_cons.mp known
      rw [applied, if_pos knownFirst, ih knownRest]

/-- The entries that announcements carry for one listed service, in order. -/
def carried (services : SharedList Service) (all : List Announcement) (ref : Ref) :
    List (String × GVariant) :=
  (all.filter fun announced => lookup services announced.1 = some ref).flatMap Prod.snd

theorem carried_cons (services : SharedList Service) (first : Announcement)
    (rest : List Announcement) (ref : Ref) :
    carried services (first :: rest) ref =
      (if lookup services first.1 = some ref then first.2 else []) ++
        carried services rest ref := by
  unfold carried
  by_cases same : lookup services first.1 = some ref
  · rw [if_pos same, List.filter_cons_of_pos (by simpa using same), List.flatMap_cons]
  · rw [if_neg same, List.filter_cons_of_neg (by simpa using same), List.nil_append]

theorem carried_congr {first second : SharedList Service}
    (same : ∀ path, lookup second path = lookup first path) (all : List Announcement) (ref : Ref) :
    carried second all ref = carried first all ref := by
  unfold carried
  simp only [same]

theorem carried_of_unlisted {services : SharedList Service} {ref : Ref}
    (unlisted : ref ∉ services.refs) (all : List Announcement) :
    carried services all ref = [] := by
  induction all with
  | nil => rfl
  | cons first rest ih =>
      rw [carried_cons, if_neg fun found => unlisted (lookup_some found).1, ih, List.nil_append]

/-- With distinct paths, a service gets the entries of the one announcement that
leads to it. -/
theorem carried_of_found {services : SharedList Service} {all : List Announcement}
    (distinct : (all.map Prod.fst).Nodup) {announced : Announcement} (member : announced ∈ all)
    {ref : Ref} (found : lookup services announced.1 = some ref) :
    carried services all ref = announced.2 := by
  induction all with
  | nil => cases member
  | cons first rest ih =>
      obtain ⟨fresh, remaining⟩ := List.nodup_cons.mp distinct
      rw [carried_cons]
      rcases List.mem_cons.mp member with rfl | later
      · rw [if_pos found]
        suffices none : carried services rest ref = [] by rw [none, List.append_nil]
        unfold carried
        rw [List.flatMap_eq_nil_iff]
        intro other inRest
        obtain ⟨listed, leads⟩ := List.mem_filter.mp inRest
        obtain ⟨-, service, stored, path⟩ := lookup_some found
        obtain ⟨-, again, storedAgain, otherPath⟩ := lookup_some (of_decide_eq_true leads)
        rw [stored] at storedAgain
        cases storedAgain
        rw [path] at otherPath
        exact absurd (List.mem_map.mpr ⟨other, listed, otherPath.symm⟩) fresh
      · have other : lookup services first.1 ≠ some ref := by
          intro leads
          obtain ⟨-, service, stored, path⟩ := lookup_some found
          obtain ⟨-, again, storedAgain, firstPath⟩ := lookup_some leads
          rw [stored] at storedAgain
          cases storedAgain
          rw [path] at firstPath
          exact fresh (List.mem_map.mpr ⟨announced, later, firstPath⟩)
        rw [if_neg other, List.nil_append]
        exact ih remaining later

/-- The placing loop. -/
abbrev placeServices (draft : Draft Service) (changed : List Announcement) :
    Outcome Fault (Draft Service) :=
  .forEach placeService draft (changed.map Announcement.pathProp)

theorem placeServices_of_known (draft : Draft Service) {first : Announcement}
    (known : knownEntries ServProperties first.2 = true) (rest : List Announcement) :
    placeServices draft (first :: rest) =
      placeServices (placeService draft first.pathProp).state rest :=
  Outcome.andThen_of_done ((placeService_raised draft first).mpr known) _

theorem placeServices_of_unknown (draft : Draft Service) {first : Announcement}
    (unknown : knownEntries ServProperties first.2 = false) (rest : List Announcement) :
    placeServices draft (first :: rest) = placeService draft first.pathProp := by
  have raises : (placeService draft first.pathProp).raised ≠ none := by
    intro normal
    rw [(placeService_raised draft first).mp normal] at unknown
    cases unknown
  obtain ⟨fault, raised⟩ := Option.ne_none_iff_exists'.mp raises
  exact Outcome.andThen_of_raised raised _

/-- The loop leaves the list alone, raising or not. -/
theorem placeServices_refs (draft : Draft Service) (changed : List Announcement) :
    (placeServices draft changed).state.list.refs = draft.list.refs := by
  induction changed generalizing draft with
  | nil => rfl
  | cons first rest ih =>
      cases known : knownEntries ServProperties first.2 with
      | true => rw [placeServices_of_known draft known, ih, placeService_refs]
      | false => rw [placeServices_of_unknown draft known, placeService_refs]

/-- What the loop does to the objects that were there before it, raising or not. -/
theorem placeServices_get?_old (draft : Draft Service) (changed : List Announcement) {ref : Ref}
    (inside : ref < draft.list.store.size) :
    (placeServices draft changed).state.list.store.get? ref =
      (draft.list.store.get? ref).map
        (withEntries · (carried draft.list (applied changed) ref)) := by
  induction changed generalizing draft with
  | nil =>
      change draft.list.store.get? ref = (draft.list.store.get? ref).map (withEntries · [])
      simp
  | cons first rest ih =>
      have one := placeService_get?_old draft first inside
      have size := placeService_size_le draft first
      have same := lookup_placeService draft first
      cases known : knownEntries ServProperties first.2 with
      | true =>
          rw [placeServices_of_known draft known, ih _ (Nat.lt_of_lt_of_le inside size), one,
            carried_congr same, applied, if_pos known, carried_cons, Option.map_map,
            acceptedPrefix_of_known known]
          congr 1
          funext service
          exact (withEntries_append service _ _).symm
      | false =>
          have cut : applied (first :: rest) =
              [(first.1, acceptedPrefix ServProperties first.2)] := by
            rw [applied, known]
            rfl
          rw [placeServices_of_unknown draft known, one, cut, carried_cons]
          simp only [carried, List.filter_nil, List.flatMap_nil, List.append_nil]

/-- The loop raises exactly when some announcement has an unknown entry. -/
theorem placeServices_raised (draft : Draft Service) (changed : List Announcement) :
    (placeServices draft changed).raised = none ↔
      ∀ announced ∈ changed, knownEntries ServProperties announced.2 = true := by
  induction changed generalizing draft with
  | nil => exact iff_of_true rfl fun _ member => nomatch member
  | cons first rest ih =>
      rw [List.forall_mem_cons]
      cases known : knownEntries ServProperties first.2 with
      | true =>
          rw [placeServices_of_known draft known, ih]
          simp
      | false =>
          rw [placeServices_of_unknown draft known, placeService_raised, known]
          simp

/-- Where the loop puts an announcement: at the listed service with its path, or
at a service created for it. -/
def Placed (services : SharedList Service) (store : ObjectStore Service)
    (announced : Announcement) (ref : Ref) : Prop :=
  match lookup services announced.1 with
  | some found => ref = found
  | none => services.store.size ≤ ref ∧
      store.get? ref = some (withEntries (Service.new announced.1) announced.2)

/-- A loop that does not raise appends one reference for every announcement. -/
theorem placeServices_placed (draft : Draft Service) (changed : List Announcement)
    (known : ∀ announced ∈ changed, knownEntries ServProperties announced.2 = true) :
    ∃ placed, (placeServices draft changed).state.built = draft.built ++ placed ∧
      List.Forall₂ (Placed draft.list (placeServices draft changed).state.list.store)
        changed placed := by
  induction changed generalizing draft with
  | nil => exact ⟨[], (List.append_nil _).symm, .nil⟩
  | cons first rest ih =>
      obtain ⟨knownFirst, knownRest⟩ := List.forall_mem_cons.mp known
      have same := lookup_placeService draft first
      have size := placeService_size_le draft first
      have built := placeService_built draft first
      have refs := placeService_refs draft first
      have created := placeService_get?_new draft first
      rw [placeServices_of_known draft knownFirst]
      generalize (placeService draft first.pathProp).state = next at same size built refs created
      obtain ⟨placed, order, later⟩ := ih next knownRest
      refine ⟨placement draft first :: placed, ?_, .cons ?_ ?_⟩
      · rw [order, built, List.append_assoc]
        rfl
      · unfold Placed placement
        cases found : lookup draft.list first.1 with
        | some ref => rfl
        | none =>
            have stored := created found
            have unlisted : draft.list.store.size ∉ next.list.refs := by
              rw [refs]
              exact fun member => Nat.lt_irrefl _ (draft.list.linked _ member)
            rw [acceptedPrefix_of_known knownFirst] at stored
            refine ⟨Nat.le_refl _, ?_⟩
            rw [Option.getD_none, placeServices_get?_old next rest
              (ObjectStore.lt_size_of_get? _ stored), stored, carried_of_unlisted unlisted]
            rfl
      · apply later.imp
        intro announced ref
        unfold Placed
        rw [same]
        cases lookup draft.list announced.1 with
        | some found => exact id
        | none => exact fun fresh => ⟨Nat.le_trans size fresh.1, fresh.2⟩

/-- Wherever the loop puts an announcement, there is a service with its path. -/
theorem placed_path {services : SharedList Service} (changed : List Announcement)
    {announced : Announcement} {ref : Ref}
    (placed : Placed services (placeServices (.start services) changed).state.list.store
      announced ref) :
    ∃ service, (placeServices (.start services) changed).state.list.store.get? ref = some service ∧
      service.objPath = announced.1 := by
  unfold Placed at placed
  cases found : lookup services announced.1 with
  | none =>
      rw [found] at placed
      exact ⟨_, placed.2, rfl⟩
  | some target =>
      rw [found] at placed
      cases placed
      obtain ⟨-, service, stored, path⟩ := lookup_some found
      have updated := placeServices_get?_old (.start services) changed
        (ObjectStore.lt_size_of_get? _ stored)
      rw [Draft.start_list, stored, Option.map_some] at updated
      exact ⟨_, updated, path⟩

end GConnman.Connman
