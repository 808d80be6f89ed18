import GConnman.Foundation.Outcome

/-!
# Shared objects and lists of references to them

Objects live in a store and are identified by references, so that updating an
object in place is visible through every list that holds a reference to it.
Objects are never deallocated: an object no list refers to any more keeps its
cell, which makes identity of references over time meaningful.
-/

namespace GConnman.Foundation

/-- The identity of an object: its position in the store. -/
abbrev Ref := Nat

/-- All objects ever created, in the order of their creation. -/
structure ObjectStore (Object : Type*) where
  cells : List Object

namespace ObjectStore

variable {Object Fault : Type*} (store : ObjectStore Object)

def size : Nat := store.cells.length

def get? (ref : Ref) : Option Object := store.cells[ref]?

def alloc (object : Object) : ObjectStore Object := ⟨store.cells ++ [object]⟩

def set (ref : Ref) (object : Object) : ObjectStore Object := ⟨store.cells.set ref object⟩

/-- Run an action on one object in place; a dangling reference is left alone. -/
def perform (ref : Ref) (action : Object → Outcome Fault Object) :
    Outcome Fault (ObjectStore Object) :=
  match store.get? ref with
  | none => .done store
  | some object => ⟨store.set ref (action object).state, (action object).raised⟩

@[simp] theorem size_alloc (object : Object) : (store.alloc object).size = store.size + 1 := by
  simp [alloc, size]

@[simp] theorem size_set (ref : Ref) (object : Object) :
    (store.set ref object).size = store.size := by
  simp [set, size]

@[simp] theorem size_perform (ref : Ref) (action : Object → Outcome Fault Object) :
    (store.perform ref action).state.size = store.size := by
  unfold perform
  cases store.get? ref with
  | none => rfl
  | some object => exact store.size_set ref _

theorem get?_isSome_iff (ref : Ref) : (store.get? ref).isSome ↔ ref < store.size := by
  simp [get?, size]

theorem exists_get? {ref : Ref} (inside : ref < store.size) :
    ∃ object, store.get? ref = some object :=
  Option.isSome_iff_exists.mp ((store.get?_isSome_iff ref).mpr inside)

theorem lt_size_of_get? {ref : Ref} {object : Object} (found : store.get? ref = some object) :
    ref < store.size :=
  (store.get?_isSome_iff ref).mp (by rw [found]; rfl)

@[simp] theorem get?_alloc_self (object : Object) :
    (store.alloc object).get? store.size = some object := by
  simp [alloc, get?, size]

theorem get?_alloc_of_lt (object : Object) {ref : Ref} (inside : ref < store.size) :
    (store.alloc object).get? ref = store.get? ref :=
  List.getElem?_append_left inside

theorem get?_set_self {ref : Ref} (object : Object) (inside : ref < store.size) :
    (store.set ref object).get? ref = some object :=
  List.getElem?_set_self inside

theorem get?_set_of_ne {ref other : Ref} (object : Object) (different : ref ≠ other) :
    (store.set ref object).get? other = store.get? other :=
  List.getElem?_set_ne different

theorem perform_raised {ref : Ref} {object : Object} (found : store.get? ref = some object)
    (action : Object → Outcome Fault Object) :
    (store.perform ref action).raised = (action object).raised := by
  rw [perform, found]

theorem get?_perform_self {ref : Ref} {object : Object} (found : store.get? ref = some object)
    (action : Object → Outcome Fault Object) :
    (store.perform ref action).state.get? ref = some (action object).state := by
  rw [perform, found]
  exact store.get?_set_self _ (store.lt_size_of_get? found)

theorem get?_perform_of_ne {ref other : Ref} (action : Object → Outcome Fault Object)
    (different : ref ≠ other) :
    (store.perform ref action).state.get? other = store.get? other := by
  unfold perform
  cases store.get? ref with
  | none => rfl
  | some object => exact store.get?_set_of_ne _ different

end ObjectStore

/-- A list of references into a store.  No reference dangles. -/
structure SharedList (Object : Type*) where
  store : ObjectStore Object
  refs : List Ref
  linked : ∀ ref ∈ refs, ref < store.size

namespace SharedList

variable {Object Fault : Type*} (list : SharedList Object)

def empty : SharedList Object := ⟨⟨[]⟩, [], fun _ member => nomatch member⟩

/-- The listed objects, in list order. -/
def objects : List Object := list.refs.filterMap list.store.get?

/-- The object behind a reference satisfies a test. -/
def test (pred : Object → Bool) (ref : Ref) : Bool := (list.store.get? ref).any pred

/-- `std::find_if` over the list. -/
def find? (pred : Object → Bool) : Option Ref := list.refs.find? (list.test pred)

/-- The erase–remove idiom: drop the listed objects that satisfy the test. -/
def removeIf (pred : Object → Bool) : SharedList Object where
  store := list.store
  refs := list.refs.filter (fun ref => !list.test pred ref)
  linked := fun ref member => list.linked ref (List.mem_of_mem_filter member)

@[simp] theorem removeIf_store (pred : Object → Bool) :
    (list.removeIf pred).store = list.store := rfl

theorem exists_of_mem {ref : Ref} (member : ref ∈ list.refs) :
    ∃ object, list.store.get? ref = some object :=
  list.store.exists_get? (list.linked ref member)

theorem test_eq {ref : Ref} {object : Object} (found : list.store.get? ref = some object)
    (pred : Object → Bool) : list.test pred ref = pred object := by
  rw [test, found]
  rfl

theorem mem_objects {object : Object} :
    object ∈ list.objects ↔ ∃ ref ∈ list.refs, list.store.get? ref = some object := by
  rw [objects, List.mem_filterMap]

theorem find?_some {pred : Object → Bool} {ref : Ref} (found : list.find? pred = some ref) :
    ref ∈ list.refs ∧ ∃ object, list.store.get? ref = some object ∧ pred object = true := by
  have member := List.mem_of_find?_eq_some found
  obtain ⟨object, stored⟩ := list.exists_of_mem member
  refine ⟨member, object, stored, ?_⟩
  rw [← list.test_eq stored pred]
  exact List.find?_some found

theorem find?_none {pred : Object → Bool} (missing : list.find? pred = none) :
    ∀ object ∈ list.objects, pred object = false := by
  intro object member
  obtain ⟨ref, listed, stored⟩ := list.mem_objects.mp member
  have fails := List.find?_eq_none.mp missing ref listed
  rw [list.test_eq stored] at fails
  exact Bool.eq_false_iff.mpr fails

/-- The objects of a list after the erase–remove idiom. -/
theorem objects_removeIf (pred : Object → Bool) :
    (list.removeIf pred).objects = list.objects.filter (fun object => !pred object) := by
  obtain ⟨store, refs, linked⟩ := list
  simp only [objects, removeIf, test]
  induction refs with
  | nil => rfl
  | cons ref rest ih =>
      have remaining := ih (fun other member => linked other (List.mem_cons_of_mem _ member))
      obtain ⟨object, stored⟩ := store.exists_get? (linked ref (List.mem_cons_self ..))
      rw [List.filterMap_cons_some stored]
      cases passes : pred object with
      | true => simpa [List.filter_cons, stored, passes] using remaining
      | false => simpa [List.filter_cons, stored, passes] using remaining

/-- The same list over a store that has at least the old cells. -/
def withStore (store : ObjectStore Object) (grows : list.store.size ≤ store.size) :
    SharedList Object where
  store := store
  refs := list.refs
  linked := fun ref member => Nat.lt_of_lt_of_le (list.linked ref member) grows

@[simp] theorem withStore_store (store : ObjectStore Object)
    (grows : list.store.size ≤ store.size) : (list.withStore store grows).store = store := rfl

end SharedList

/-- A new list under construction next to the one in force: both refer to the
same objects, and the list in force is untouched until the draft is committed. -/
structure Draft (Object : Type*) where
  list : SharedList Object
  built : List Ref
  builtLinked : ∀ ref ∈ built, ref < list.store.size

namespace Draft

variable {Object Fault : Type*} (draft : Draft Object)

def start (list : SharedList Object) : Draft Object := ⟨list, [], fun _ member => nomatch member⟩

/-- Append a reference to an existing object. -/
def push (ref : Ref) (inside : ref < draft.list.store.size) : Draft Object where
  list := draft.list
  built := draft.built ++ [ref]
  builtLinked := fun other member => by
    rcases List.mem_append.mp member with earlier | last
    · exact draft.builtLinked other earlier
    · rw [List.mem_singleton.mp last]
      exact inside

/-- Create an object and append the reference to it. -/
def pushNew (object : Object) : Draft Object where
  list := draft.list.withStore (draft.list.store.alloc object)
    (by rw [ObjectStore.size_alloc]; exact Nat.le_succ _)
  built := draft.built ++ [draft.list.store.size]
  builtLinked := fun other member => by
    change other < (draft.list.store.alloc object).size
    rw [ObjectStore.size_alloc]
    rcases List.mem_append.mp member with earlier | last
    · exact Nat.lt_succ_of_lt (draft.builtLinked other earlier)
    · rw [List.mem_singleton.mp last]
      exact Nat.lt_succ_self _

/-- Run an action on one object in place. -/
def perform (ref : Ref) (action : Object → Outcome Fault Object) :
    Outcome Fault (Draft Object) where
  state :=
    { list := draft.list.withStore (draft.list.store.perform ref action).state
        (Nat.le_of_eq (ObjectStore.size_perform ..).symm)
      built := draft.built
      builtLinked := fun other member => by
        rw [SharedList.withStore_store, ObjectStore.size_perform]
        exact draft.builtLinked other member }
  raised := (draft.list.store.perform ref action).raised

/-- Put the new list in force. -/
def commit : SharedList Object := ⟨draft.list.store, draft.built, draft.builtLinked⟩

@[simp] theorem commit_refs : draft.commit.refs = draft.built := rfl
@[simp] theorem start_list (list : SharedList Object) : (start list).list = list := rfl
@[simp] theorem start_built (list : SharedList Object) : (start list).built = [] := rfl

@[simp] theorem push_list (ref : Ref) (inside : ref < draft.list.store.size) :
    (draft.push ref inside).list = draft.list := rfl

@[simp] theorem push_built (ref : Ref) (inside : ref < draft.list.store.size) :
    (draft.push ref inside).built = draft.built ++ [ref] := rfl

@[simp] theorem pushNew_store (object : Object) :
    (draft.pushNew object).list.store = draft.list.store.alloc object := rfl

@[simp] theorem perform_refs (ref : Ref) (action : Object → Outcome Fault Object) :
    (draft.perform ref action).state.list.refs = draft.list.refs := rfl

@[simp] theorem perform_store (ref : Ref) (action : Object → Outcome Fault Object) :
    (draft.perform ref action).state.list.store = (draft.list.store.perform ref action).state := rfl

@[simp] theorem perform_built (ref : Ref) (action : Object → Outcome Fault Object) :
    (draft.perform ref action).state.built = draft.built := rfl

@[simp] theorem perform_raised (ref : Ref) (action : Object → Outcome Fault Object) :
    (draft.perform ref action).raised = (draft.list.store.perform ref action).raised := rfl

end Draft

end GConnman.Foundation
