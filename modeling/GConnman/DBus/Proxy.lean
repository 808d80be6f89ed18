import GConnman.DBus.PropertyRecord

/-!
# Remote object proxies

The state of a `DBusProxy`: the object path it was built with, the cached
properties, the table of completion callbacks with the counter that makes its
keys, and the user's property-changed handler.  User callbacks are opaque and
identified by numbers; the table stores them type-erased, together with the type
they were stored with.
-/

namespace GConnman.DBus

open GConnman.GLib GConnman.Foundation
open PropertyRecord KnownProperties

/-- The identity of a `std::function` the user passed in. -/
abbrev CallbackId := Nat

/-- The callback types of the request operations. -/
inductive CallbackType where
  | propertiesSet
  | properties
  deriving DecidableEq, Repr

/-- The contents of a `std::any` in the callback table. -/
inductive AnyCallback where
  | empty
  | stored (type : CallbackType) (callback : CallbackId)
  deriving DecidableEq, Repr

/-- `std::any_cast`. -/
def AnyCallback.cast (type : CallbackType) : AnyCallback → Except Fault CallbackId
  | .empty => .error .badAnyCast
  | .stored held callback => if held = type then .ok callback else .error .badAnyCast

/-- A proxy of one remote object, generic in its property record. -/
structure DBusProxy (Properties : Type) where
  objPath : String
  props : Properties
  callbackCounter : UInt64 := 0
  callbacks : UInt64 → Option AnyCallback := fun _ => none
  onPropertyChangedUserCb : Option CallbackId := none

namespace DBusProxy

variable {Properties : Type} [PropertyRecord Properties] (proxy : DBusProxy Properties)

/-- `update_property`: a pair of a name and a boxed value. -/
def updateProperty (prop : GVariant) : Outcome Fault (DBusProxy Properties) :=
  .ofExcept proxy
    ((entryOf prop).bind fun entry =>
      (update proxy.props entry.1 entry.2).map fun next => { proxy with props := next })

/-- `updateProperties`: every entry of a dictionary, in order. -/
def updateProperties (properties : GVariant) : Outcome Fault (DBusProxy Properties) :=
  .forEach updateProperty proxy properties.children

/-- `onPropertyChanged`: a null callback is ignored. -/
def onPropertyChanged (callback : Option CallbackId) : DBusProxy Properties :=
  match callback with
  | none => proxy
  | some _ => { proxy with onPropertyChangedUserCb := callback }

/-- A property update changes nothing but the properties, whether it raises or not. -/
theorem exists_props_updateProperty (prop : GVariant) :
    ∃ props, (proxy.updateProperty prop).state = { proxy with props } := by
  unfold updateProperty
  cases entryOf prop with
  | error fault => exact ⟨proxy.props, rfl⟩
  | ok entry =>
      rw [Except.bind]
      cases update proxy.props entry.1 entry.2 with
      | error fault => exact ⟨proxy.props, rfl⟩
      | ok next => exact ⟨next, rfl⟩

theorem exists_props_updateProperties (properties : GVariant) :
    ∃ props, (proxy.updateProperties properties).state = { proxy with props } := by
  have preserved : ∀ (state : DBusProxy Properties) (prop : GVariant),
      (∃ props, state = { proxy with props }) →
        ∃ props, (state.updateProperty prop).state = { proxy with props } := by
    rintro _ prop ⟨props, rfl⟩
    exact exists_props_updateProperty { proxy with props } prop
  exact Outcome.forEach_invariant updateProperty preserved ⟨proxy.props, rfl⟩ properties.children

variable [KnownProperties Properties]

theorem updateProperty_of_known {pair : String × GVariant}
    (accepted : known Properties pair.1 pair.2 = true) :
    proxy.updateProperty (GVariant.entry pair) =
      .done { proxy with props := overwrite proxy.props pair } := by
  have ok := update_ok_of_known proxy.props accepted
  simp only [updateProperty, entryOf_entry, Except.bind, ok, Except.map, Outcome.ofExcept_ok]

theorem updateProperty_of_unknown {pair : String × GVariant}
    (rejected : known Properties pair.1 pair.2 = false) :
    ∃ fault, proxy.updateProperty (GVariant.entry pair) = ⟨proxy, some fault⟩ := by
  obtain ⟨fault, failed⟩ := update_error_of_unknown proxy.props rejected
  refine ⟨fault, ?_⟩
  simp only [updateProperty, entryOf_entry, Except.bind, failed, Except.map,
    Outcome.ofExcept_error]

/-- What `updateProperties` leaves behind: the entries up to the first unknown
one are folded in, and nothing but the properties changes. -/
theorem updateProperties_state (entries : List (String × GVariant)) :
    (proxy.updateProperties (GVariant.dictionary entries)).state =
      { proxy with props := fold proxy.props (acceptedPrefix Properties entries) } := by
  unfold updateProperties
  rw [GVariant.children_dictionary]
  induction entries generalizing proxy with
  | nil => rfl
  | cons pair rest ih =>
      rw [List.map_cons, Outcome.forEach_cons]
      cases accepted : known Properties pair.1 pair.2 with
      | true =>
          rw [updateProperty_of_known proxy accepted, Outcome.andThen_of_done rfl,
            acceptedPrefix_cons_of_known rest accepted, fold_cons]
          exact ih _
      | false =>
          obtain ⟨fault, failed⟩ := updateProperty_of_unknown proxy accepted
          rw [failed, Outcome.andThen_of_raised rfl,
            acceptedPrefix_cons_of_unknown rest accepted]
          rfl

/-- `updateProperties` raises exactly on dictionaries with an unknown entry. -/
theorem updateProperties_raised (entries : List (String × GVariant)) :
    (proxy.updateProperties (GVariant.dictionary entries)).raised = none ↔
      knownEntries Properties entries = true := by
  unfold updateProperties knownEntries
  rw [GVariant.children_dictionary]
  induction entries generalizing proxy with
  | nil => simp
  | cons pair rest ih =>
      rw [List.map_cons, Outcome.forEach_cons, List.all_cons]
      cases accepted : known Properties pair.1 pair.2 with
      | true =>
          rw [updateProperty_of_known proxy accepted, Outcome.andThen_of_done rfl, Bool.true_and]
          exact ih _
      | false =>
          obtain ⟨fault, failed⟩ := updateProperty_of_unknown proxy accepted
          rw [failed, Outcome.andThen_of_raised rfl]
          simp

/-- A dictionary of known entries is folded in completely. -/
theorem updateProperties_of_known {entries : List (String × GVariant)}
    (accepted : knownEntries Properties entries = true) :
    proxy.updateProperties (GVariant.dictionary entries) =
      .done { proxy with props := fold proxy.props entries } := by
  have state := proxy.updateProperties_state entries
  have raised := (proxy.updateProperties_raised entries).mpr accepted
  rw [acceptedPrefix_of_known accepted] at state
  cases result : proxy.updateProperties (GVariant.dictionary entries) with
  | mk left ended =>
      rw [result] at state raised
      cases state
      cases raised
      rfl

end DBusProxy

end GConnman.DBus
