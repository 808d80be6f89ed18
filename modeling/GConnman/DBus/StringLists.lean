import GConnman.GLib.VariantBuilder
import GConnman.DBus.Proxy

/-!
# String lists on the wire

Vectors of strings are sent as values of type `as`, in the parameters of
SetProperty, and read back from the pairs that PropertyChanged and GetProperties
deliver.  A string is cut at its first NUL on the way out; apart from that both
directions are inverse to each other.
-/

namespace GConnman.DBus

open GConnman.GLib GConnman.Foundation

/-- `vector_to_as`. -/
def vectorToAs (vec : List String) : GVariant :=
  GVariantBuilder.build <|
    vec.foldl (fun builder string => builder.addValue (.newString string)) { element := .string }

/-- The parameters `setProperty` builds for the call of SetProperty. -/
def setProperty (argName : String) (argValue : GVariant) : GVariant :=
  .tuple [.newString argName, .variant argValue]

theorem vectorToAs_eq (vec : List String) :
    vectorToAs vec = .array .string (vec.map .newString) := by
  rw [vectorToAs, GVariantBuilder.foldl_addValue, List.nil_append]

theorem vectorToAs_nChildren (vec : List String) : (vectorToAs vec).nChildren = vec.length := by
  rw [vectorToAs_eq]
  exact List.length_map _

/-- What is sent is well formed, whatever the vector holds. -/
theorem vectorToAs_valid (vec : List String) : (vectorToAs vec).Valid := by
  rw [vectorToAs_eq, GVariant.Valid, GVariant.allValid_iff, List.forall_mem_map,
    List.forall_mem_map]
  exact ⟨fun text _ => GVariant.valid_newString text, fun _ _ => rfl⟩

theorem map_newString_of_nulFree {vec : List String} (nulFree : ∀ text ∈ vec, NulFree text) :
    vec.map GVariant.newString = vec.map .string :=
  List.map_congr_left fun text member => GVariant.newString_of_nulFree (nulFree text member)

theorem map_cString_of_nulFree {vec : List String} (nulFree : ∀ text ∈ vec, NulFree text) :
    vec.map GVariant.cString = vec := by
  rw [List.map_congr_left fun text member => GVariant.cString_of_nulFree (nulFree text member)]
  exact List.map_id' vec

/-- The loop of `as_to_vector` over an array of strings. -/
theorem convertAll_strings (texts : List String) :
    convertAll .ok (texts.map .string) = .ok texts := by
  induction texts with
  | nil => rfl
  | cons text rest ih =>
      rw [List.map_cons, convertAll, ih]
      rfl

theorem asToVector_strings (texts : List String) :
    asToVector (.array .string (texts.map .string)) = .ok texts :=
  convertAll_strings texts

/-- A vector comes back with every string cut at its first NUL. -/
theorem asToVector_vectorToAs (vec : List String) :
    asToVector (vectorToAs vec) = .ok (vec.map GVariant.cString) := by
  have cut : vec.map GVariant.newString = (vec.map GVariant.cString).map .string := by
    rw [List.map_map]
    rfl
  rw [vectorToAs_eq, cut]
  exact asToVector_strings _

/-- A value of type `as` is sent back as it was received. -/
theorem vectorToAs_asToVector {value : GVariant} (valid : value.Valid)
    (strings : value.typeOf = .strings) : (asToVector value).map vectorToAs = .ok value := by
  obtain ⟨texts, nulFree, rfl⟩ := GVariant.exists_strings valid strings
  rw [asToVector_strings, Except.map, vectorToAs_eq, map_newString_of_nulFree nulFree]

theorem asEntry_setProperty {argName : String} (nulFree : NulFree argName) (argValue : GVariant) :
    (setProperty argName argValue).asEntry = some (argName, argValue) := by
  rw [setProperty, GVariant.newString_of_nulFree nulFree]
  rfl

/-- A pair that carries a property is applied to the record of the proxy. -/
theorem DBusProxy.updateProperty_of_update {Properties : Type} [PropertyRecord Properties]
    (proxy : DBusProxy Properties) {prop : GVariant} {key : String} {value : GVariant}
    {next : Properties} (carries : prop.asEntry = some (key, value))
    (updated : PropertyRecord.update proxy.props key value = .ok next) :
    proxy.updateProperty prop = .done { proxy with props := next } := by
  simp only [updateProperty, entryOf, carries, Except.bind, updated, Except.map,
    Outcome.ofExcept_ok]

end GConnman.DBus
