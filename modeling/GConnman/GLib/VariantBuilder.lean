import Mathlib.Data.List.TakeWhile
import GConnman.GLib.Variant

/-!
# Well-formed values and the array builder

A value that GLib holds or the bus carries has no NUL in a string, and the items
of an array have the type the array names.  The builder collects the items of an
array one by one; what it builds of well-formed items is well formed.
-/

namespace GConnman.GLib

/-- What a C string can hold. -/
def NulFree (text : String) : Prop := Char.ofNat 0 ∉ text.toList

instance (text : String) : Decidable (NulFree text) :=
  inferInstanceAs (Decidable (Char.ofNat 0 ∉ text.toList))

namespace GVariant

theorem cString_of_nulFree {text : String} (nulFree : NulFree text) : cString text = text := by
  unfold cString
  have whole : text.toList.takeWhile (· ≠ Char.ofNat 0) = text.toList := by
    apply List.takeWhile_eq_self_iff.mpr
    intro character member
    have other : character ≠ Char.ofNat 0 := fun nul => nulFree (nul ▸ member)
    simpa using other
  rw [whole, String.ofList_toList]

theorem nulFree_cString (text : String) : NulFree (cString text) := by
  unfold NulFree cString
  rw [String.toList_ofList]
  intro member
  simpa using List.mem_takeWhile_imp member

mutual

/-- A well-formed value. -/
def Valid : GVariant → Prop
  | .boolean _ => True
  | .byte _ => True
  | .uint16 _ => True
  | .int32 _ => True
  | .uint64 _ => True
  | .string value => NulFree value
  | .objectPath value => NulFree value
  | .variant inner => inner.Valid
  | .array element items => AllValid items ∧ ∀ item ∈ items, item.typeOf = element
  | .tuple members => AllValid members
  | .dictEntry key value => key.Valid ∧ value.Valid

def AllValid : List GVariant → Prop
  | [] => True
  | value :: rest => value.Valid ∧ AllValid rest

end

theorem allValid_iff {values : List GVariant} :
    AllValid values ↔ ∀ value ∈ values, value.Valid := by
  induction values with
  | nil => simp [AllValid]
  | cons value rest ih => simp [AllValid, ih]

theorem valid_newString (text : String) : (newString text).Valid := by
  rw [newString, Valid]
  exact nulFree_cString text

theorem newString_of_nulFree {text : String} (nulFree : NulFree text) :
    newString text = .string text := by
  rw [newString, cString_of_nulFree nulFree]

/-- The well-formed values of string type are the strings without NUL. -/
theorem exists_string {value : GVariant} (valid : value.Valid) (string : value.typeOf = .string) :
    ∃ text, NulFree text ∧ value = .string text := by
  cases value <;> rw [typeOf] at string <;> try cases string
  rename_i text
  rw [Valid] at valid
  exact ⟨text, valid, rfl⟩

/-- The well-formed values of type `as` are the arrays of strings without NUL. -/
theorem exists_strings {value : GVariant} (valid : value.Valid)
    (strings : value.typeOf = .strings) :
    ∃ texts : List String, (∀ text ∈ texts, NulFree text) ∧
      value = .array .string (texts.map .string) := by
  cases value <;> rw [typeOf] at strings <;> try cases strings
  rename_i items
  rw [Valid, allValid_iff] at valid
  obtain ⟨each, typed⟩ := valid
  induction items with
  | nil => exact ⟨[], by simp, rfl⟩
  | cons item rest ih =>
      rw [List.forall_mem_cons] at each typed
      obtain ⟨text, nulFree, rfl⟩ := exists_string each.1 typed.1
      obtain ⟨texts, free, same⟩ := ih each.2 typed.2
      obtain rfl : rest = texts.map .string := by injection same
      exact ⟨text :: texts, List.forall_mem_cons.mpr ⟨nulFree, free⟩, rfl⟩

end GVariant

/-- A `GVariantBuilder` for an array. -/
structure GVariantBuilder where
  element : GVariantType
  items : List GVariant := []

namespace GVariantBuilder

variable (builder : GVariantBuilder)

/-- `g_variant_builder_add_value`. -/
def addValue (value : GVariant) : GVariantBuilder :=
  { builder with items := builder.items ++ [value] }

/-- `g_variant_builder_end`. -/
def build : GVariant := .array builder.element builder.items

/-- A loop that adds one value for each item. -/
theorem foldl_addValue {Item : Type*} (convert : Item → GVariant) (items : List Item) :
    (items.foldl (fun builder item => builder.addValue (convert item)) builder).build =
      .array builder.element (builder.items ++ items.map convert) := by
  induction items generalizing builder with
  | nil => rw [List.foldl_nil, List.map_nil, List.append_nil, build]
  | cons item rest ih =>
      rw [List.foldl_cons, ih, List.map_cons, List.append_cons]
      rfl

end GVariantBuilder

end GConnman.GLib
