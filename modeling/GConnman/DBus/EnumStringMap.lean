import GConnman.GLib.Variant

/-!
# Enumeration tables and string arrays

Every enumeration that travels over the bus as a string has a table of pairs.
Looking a string or an enumerator up that the table does not list raises, and so
does using the null pointer that a string reader returns for a value of another
type.
-/

namespace GConnman.DBus

open GConnman.GLib

/-- What the code raises. -/
inductive Fault where
  /-- `Invalid enum value`. -/
  | invalidEnumValue
  /-- `Invalid string value`. -/
  | invalidStringValue
  /-- A string is built from the null pointer. -/
  | nullString
  /-- A `std::any_cast` to a type that is not the stored one. -/
  | badAnyCast
  deriving DecidableEq, Repr

/-- `g_variant_get_string` where the result is used as a string. -/
def stringOf (value : GVariant) : Except Fault String :=
  match value.getString with
  | some text => .ok text
  | none => .error .nullString

/-- The key and the unboxed value of a property entry. -/
def entryOf (prop : GVariant) : Except Fault (String × GVariant) :=
  match prop.asEntry with
  | some entry => .ok entry
  | none => .error .nullString

@[simp] theorem entryOf_entry (pair : String × GVariant) :
    entryOf (GVariant.entry pair) = .ok pair := rfl

/-- `EnumStringMap`: the enumerators and their strings, searched from the front. -/
structure EnumStringMap (Enum : Type) where
  data : List (Enum × String)

namespace EnumStringMap

variable {Enum : Type} (map : EnumStringMap Enum)

def toString [DecidableEq Enum] (enumValue : Enum) : Except Fault String :=
  match map.data.find? (fun pair => pair.1 = enumValue) with
  | some pair => .ok pair.2
  | none => .error .invalidEnumValue

def fromString (str : String) : Except Fault Enum :=
  match map.data.find? (fun pair => pair.2 = str) with
  | some pair => .ok pair.1
  | none => .error .invalidStringValue

/-- The strings the table lists. -/
def strings : List String := map.data.map Prod.snd

theorem fromString_ok_iff (str : String) :
    (∃ enumValue, map.fromString str = .ok enumValue) ↔ str ∈ map.strings := by
  unfold fromString strings
  cases found : map.data.find? (fun pair => pair.2 = str) with
  | none =>
      have absent := List.find?_eq_none.mp found
      simp only [reduceCtorEq, exists_false, List.mem_map, false_iff]
      rintro ⟨pair, member, same⟩
      exact absent pair member (by simpa using same)
  | some pair =>
      have same : pair.2 = str := by simpa using List.find?_some found
      have member := List.mem_of_find?_eq_some found
      simp only [Except.ok.injEq, exists_eq', List.mem_map, true_iff]
      exact ⟨pair, member, same⟩

/-- The enumerators the table lists. -/
def enumerators : List Enum := map.data.map Prod.fst

theorem toString_ok_iff [DecidableEq Enum] (enumValue : Enum) :
    (∃ str, map.toString enumValue = .ok str) ↔ enumValue ∈ map.enumerators := by
  unfold toString enumerators
  cases found : map.data.find? (fun pair => pair.1 = enumValue) with
  | none =>
      have absent := List.find?_eq_none.mp found
      simp only [reduceCtorEq, exists_false, List.mem_map, false_iff]
      rintro ⟨pair, member, same⟩
      exact absent pair member (by simpa using same)
  | some pair =>
      have same : pair.1 = enumValue := by simpa using List.find?_some found
      have member := List.mem_of_find?_eq_some found
      simp only [Except.ok.injEq, exists_eq', List.mem_map, true_iff]
      exact ⟨pair, member, same⟩

/-- An enumeration-valued property. -/
def decode (value : GVariant) : Except Fault Enum := (stringOf value).bind map.fromString

end EnumStringMap

/-- Convert strings one after the other; the first failure ends the loop. -/
def convertAll {Element : Type} (convert : String → Except Fault Element) :
    List GVariant → Except Fault (List Element)
  | [] => .ok []
  | item :: rest =>
      (stringOf item).bind fun text =>
        (convert text).bind fun element =>
          (convertAll convert rest).map (element :: ·)

/-- `as_to_vector`: a value that is not an array of strings gives the empty vector. -/
def asToVectorWith {Element : Type} (convert : String → Except Fault Element)
    (arrayS : GVariant) : Except Fault (List Element) :=
  if arrayS.isStrings then convertAll convert arrayS.children else .ok []

/-- `as_to_vector` for strings. -/
def asToVector (arrayS : GVariant) : Except Fault (List String) :=
  asToVectorWith .ok arrayS

/-- `as_to_vector` through an enumeration table. -/
def asToVectorEnum {Enum : Type} (enumMap : EnumStringMap Enum) (arrayS : GVariant) :
    Except Fault (List Enum) :=
  asToVectorWith enumMap.fromString arrayS

end GConnman.DBus
