import Mathlib.Data.List.Basic

/-!
# Serialised values

The part of the `GVariant` interface that D-Bus clients use: typed values,
access to their children, the readers of leaf values and the constructors of
strings, byte arrays and dictionaries.  A reader of string type that is given
another type returns the null pointer (`none`); the numeric and Boolean readers
return zero.
-/

namespace GConnman.GLib

/-- The types of serialised values. -/
inductive GVariantType where
  | boolean
  | byte
  | uint16
  | int32
  | uint64
  | string
  | objectPath
  | variant
  | array (element : GVariantType)
  | tuple (members : List GVariantType)
  | dictEntry (key value : GVariantType)

/-- Serialised values.  An array carries the type of its elements. -/
inductive GVariant where
  | boolean (value : Bool)
  | byte (value : UInt8)
  | uint16 (value : UInt16)
  | int32 (value : Int32)
  | uint64 (value : UInt64)
  | string (value : String)
  | objectPath (value : String)
  | variant (inner : GVariant)
  | array (element : GVariantType) (items : List GVariant)
  | tuple (members : List GVariant)
  | dictEntry (key value : GVariant)

namespace GVariantType

/-- The type string `as`. -/
def strings : GVariantType := .array .string

/-- The type string `ay`. -/
def bytes : GVariantType := .array .byte

/-- The type string `a{sv}`. -/
def dictionary : GVariantType := .array (.dictEntry .string .variant)

/-- The type string `a(oa{sv})`. -/
def objects : GVariantType := .array (.tuple [.objectPath, dictionary])

end GVariantType

namespace GVariant

mutual

/-- `g_variant_get_type`. -/
def typeOf : GVariant → GVariantType
  | .boolean _ => .boolean
  | .byte _ => .byte
  | .uint16 _ => .uint16
  | .int32 _ => .int32
  | .uint64 _ => .uint64
  | .string _ => .string
  | .objectPath _ => .objectPath
  | .variant _ => .variant
  | .array element _ => .array element
  | .tuple members => .tuple (typesOf members)
  | .dictEntry key value => .dictEntry key.typeOf value.typeOf

def typesOf : List GVariant → List GVariantType
  | [] => []
  | value :: rest => value.typeOf :: typesOf rest

end

/-- The value is an array of strings (`g_variant_is_of_type` with `as`). -/
def isStrings : GVariant → Bool
  | .array .string _ => true
  | _ => false

/-- The value has type `a(oa{sv})`. -/
def isObjects : GVariant → Bool
  | .array (.tuple [.objectPath, .array (.dictEntry .string .variant)]) _ => true
  | _ => false

/-- The children of a container, in order. -/
def children : GVariant → List GVariant
  | .variant inner => [inner]
  | .array _ items => items
  | .tuple members => members
  | .dictEntry key value => [key, value]
  | _ => []

/-- `g_variant_n_children`. -/
def nChildren (value : GVariant) : Nat := value.children.length

/-- `g_variant_get_child_value`. -/
def getChildValue (value : GVariant) (index : Nat) : Option GVariant := value.children[index]?

/-- `g_variant_get_string`, for values of string and object path type. -/
def getString : GVariant → Option String
  | .string value => some value
  | .objectPath value => some value
  | _ => none

/-- `g_variant_get_variant`. -/
def getVariant : GVariant → Option GVariant
  | .variant inner => some inner
  | _ => none

/-- `g_variant_get_boolean`. -/
def getBoolean : GVariant → Bool
  | .boolean value => value
  | _ => false

/-- `g_variant_get_byte`. -/
def getByte : GVariant → UInt8
  | .byte value => value
  | _ => 0

/-- `g_variant_get_uint16`. -/
def getUint16 : GVariant → UInt16
  | .uint16 value => value
  | _ => 0

/-- `g_variant_get_int32`. -/
def getInt32 : GVariant → Int32
  | .int32 value => value
  | _ => 0

/-- `g_variant_get_uint64`. -/
def getUint64 : GVariant → UInt64
  | .uint64 value => value
  | _ => 0

/-- What a C string of these characters holds: everything before the first NUL. -/
def cString (text : String) : String :=
  String.ofList (text.toList.takeWhile (· ≠ Char.ofNat 0))

/-- `g_variant_new_string` of `text.c_str()`.  The text is UTF-8, as the function demands;
it returns null for other bytes of a `std::string`, which are left out. -/
def newString (text : String) : GVariant := .string (cString text)

/-- `g_variant_new_fixed_array` of the bytes of a string. -/
def newBytes (text : String) : GVariant :=
  .array .byte (text.toUTF8.toList.map .byte)

/-- A key and the value boxed with it, as a dictionary entry `{sv}`. -/
def entry (pair : String × GVariant) : GVariant :=
  .dictEntry (.string pair.1) (.variant pair.2)

/-- A dictionary `a{sv}` with these entries, in this order. -/
def dictionary (entries : List (String × GVariant)) : GVariant :=
  .array (.dictEntry .string .variant) (entries.map entry)

/-- The key and the unboxed value of a dictionary entry or of a pair `(sv)`. -/
def asEntry (value : GVariant) : Option (String × GVariant) := do
  let key ← (← value.getChildValue 0).getString
  let boxed ← (← value.getChildValue 1).getVariant
  return (key, boxed)

@[simp] theorem asEntry_entry (pair : String × GVariant) : asEntry (entry pair) = some pair := rfl

@[simp] theorem children_dictionary (entries : List (String × GVariant)) :
    (dictionary entries).children = entries.map entry := rfl

end GVariant

end GConnman.GLib
