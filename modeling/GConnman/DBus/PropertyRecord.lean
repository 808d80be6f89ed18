import Mathlib.Data.List.TakeWhile
import GConnman.DBus.EnumStringMap
import GConnman.Foundation.Outcome

/-!
# Records updated by property name

A property record is updated one named value at a time, and a single update
either succeeds or raises without changing the record.  Dictionaries are applied
entry by entry.  The records of this library have a decidable set of known
entries: those whose value has the type of the property and whose enumeration
strings are listed in the tables.  Whether an update raises depends on the entry
only, so a dictionary is applied exactly up to its first unknown entry.
-/

namespace GConnman.DBus

open GConnman.GLib GConnman.Foundation

/-- The `update(key, value)` member every property record provides. -/
class PropertyRecord (Properties : Type) where
  update : Properties → String → GVariant → Except Fault Properties

/-- The entries a record accepts, whatever it holds. -/
class KnownProperties (Properties : Type) [PropertyRecord Properties] where
  known : String → GVariant → Bool
  update_isOk : ∀ (props : Properties) (key : String) (value : GVariant),
    (PropertyRecord.update props key value).isOk = known key value

open PropertyRecord KnownProperties

theorem exists_ok_of_isOk {Value : Type} {result : Except Fault Value} (ok : result.isOk = true) :
    ∃ value, result = .ok value := by
  cases result with
  | error fault => cases ok
  | ok value => exact ⟨value, rfl⟩

theorem exists_error_of_isOk {Value : Type} {result : Except Fault Value}
    (failed : result.isOk = false) : ∃ fault, result = .error fault := by
  cases result with
  | error fault => exact ⟨fault, rfl⟩
  | ok value => cases failed

@[simp] theorem isOk_ok {Value : Type} (value : Value) :
    (.ok value : Except Fault Value).isOk = true := rfl

@[simp] theorem isOk_error {Value : Type} (fault : Fault) :
    (.error fault : Except Fault Value).isOk = false := rfl

@[simp] theorem isOk_map {First Second : Type} (convert : First → Second)
    (result : Except Fault First) : (result.map convert).isOk = result.isOk := by
  cases result <;> rfl

theorem isOk_ite {Value : Type} (condition : Prop) [Decidable condition]
    (first second : Except Fault Value) :
    (if condition then first else second).isOk =
      if condition then first.isOk else second.isOk := by
  split <;> rfl

variable {Properties : Type} [PropertyRecord Properties]

/-- One entry folded into a record; an entry that raises leaves the record alone. -/
def overwrite (props : Properties) (pair : String × GVariant) : Properties :=
  match update props pair.1 pair.2 with
  | .ok next => next
  | .error _ => props

/-- A dictionary folded into a record. -/
def fold (props : Properties) (entries : List (String × GVariant)) : Properties :=
  entries.foldl overwrite props

theorem fold_cons (props : Properties) (pair : String × GVariant)
    (rest : List (String × GVariant)) :
    fold props (pair :: rest) = fold (overwrite props pair) rest := rfl

theorem fold_append (props : Properties) (first second : List (String × GVariant)) :
    fold props (first ++ second) = fold (fold props first) second :=
  List.foldl_append

theorem overwrite_of_ok {props next : Properties} {pair : String × GVariant}
    (ok : update props pair.1 pair.2 = .ok next) : overwrite props pair = next := by
  rw [overwrite, ok]

/-- The loop of `GVariantParser::parse`. -/
def parseAll : Properties → List GVariant → Except Fault Properties
  | props, [] => .ok props
  | props, prop :: rest =>
      (entryOf prop).bind fun entry =>
        (update props entry.1 entry.2).bind fun next => parseAll next rest

/-- `GVariantParser::parse`, run by the constructors of the nested records. -/
def parse (initial : Properties) (variant : GVariant) : Except Fault Properties :=
  parseAll initial variant.children

variable [KnownProperties Properties]

/-- The value is a sequence of entries the record accepts. -/
def knownDictionary (Properties : Type) [PropertyRecord Properties] [KnownProperties Properties]
    (value : GVariant) : Bool :=
  value.children.all fun prop => prop.asEntry.any fun entry => known Properties entry.1 entry.2

/-- Every entry of the list is one the record accepts. -/
def knownEntries (Properties : Type) [PropertyRecord Properties] [KnownProperties Properties]
    (entries : List (String × GVariant)) : Bool :=
  entries.all fun entry => known Properties entry.1 entry.2

theorem update_ok_of_known (props : Properties) {pair : String × GVariant}
    (accepted : known Properties pair.1 pair.2 = true) :
    update props pair.1 pair.2 = .ok (overwrite props pair) := by
  have ok := update_isOk props pair.1 pair.2
  rw [accepted] at ok
  obtain ⟨next, result⟩ := exists_ok_of_isOk ok
  rw [result, overwrite_of_ok result]

theorem update_error_of_unknown (props : Properties) {pair : String × GVariant}
    (rejected : known Properties pair.1 pair.2 = false) :
    ∃ fault, update props pair.1 pair.2 = .error fault := by
  have failed := update_isOk props pair.1 pair.2
  rw [rejected] at failed
  exact exists_error_of_isOk failed

theorem parseAll_isOk (props : Properties) (items : List GVariant) :
    (parseAll props items).isOk =
      items.all fun prop => prop.asEntry.any fun entry => known Properties entry.1 entry.2 := by
  induction items generalizing props with
  | nil => rfl
  | cons prop rest ih =>
      rw [List.all_cons, parseAll, entryOf]
      cases decoded : prop.asEntry with
      | none => rfl
      | some entry =>
          change ((update props entry.1 entry.2).bind fun next => parseAll next rest).isOk = _
          rw [Option.any_some]
          cases accepted : known Properties entry.1 entry.2 with
          | true =>
              rw [update_ok_of_known props accepted, Bool.true_and]
              exact ih _
          | false =>
              obtain ⟨fault, result⟩ := update_error_of_unknown props accepted
              rw [result, Bool.false_and]
              rfl

/-- A dictionary of known entries is parsed completely. -/
theorem parse_of_known (initial : Properties) {entries : List (String × GVariant)}
    (accepted : knownEntries Properties entries = true) :
    parse initial (GVariant.dictionary entries) = .ok (fold initial entries) := by
  rw [parse, GVariant.children_dictionary]
  induction entries generalizing initial with
  | nil => rfl
  | cons pair rest ih =>
      rw [knownEntries, List.all_cons, Bool.and_eq_true] at accepted
      rw [List.map_cons, parseAll, entryOf_entry, fold_cons]
      change ((update initial pair.1 pair.2).bind fun next => parseAll next _) = _
      rw [update_ok_of_known initial accepted.1]
      exact ih _ accepted.2

theorem knownDictionary_dictionary (entries : List (String × GVariant)) :
    knownDictionary Properties (GVariant.dictionary entries) =
      knownEntries Properties entries := by
  rw [knownDictionary, knownEntries, GVariant.children_dictionary, List.all_map]
  rfl

/-- A nested record is parsed without raising exactly when all its entries are known. -/
theorem parse_isOk (initial : Properties) (variant : GVariant) :
    (parse initial variant).isOk = knownDictionary Properties variant :=
  parseAll_isOk initial variant.children

/-- The entries applied before the first one that raises. -/
def acceptedPrefix (Properties : Type) [PropertyRecord Properties] [KnownProperties Properties]
    (entries : List (String × GVariant)) : List (String × GVariant) :=
  entries.takeWhile fun entry => known Properties entry.1 entry.2

theorem acceptedPrefix_cons_of_known {pair : String × GVariant} (rest : List (String × GVariant))
    (accepted : known Properties pair.1 pair.2 = true) :
    acceptedPrefix Properties (pair :: rest) = pair :: acceptedPrefix Properties rest :=
  List.takeWhile_cons_of_pos accepted

theorem acceptedPrefix_cons_of_unknown {pair : String × GVariant}
    (rest : List (String × GVariant)) (rejected : known Properties pair.1 pair.2 = false) :
    acceptedPrefix Properties (pair :: rest) = [] :=
  List.takeWhile_cons_of_neg (Bool.eq_false_iff.mp rejected)

theorem acceptedPrefix_of_known {entries : List (String × GVariant)}
    (accepted : knownEntries Properties entries = true) :
    acceptedPrefix Properties entries = entries := by
  rw [acceptedPrefix, List.takeWhile_eq_self_iff]
  exact List.all_eq_true.mp accepted

end GConnman.DBus
