import GConnman.DBus.PropertyRecord

/-!
# Records as independent slots

Seen from outside, a property record is a family of slots, and every key is
either ignored or names the slot its values are decoded for.  A dictionary then
acts on each slot on its own: only the last value that decodes for the slot
counts.  In particular a dictionary leaves a record alone exactly when, for
every slot, this last value is the one the slot already holds.
-/

namespace GConnman.DBus

open GConnman.GLib
open PropertyRecord

/-- A property record whose `update` sets one slot at a time. -/
class SlottedProperties (Properties : Type) [PropertyRecord Properties] where
  Slot : Type
  Value : Slot → Type
  slotOf : String → Option Slot
  decode : (slot : Slot) → GVariant → Except Fault (Value slot)
  get : Properties → (slot : Slot) → Value slot
  set : Properties → (slot : Slot) → Value slot → Properties
  get_set_self : ∀ props slot value, get (set props slot value) slot = value
  get_set_of_ne : ∀ props slot other value, slot ≠ other →
    get (set props slot value) other = get props other
  ext_slots : ∀ first second : Properties,
    (∀ slot, get first slot = get second slot) → first = second
  update_eq : ∀ (props : Properties) (key : String) (value : GVariant),
    update props key value =
      match slotOf key with
      | none => .ok props
      | some slot => (decode slot value).map (set props slot)

open SlottedProperties

/-- A record each of whose slots is written under at most one name. -/
class NamedSlots (Properties : Type) [PropertyRecord Properties]
    [SlottedProperties Properties] where
  keyOf : Slot Properties → Option String
  slotOf_eq_some_iff : ∀ (key : String) (slot : Slot Properties),
    slotOf key = some slot ↔ keyOf slot = some key

/-- One comparison of a chain that looks a name up. -/
theorem forall_some_ite {Found : Type} {condition : Prop} [Decidable condition]
    {test : Found → Prop} {first : Found} {rest : Option Found} (here : condition → test first)
    (later : ∀ found, rest = some found → test found) :
    ∀ found, (if condition then some first else rest) = some found → test found := by
  intro found chosen
  split at chosen
  · rename_i holds
    cases chosen
    exact here holds
  · exact later found chosen

/-- A value stored in the slot its key names, if any. -/
def storeIn {Record Place : Type} {Held : Place → Type}
    (read : (place : Place) → GVariant → Except Fault (Held place))
    (write : Record → (place : Place) → Held place → Record) (props : Record) (value : GVariant) :
    Option Place → Except Fault Record
  | none => .ok props
  | some place => (read place value).map (write props place)

variable {Properties : Type} [PropertyRecord Properties] [SlottedProperties Properties]
  [DecidableEq (Slot Properties)]

/-- The value an entry has for a slot. -/
def entryValue (slot : Slot Properties) (pair : String × GVariant) : Option (Value slot) :=
  if slotOf pair.1 = some slot then (decode slot pair.2).toOption else none

/-- The last value a dictionary has for a slot. -/
def lastValue (slot : Slot Properties) : List (String × GVariant) → Option (Value slot)
  | [] => none
  | pair :: rest => (lastValue slot rest).or (entryValue slot pair)

/-- One entry acts on the slot it names and on no other. -/
theorem get_overwrite (props : Properties) (pair : String × GVariant) (slot : Slot Properties) :
    get (overwrite props pair) slot = (entryValue slot pair).getD (get props slot) := by
  unfold overwrite entryValue
  rw [update_eq]
  cases named : (slotOf pair.1 : Option (Slot Properties)) with
  | none => rw [if_neg (by simp), Option.getD_none]
  | some target =>
      dsimp only
      by_cases same : target = slot
      · subst same
        rw [if_pos rfl]
        cases decode target pair.2 with
        | error fault => rfl
        | ok value => exact get_set_self props target value
      · rw [if_neg (by simpa using same), Option.getD_none]
        cases decode target pair.2 with
        | error fault => rfl
        | ok value => exact get_set_of_ne props target slot value same

/-- A dictionary leaves in every slot the last value it has for it. -/
theorem get_fold (props : Properties) (entries : List (String × GVariant))
    (slot : Slot Properties) :
    get (fold props entries) slot = (lastValue slot entries).getD (get props slot) := by
  induction entries generalizing props with
  | nil => rfl
  | cons pair rest ih =>
      rw [fold_cons, ih, get_overwrite, lastValue]
      cases lastValue slot rest <;> rfl

/-- A dictionary leaves a record alone exactly when the last value it has for
each slot is the one the slot holds. -/
theorem fold_eq_self_iff (props : Properties) (entries : List (String × GVariant)) :
    fold props entries = props ↔
      ∀ slot, ∀ value ∈ lastValue slot entries, value = get props slot := by
  constructor
  · intro same slot value last
    have held := get_fold props entries slot
    rw [same, last, Option.getD_some] at held
    exact held.symm
  · intro repeats
    apply ext_slots
    intro slot
    rw [get_fold]
    cases last : lastValue slot entries with
    | none => rfl
    | some value => exact repeats slot value last

end GConnman.DBus
