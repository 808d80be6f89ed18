import GConnman.DBus.PropertyMessages
import GConnman.DBus.PropertySlots

/-!
# The last value carried for a name

In a record whose slots are named, what a sequence of messages leaves behind is
decided by the last value it carries for each name the record handles.  How the
values are spread over messages, in which order different names come, which
unhandled names are among them and what the record held before do not matter.
-/

namespace GConnman.DBus

open GConnman.GLib GConnman.Foundation
open PropertyRecord KnownProperties SlottedProperties NamedSlots PropertyMessage

/-- The last value carried for a name. -/
def lastCarried (name : String) : List (String × GVariant) → Option GVariant
  | [] => none
  | pair :: rest => (lastCarried name rest).or (if pair.1 = name then some pair.2 else none)

theorem lastCarried_append (name : String) (first second : List (String × GVariant)) :
    lastCarried name (first ++ second) =
      (lastCarried name second).or (lastCarried name first) := by
  induction first with
  | nil => exact Option.or_none.symm
  | cons pair rest ih =>
      rw [List.cons_append, lastCarried, ih, lastCarried, Option.or_assoc]

/-- Entries with other names can be left out. -/
theorem lastCarried_filter {keep : String × GVariant → Bool} {name : String}
    (kept : ∀ value, keep (name, value) = true) (entries : List (String × GVariant)) :
    lastCarried name (entries.filter keep) = lastCarried name entries := by
  induction entries with
  | nil => rfl
  | cons pair rest ih =>
      obtain ⟨key, value⟩ := pair
      cases passes : keep (key, value) with
      | true => rw [List.filter_cons_of_pos passes, lastCarried, lastCarried, ih]
      | false =>
          have other : key ≠ name := by
            rintro rfl
            rw [kept value] at passes
            cases passes
          rw [List.filter_cons_of_neg (by simp [passes]), lastCarried, ih, if_neg other,
            Option.or_none]

theorem lastCarried_eq_none {name : String} {entries : List (String × GVariant)} :
    lastCarried name entries = none ↔ ∀ pair ∈ entries, pair.1 ≠ name := by
  induction entries with
  | nil => simp [lastCarried]
  | cons pair rest ih =>
      rw [lastCarried, Option.or_eq_none_iff, ih, List.forall_mem_cons, and_comm]
      apply and_congr_left'
      split <;> simp_all

/-- In a dictionary without repeated names, the last value is the only one. -/
theorem lastCarried_of_mem {name : String} {value : GVariant}
    {entries : List (String × GVariant)} (distinct : (entries.map Prod.fst).Nodup)
    (member : (name, value) ∈ entries) : lastCarried name entries = some value := by
  induction entries with
  | nil => cases member
  | cons pair rest ih =>
      rw [List.map_cons, List.nodup_cons] at distinct
      rw [lastCarried]
      rcases List.mem_cons.mp member with rfl | later
      · have fresh : lastCarried name rest = none := by
          apply lastCarried_eq_none.mpr
          intro other found same
          exact distinct.1 (List.mem_map.mpr ⟨other, found, same⟩)
        rw [fresh, Option.none_or, if_pos rfl]
      · rw [ih distinct.2 later, Option.some_or]

theorem mem_of_lastCarried {name : String} {value : GVariant}
    {entries : List (String × GVariant)} (last : lastCarried name entries = some value) :
    (name, value) ∈ entries := by
  induction entries with
  | nil => cases last
  | cons pair rest ih =>
      rw [lastCarried] at last
      rcases Option.or_eq_some_iff.mp last with later | ⟨_, first⟩
      · exact List.mem_cons_of_mem _ (ih later)
      · split at first
        · rename_i same
          cases first
          rw [← same]
          exact List.mem_cons_self
        · cases first

variable {Properties : Type} [PropertyRecord Properties] [SlottedProperties Properties]

section Unnamed

variable [DecidableEq (Slot Properties)] [NamedSlots Properties]

/-- A slot that no name leads to is never written. -/
theorem lastValue_of_unnamed {slot : Slot Properties} (unnamed : keyOf slot = none)
    (entries : List (String × GVariant)) : lastValue slot entries = none := by
  induction entries with
  | nil => rfl
  | cons pair rest ih =>
      have elsewhere : slotOf pair.1 ≠ some slot := by
        intro leads
        rw [slotOf_eq_some_iff, unnamed] at leads
        cases leads
      rw [lastValue, ih, entryValue, if_neg elsewhere, Option.none_or]

/-- A slot that no name leads to keeps its value. -/
theorem get_fold_unnamed (props : Properties) {slot : Slot Properties}
    (unnamed : keyOf slot = none) (entries : List (String × GVariant)) :
    get (fold props entries) slot = get props slot := by
  rw [get_fold, lastValue_of_unnamed unnamed, Option.getD_none]

end Unnamed

variable [KnownProperties Properties]

/-- A known value decodes for the slot its name leads to. -/
theorem decode_of_known (props : Properties) {name : String} {value : GVariant}
    {slot : Slot Properties} (named : slotOf name = some slot)
    (accepted : known Properties name value = true) :
    ∃ decoded, decode slot value = .ok decoded := by
  have ok := update_isOk props name value
  rw [accepted, update_eq, named] at ok
  change ((decode slot value).map (SlottedProperties.set props slot)).isOk = true at ok
  rw [isOk_map] at ok
  exact exists_ok_of_isOk ok

variable [DecidableEq (Slot Properties)] [NamedSlots Properties]

/-- The last value for a slot is what the last value for its name decodes to. -/
theorem lastValue_eq (props : Properties) {name : String} {slot : Slot Properties}
    (named : keyOf slot = some name) {entries : List (String × GVariant)}
    (accepted : knownEntries Properties entries = true) :
    lastValue slot entries =
      (lastCarried name entries).bind fun value => (decode slot value).toOption := by
  have leads := (slotOf_eq_some_iff name slot).mpr named
  induction entries with
  | nil => rfl
  | cons pair rest ih =>
      rw [knownEntries, List.all_cons, Bool.and_eq_true] at accepted
      rw [lastValue, ih accepted.2, lastCarried, entryValue]
      cases last : lastCarried name rest with
      | some value =>
          have known := List.all_eq_true.mp accepted.2 _ (mem_of_lastCarried last)
          obtain ⟨decoded, ok⟩ := decode_of_known props leads known
          simp only [Option.bind_some, Option.some_or, ok, Except.toOption]
      | none =>
          rw [Option.bind_none, Option.none_or, Option.none_or]
          by_cases same : pair.1 = name
          · rw [if_pos same, if_pos (same ▸ leads), Option.bind_some]
          · have elsewhere : slotOf pair.1 ≠ some slot := by
              intro leads'
              have key := (slotOf_eq_some_iff pair.1 slot).mp leads'
              rw [named] at key
              exact same (Option.some.inj key).symm
            rw [if_neg same, if_neg elsewhere, Option.bind_none]

/-- A slot whose name is carried holds the last value for it, decoded. -/
theorem get_fold_of_carried (props : Properties) {name : String} {slot : Slot Properties}
    (named : keyOf slot = some name) {entries : List (String × GVariant)}
    (accepted : knownEntries Properties entries = true) {value : GVariant}
    (last : lastCarried name entries = some value) :
    decode slot value = .ok (get (fold props entries) slot) := by
  have known := List.all_eq_true.mp accepted _ (mem_of_lastCarried last)
  obtain ⟨decoded, ok⟩ :=
    decode_of_known props ((slotOf_eq_some_iff name slot).mpr named) known
  rw [get_fold, lastValue_eq props named accepted, last, Option.bind_some, ok]
  rfl

/-- A slot whose name is not carried keeps its value. -/
theorem get_fold_of_absent (props : Properties) {name : String} {slot : Slot Properties}
    (named : keyOf slot = some name) {entries : List (String × GVariant)}
    (accepted : knownEntries Properties entries = true)
    (absent : lastCarried name entries = none) :
    get (fold props entries) slot = get props slot := by
  rw [get_fold, lastValue_eq props named accepted, absent]
  rfl

/-- Two dictionaries with the same last value for every handled name do the same. -/
theorem fold_eq_fold (props : Properties) {entries others : List (String × GVariant)}
    (accepted : knownEntries Properties entries = true)
    (acceptedOthers : knownEntries Properties others = true)
    (same : ∀ name, (slotOf name : Option (Slot Properties)).isSome = true →
      lastCarried name entries = lastCarried name others) :
    fold props entries = fold props others := by
  apply ext_slots
  intro slot
  cases named : keyOf slot with
  | none => rw [get_fold_unnamed props named, get_fold_unnamed props named]
  | some name =>
      have handled : (slotOf name : Option (Slot Properties)).isSome = true := by
        rw [(slotOf_eq_some_iff name slot).mpr named]
        rfl
      rw [get_fold, get_fold, lastValue_eq props named accepted,
        lastValue_eq props named acceptedOthers, same name handled]

end GConnman.DBus
