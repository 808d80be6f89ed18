import GConnman.DBus.LastWriter

/-!
# Records that agree with current values

The owner of an object holds the current values of its properties as a list of
entries, of which the last one for each name counts.  A record agrees with them
when every slot whose name has a current value holds that value, decoded.  A
record stays in agreement when a property changes and the change is folded in,
and when entries that only repeat current values are folded in.
-/

namespace GConnman.DBus

open GConnman.GLib
open PropertyRecord KnownProperties SlottedProperties NamedSlots PropertyMessage

/-- The entries with one property changed. -/
def assign (name : String) (value : GVariant) (entries : List (String × GVariant)) :
    List (String × GVariant) :=
  entries.filter (fun pair => pair.1 ≠ name) ++ [(name, value)]

@[simp] theorem lastCarried_assign_self (name : String) (value : GVariant)
    (entries : List (String × GVariant)) :
    lastCarried name (assign name value entries) = some value := by
  rw [assign, lastCarried_append]
  simp [lastCarried]

theorem lastCarried_assign_of_ne {name other : String} (different : other ≠ name)
    (value : GVariant) (entries : List (String × GVariant)) :
    lastCarried other (assign name value entries) = lastCarried other entries := by
  have kept : lastCarried other (entries.filter fun pair => pair.1 ≠ name) =
      lastCarried other entries :=
    lastCarried_filter (fun _ => decide_eq_true different) entries
  rw [assign, lastCarried_append, kept]
  simp [lastCarried, different.symm]

/-- Every value that counts in the first list is the one that counts in the second. -/
def TakenFrom (part entries : List (String × GVariant)) : Prop :=
  ∀ name value, lastCarried name part = some value → lastCarried name entries = some value

namespace TakenFrom

variable {part other entries : List (String × GVariant)}

theorem refl (entries : List (String × GVariant)) : TakenFrom entries entries :=
  fun _ _ carried => carried

theorem nil (entries : List (String × GVariant)) : TakenFrom [] entries := nofun

theorem append (first : TakenFrom part entries) (second : TakenFrom other entries) :
    TakenFrom (part ++ other) entries := by
  intro name value last
  rw [lastCarried_append] at last
  rcases Option.or_eq_some_iff.mp last with later | ⟨_, earlier⟩
  · exact second name value later
  · exact first name value earlier

/-- What was sent last is what counts. -/
theorem append_left (taken : TakenFrom entries part) (before : List (String × GVariant)) :
    TakenFrom entries (before ++ part) := by
  intro name value last
  rw [DBus.lastCarried_append, taken name value last, Option.some_or]

/-- A value that was sent last stays so when current values are sent again. -/
theorem lastCarried_append {name : String} {value : GVariant}
    {before : List (String × GVariant)} (taken : TakenFrom part entries)
    (current : lastCarried name entries = some value)
    (earlier : lastCarried name before = some value) :
    lastCarried name (before ++ part) = some value := by
  rw [DBus.lastCarried_append]
  cases last : lastCarried name part with
  | none => exact earlier
  | some sent =>
      have same := taken name sent last
      rw [current, Option.some.injEq] at same
      rw [same, Option.some_or]

/-- What is sent of a change follows the change. -/
theorem assign (taken : TakenFrom part entries) (name : String) (value : GVariant) :
    TakenFrom (part ++ [(name, value)]) (assign name value entries) := by
  intro other carried last
  rw [DBus.lastCarried_append] at last
  by_cases same : other = name
  · subst same
    rw [lastCarried_assign_self, ← last]
    simp [lastCarried]
  · rw [lastCarried_assign_of_ne same]
    refine taken other carried ?_
    simpa [lastCarried, Ne.symm same] using last

/-- The same the other way round. -/
theorem assign_back (taken : TakenFrom entries part) (name : String) (value : GVariant) :
    TakenFrom (DBus.assign name value entries) (part ++ [(name, value)]) := by
  intro other carried last
  rw [DBus.lastCarried_append]
  by_cases same : other = name
  · subst same
    rw [lastCarried_assign_self] at last
    rw [← last]
    simp [lastCarried]
  · rw [lastCarried_assign_of_ne same] at last
    simpa [lastCarried, Ne.symm same] using taken other carried last

/-- The entries with some of the names. -/
theorem names (names : List String) (entries : List (String × GVariant)) :
    TakenFrom (entries.filter fun pair => pair.1 ∈ names) entries := by
  intro name value last
  have member := (List.mem_filter.mp (mem_of_lastCarried last)).2
  rwa [lastCarried_filter fun _ => member] at last

/-- What is taken from the entries piece by piece is taken from them. -/
theorem flatMap {Source : Type*} {sources : List Source}
    {pieces : Source → List (String × GVariant)}
    (each : ∀ source ∈ sources, TakenFrom (pieces source) entries) :
    TakenFrom (sources.flatMap pieces) entries := by
  induction sources with
  | nil => exact nil entries
  | cons source rest ih =>
      obtain ⟨head, tail⟩ := List.forall_mem_cons.mp each
      rw [List.flatMap_cons]
      exact head.append (ih tail)

end TakenFrom

section Records

variable {Properties : Type} [PropertyRecord Properties] [SlottedProperties Properties]
  [NamedSlots Properties]

/-- Every slot whose name has a current value holds it, decoded. -/
def AgreesWith (props : Properties) (entries : List (String × GVariant)) : Prop :=
  ∀ (slot : Slot Properties) (name : String) (value : GVariant), keyOf slot = some name →
    lastCarried name entries = some value → decode slot value = .ok (get props slot)

/-- For every name the record handles, the sent entries end in the current value. -/
def Covers (Properties : Type) [PropertyRecord Properties] [SlottedProperties Properties]
    (sent entries : List (String × GVariant)) : Prop :=
  ∀ name, (slotOf name : Option (Slot Properties)).isSome = true →
    ∀ value, lastCarried name entries = some value → lastCarried name sent = some value

variable [KnownProperties Properties] [DecidableEq (Slot Properties)]
  {props : Properties} {entries : List (String × GVariant)}

/-- A record that had everything folded in agrees, whatever it held before. -/
theorem agreesWith_of_covers (props : Properties) {sent : List (String × GVariant)}
    (accepted : knownEntries Properties sent = true) (covers : Covers Properties sent entries) :
    AgreesWith (fold props sent) entries := by
  intro slot name value named current
  have handled : (slotOf name : Option (Slot Properties)).isSome = true := by
    rw [(slotOf_eq_some_iff name slot).mpr named]
    rfl
  exact get_fold_of_carried props named accepted (covers name handled value current)

namespace AgreesWith

/-- Current values may be sent again. -/
theorem fold_takenFrom (agrees : AgreesWith props entries) {part : List (String × GVariant)}
    (accepted : knownEntries Properties part = true) (taken : TakenFrom part entries) :
    AgreesWith (fold props part) entries := by
  intro slot name value named current
  cases last : lastCarried name part with
  | none =>
      rw [get_fold_of_absent props named accepted last]
      exact agrees slot name value named current
  | some sent =>
      have same := taken name sent last
      rw [current, Option.some.injEq] at same
      subst same
      exact get_fold_of_carried props named accepted last

/-- A change is followed by folding it in. -/
theorem fold_assign (agrees : AgreesWith props entries) {name : String} {value : GVariant}
    (accepted : known Properties name value = true) :
    AgreesWith (fold props [(name, value)]) (assign name value entries) := by
  have accepted : knownEntries Properties [(name, value)] = true := by
    simpa [knownEntries] using accepted
  intro slot other current named last
  by_cases same : other = name
  · subst same
    rw [lastCarried_assign_self, Option.some.injEq] at last
    subst last
    exact get_fold_of_carried props named accepted (by simp [lastCarried])
  · rw [lastCarried_assign_of_ne same] at last
    rw [get_fold_of_absent props named accepted (by simpa [lastCarried] using Ne.symm same)]
    exact agrees slot other current named last

end AgreesWith

end Records

end GConnman.DBus
