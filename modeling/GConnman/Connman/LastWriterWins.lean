import GConnman.Connman.ServiceSlots
import GConnman.Connman.NestedSlots
import GConnman.Connman.RecordSlots

/-!
# Last-writer-wins

The four property records are updated by name, and a name that is written again
forgets what was written before.  Everything below speaks about sequences of
messages whose entries are known, which is when no update raises.
-/

namespace GConnman.Connman

open GConnman.GLib GConnman.DBus GConnman.Foundation
open PropertyMessage KnownProperties SlottedProperties NamedSlots

variable (Properties : Type) [PropertyRecord Properties] [KnownProperties Properties]
  [SlottedProperties Properties] [NamedSlots Properties]

/-- The record handles the name. -/
def handles (name : String) : Bool := (slotOf name : Option (Slot Properties)).isSome

/-- Only the last value carried for each handled name counts. -/
structure LastWriterWins : Prop where
  /-- A slot whose name is carried holds the last value for it, decoded, and
  every other slot holds what it held before. -/
  settled : ∀ (proxy : DBusProxy Properties) (messages : List PropertyMessage),
    knownEntries Properties (carriedEntries messages) = true →
      ∃ next, applyAll proxy messages = .done { proxy with props := next } ∧
        ∀ slot : Slot Properties,
          (∀ name value, keyOf slot = some name →
            lastCarried name (carriedEntries messages) = some value →
              decode slot value = .ok (get next slot)) ∧
          ((∀ name, keyOf slot = some name → lastCarried name (carriedEntries messages) = none) →
            get next slot = get proxy.props slot)
  /-- What was stored under a carried name before is forgotten. -/
  overwritten : ∀ (first second : DBusProxy Properties) (messages others : List PropertyMessage),
    knownEntries Properties (carriedEntries messages) = true →
    knownEntries Properties (carriedEntries others) = true →
    ∀ (slot : Slot Properties) (name : String) (value : GVariant), keyOf slot = some name →
      lastCarried name (carriedEntries messages) = some value →
      lastCarried name (carriedEntries others) = some value →
        get (applyAll first messages).state.props slot =
          get (applyAll second others).state.props slot
  /-- Sequences that carry the same last values do the same. -/
  determined : ∀ (proxy : DBusProxy Properties) (messages others : List PropertyMessage),
    knownEntries Properties (carriedEntries messages) = true →
    knownEntries Properties (carriedEntries others) = true →
    (∀ name, handles Properties name = true →
      lastCarried name (carriedEntries messages) = lastCarried name (carriedEntries others)) →
        applyAll proxy messages = applyAll proxy others
  /-- Splitting and merging messages changes nothing. -/
  regrouped : ∀ (proxy : DBusProxy Properties) (messages others : List PropertyMessage),
    knownEntries Properties (carriedEntries messages) = true →
    carriedEntries messages = carriedEntries others →
      applyAll proxy messages = applyAll proxy others
  /-- Entries with different names may change places. -/
  permuted : ∀ (proxy : DBusProxy Properties) (messages others : List PropertyMessage),
    knownEntries Properties (carriedEntries messages) = true →
    knownEntries Properties (carriedEntries others) = true →
    (∀ name, (carriedEntries messages).filter (fun pair => pair.1 = name) =
      (carriedEntries others).filter (fun pair => pair.1 = name)) →
        applyAll proxy messages = applyAll proxy others
  /-- Entries with unhandled names may come and go. -/
  interspersed : ∀ (proxy : DBusProxy Properties) (messages others : List PropertyMessage),
    knownEntries Properties (carriedEntries messages) = true →
    knownEntries Properties (carriedEntries others) = true →
    (carriedEntries messages).filter (fun pair => handles Properties pair.1) =
      (carriedEntries others).filter (fun pair => handles Properties pair.1) →
        applyAll proxy messages = applyAll proxy others
  /-- The last value of a name may be sent again. -/
  replayed : ∀ (proxy : DBusProxy Properties) (messages : List PropertyMessage),
    knownEntries Properties (carriedEntries messages) = true →
    ∀ name value, lastCarried name (carriedEntries messages) = some value →
      applyAll proxy (messages ++ [.changed name value]) = applyAll proxy messages

variable {Properties} [DecidableEq (Slot Properties)]

theorem applyAll_eq_applyAll (proxy : DBusProxy Properties)
    {messages others : List PropertyMessage}
    (accepted : knownEntries Properties (carriedEntries messages) = true)
    (acceptedOthers : knownEntries Properties (carriedEntries others) = true)
    (same : ∀ name, handles Properties name = true →
      lastCarried name (carriedEntries messages) = lastCarried name (carriedEntries others)) :
    applyAll proxy messages = applyAll proxy others := by
  rw [applyAll_of_known proxy accepted, applyAll_of_known proxy acceptedOthers,
    fold_eq_fold proxy.props accepted acceptedOthers same]

theorem lastCarried_eq_of_filter_eq {entries others : List (String × GVariant)} {name : String}
    {keep : String × GVariant → Bool} (kept : ∀ value, keep (name, value) = true)
    (same : entries.filter keep = others.filter keep) :
    lastCarried name entries = lastCarried name others := by
  rw [← lastCarried_filter kept entries, same, lastCarried_filter kept others]

theorem get_applyAll_of_lastCarried (proxy : DBusProxy Properties)
    {messages : List PropertyMessage}
    (accepted : knownEntries Properties (carriedEntries messages) = true) {slot : Slot Properties}
    {name : String} {value : GVariant} (named : keyOf slot = some name)
    (last : lastCarried name (carriedEntries messages) = some value) :
    decode slot value = .ok (get (applyAll proxy messages).state.props slot) := by
  rw [applyAll_of_known proxy accepted]
  exact get_fold_of_carried proxy.props named accepted last

theorem get_applyAll_of_absent (proxy : DBusProxy Properties) {messages : List PropertyMessage}
    (accepted : knownEntries Properties (carriedEntries messages) = true) {slot : Slot Properties}
    (absent : ∀ name, keyOf slot = some name → lastCarried name (carriedEntries messages) = none) :
    get (applyAll proxy messages).state.props slot = get proxy.props slot := by
  rw [applyAll_of_known proxy accepted]
  cases named : keyOf slot with
  | none => exact get_fold_unnamed proxy.props named _
  | some name => exact get_fold_of_absent proxy.props named accepted (absent name named)

/-- Every record with named slots is last-writer-wins. -/
theorem lastWriterWins_of_namedSlots : LastWriterWins Properties where
  settled proxy messages accepted := by
    refine ⟨(applyAll proxy messages).state.props, ?_, ?_⟩
    · rw [applyAll_of_known proxy accepted]
      rfl
    · intro slot
      constructor
      · intro name value named last
        exact get_applyAll_of_lastCarried proxy accepted named last
      · intro absent
        exact get_applyAll_of_absent proxy accepted absent
  overwritten first second messages others accepted acceptedOthers slot name value named last
      lastOthers := by
    have here := get_applyAll_of_lastCarried first accepted named last
    have there := get_applyAll_of_lastCarried second acceptedOthers named lastOthers
    rw [here] at there
    exact Except.ok.inj there
  determined proxy messages others := applyAll_eq_applyAll proxy
  regrouped proxy messages others accepted same := by
    apply applyAll_eq_applyAll proxy accepted (same ▸ accepted)
    intro name _
    rw [same]
  permuted proxy messages others accepted acceptedOthers same := by
    apply applyAll_eq_applyAll proxy accepted acceptedOthers
    intro name _
    exact lastCarried_eq_of_filter_eq (fun _ => decide_eq_true rfl) (same name)
  interspersed proxy messages others accepted acceptedOthers same := by
    apply applyAll_eq_applyAll proxy accepted acceptedOthers
    intro name handled
    exact lastCarried_eq_of_filter_eq (fun _ => handled) same
  replayed proxy messages accepted name value last := by
    have again :
        knownEntries Properties (carriedEntries (messages ++ [.changed name value])) = true := by
      rw [carriedEntries_append, knownEntries_append, accepted, Bool.true_and]
      have sent := List.all_eq_true.mp accepted _ (mem_of_lastCarried last)
      simpa [knownEntries, carriedEntries, entries] using sent
    apply applyAll_eq_applyAll proxy again accepted
    intro other _
    rw [carriedEntries_append, lastCarried_append]
    change (lastCarried other [(name, value)]).or _ = _
    by_cases same : name = other
    · subst same
      simp [lastCarried, last]
    · simp [lastCarried, same]

/-- Property updates are last-writer-wins, for each of the four records. -/
theorem updates_lastWriterWins :
    LastWriterWins ManaProperties ∧ LastWriterWins ServProperties ∧
      LastWriterWins TechProperties ∧ LastWriterWins ClockProperties :=
  ⟨lastWriterWins_of_namedSlots, lastWriterWins_of_namedSlots, lastWriterWins_of_namedSlots,
    lastWriterWins_of_namedSlots⟩

end GConnman.Connman
