import GConnman.DBus.Proxy

/-!
# Messages that carry properties

Properties reach a proxy in two kinds of messages: dictionaries, which come in
replies to `GetProperties` and in announcements, and the single pairs of
`PropertyChanged` signals.  A sequence of messages that raises nowhere folds
everything it carries into the record, one entry after the other, and changes
nothing else in the proxy.
-/

namespace GConnman.DBus

open GConnman.GLib GConnman.Foundation
open PropertyRecord KnownProperties

/-- A message that carries properties. -/
inductive PropertyMessage where
  | dictionary (entries : List (String × GVariant))
  | changed (name : String) (value : GVariant)

namespace PropertyMessage

def entries : PropertyMessage → List (String × GVariant)
  | dictionary entries => entries
  | changed name value => [(name, value)]

/-- Everything a sequence of messages carries, in order. -/
def carriedEntries (messages : List PropertyMessage) : List (String × GVariant) :=
  messages.flatMap entries

theorem carriedEntries_cons (message : PropertyMessage) (rest : List PropertyMessage) :
    carriedEntries (message :: rest) = message.entries ++ carriedEntries rest := rfl

theorem carriedEntries_append (first second : List PropertyMessage) :
    carriedEntries (first ++ second) = carriedEntries first ++ carriedEntries second :=
  List.flatMap_append

variable {Properties : Type} [PropertyRecord Properties]

/-- The update a message is passed to. -/
def apply (proxy : DBusProxy Properties) :
    PropertyMessage → Outcome Fault (DBusProxy Properties)
  | dictionary entries => proxy.updateProperties (GVariant.dictionary entries)
  | changed name value => proxy.updateProperty (.tuple [.string name, .variant value])

/-- A sequence of messages, up to the first one that raises. -/
def applyAll (proxy : DBusProxy Properties) (messages : List PropertyMessage) :
    Outcome Fault (DBusProxy Properties) :=
  .forEach apply proxy messages

variable [KnownProperties Properties]

theorem knownEntries_append (first second : List (String × GVariant)) :
    knownEntries Properties (first ++ second) =
      (knownEntries Properties first && knownEntries Properties second) :=
  List.all_append

/-- A message of known entries is folded in. -/
theorem apply_of_known (proxy : DBusProxy Properties) {message : PropertyMessage}
    (accepted : knownEntries Properties message.entries = true) :
    apply proxy message = .done { proxy with props := fold proxy.props message.entries } := by
  cases message with
  | dictionary entries => exact proxy.updateProperties_of_known accepted
  | changed name value =>
      have single : known Properties name value = true := by
        simpa [knownEntries, entries] using accepted
      exact proxy.updateProperty_of_known
        (show known Properties (name, value).1 (name, value).2 = true from single)

/-- A message raises exactly when one of its entries is unknown. -/
theorem apply_raised (proxy : DBusProxy Properties) (message : PropertyMessage) :
    (apply proxy message).raised = none ↔ knownEntries Properties message.entries = true := by
  constructor
  · intro normal
    cases message with
    | dictionary entries => exact (proxy.updateProperties_raised entries).mp normal
    | changed name value =>
        cases accepted : known Properties name value with
        | true => simp [knownEntries, entries, accepted]
        | false =>
            have rejected : known Properties (name, value).1 (name, value).2 = false := accepted
            obtain ⟨fault, failed⟩ := proxy.updateProperty_of_unknown rejected
            have raised : (apply proxy (changed name value)).raised = some fault :=
              congrArg Outcome.raised failed
            rw [normal] at raised
            cases raised
  · intro accepted
    rw [apply_of_known proxy accepted]
    rfl

/-- A sequence of messages of known entries is folded in. -/
theorem applyAll_of_known (proxy : DBusProxy Properties) {messages : List PropertyMessage}
    (accepted : knownEntries Properties (carriedEntries messages) = true) :
    applyAll proxy messages =
      .done { proxy with props := fold proxy.props (carriedEntries messages) } := by
  unfold applyAll
  induction messages generalizing proxy with
  | nil => rfl
  | cons message rest ih =>
      rw [carriedEntries_cons, knownEntries_append, Bool.and_eq_true] at accepted
      rw [Outcome.forEach_cons, apply_of_known proxy accepted.1, Outcome.andThen_of_done rfl,
        carriedEntries_cons, fold_append]
      exact ih _ accepted.2

/-- A sequence of messages raises exactly when it carries an unknown entry. -/
theorem applyAll_raised (proxy : DBusProxy Properties) (messages : List PropertyMessage) :
    (applyAll proxy messages).raised = none ↔
      knownEntries Properties (carriedEntries messages) = true := by
  constructor
  · intro normal
    unfold applyAll at normal
    induction messages generalizing proxy with
    | nil => rfl
    | cons message rest ih =>
        rw [Outcome.forEach_cons] at normal
        cases ended : (apply proxy message).raised with
        | some fault =>
            rw [Outcome.andThen_of_raised ended, ended] at normal
            cases normal
        | none =>
            rw [Outcome.andThen_of_done ended] at normal
            rw [carriedEntries_cons, knownEntries_append, Bool.and_eq_true]
            exact ⟨(apply_raised proxy message).mp ended, ih _ normal⟩
  · intro accepted
    rw [applyAll_of_known proxy accepted]
    rfl

end PropertyMessage

end GConnman.DBus
