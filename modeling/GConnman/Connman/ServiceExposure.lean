import GConnman.Connman.Manager
import GConnman.Connman.ServiceSlots
import GConnman.Connman.NestedSlots

/-!
# What a service exposes

Each field of the service record that has a getter or is printed stands for one
property of the daemon.  A dictionary is exposed faithfully when every field
with an entry holds its decoded value and every other field is unchanged, and
the same inside the nested records.  The record exposes whether the service is
roaming but never reads it, so this is where a dictionary can get lost.
-/

namespace GConnman.Connman

open GConnman.GLib GConnman.DBus GConnman.Foundation
open KnownProperties SlottedProperties NamedSlots

/-- The name of the property that a field of the service record exposes. -/
def ServSlot.propertyName : ServSlot → String
  | .state => "State"
  | .error => "Error"
  | .name => "Name"
  | .type => "Type"
  | .security => "Security"
  | .nameServers => "Nameservers"
  | .nameServersConf => "Nameservers.Configuration"
  | .domains => "Domains"
  | .timeServers => "Timeservers"
  | .autoconnect => "AutoConnect"
  | .mdns => "mDNS"
  | .favorite => "Favorite"
  | .immutable => "Immutable"
  | .roaming => "Roaming"
  | .strength => "Strength"
  | .ipv4 => "IPv4"
  | .ipv6 => "IPv6"
  | .ethernet => "Ethernet"
  | .provider => "Provider"
  | .proxy => "Proxy"

section Reading

variable {Record : Type} [PropertyRecord Record] [SlottedProperties Record]

/-- The slot holds the decoded value of the entry with this name if there is
one, and what it held before otherwise. -/
structure ReadsEntry (name : String) (slot : Slot Record) (before after : Record)
    (entries : List (String × GVariant)) : Prop where
  received : ∀ value, (name, value) ∈ entries → decode slot value = .ok (get after slot)
  kept : (∀ value, (name, value) ∉ entries) → get after slot = get before slot

/-- An optional field is absent after an empty dictionary, and after any other
one a record with each of its entries in the field of that name. -/
def ReadsNested (initial : Record) (nameOf : Slot Record → String) (name : String)
    (field : Option Record) (entries : List (String × GVariant)) : Prop :=
  ∀ nested, (name, GVariant.dictionary nested) ∈ entries → (nested.map Prod.fst).Nodup →
    (nested = [] → field = none) ∧
      (nested ≠ [] → ∃ record, field = some record ∧
        ∀ slot, ReadsEntry (nameOf slot) slot initial record nested)

variable [KnownProperties Record] [DecidableEq (Slot Record)] [NamedSlots Record]

theorem lastCarried_of_notMem {name : String} {entries : List (String × GVariant)}
    (absent : ∀ value, (name, value) ∉ entries) : lastCarried name entries = none := by
  apply lastCarried_eq_none.mpr
  rintro ⟨key, value⟩ member rfl
  exact absent value member

/-- A dictionary without repeated names is read into the slots its names lead to. -/
theorem readsEntry_of_named {name : String} {slot : Slot Record} (named : keyOf slot = some name)
    (before : Record) {entries : List (String × GVariant)}
    (distinct : (entries.map Prod.fst).Nodup)
    (accepted : knownEntries Record entries = true) :
    ReadsEntry name slot before (fold before entries) entries := by
  constructor
  · intro value member
    exact get_fold_of_carried before named accepted (lastCarried_of_mem distinct member)
  · intro absent
    exact get_fold_of_absent before named accepted (lastCarried_of_notMem absent)

/-- A nested dictionary is read into the fields of the nested record. -/
theorem readsNested_of_decode (initial : Record) {nameOf : Slot Record → String}
    (named : ∀ slot, keyOf slot = some (nameOf slot)) {name : String} {field : Option Record}
    {entries : List (String × GVariant)}
    (accepted : ∀ value, (name, value) ∈ entries → knownDictionary Record value = true)
    (decoded : ∀ value, (name, value) ∈ entries →
      optionalOf value (parse initial value) = .ok field) :
    ReadsNested initial nameOf name field entries := by
  intro nested member distinct
  have known := accepted _ member
  have read := decoded _ member
  rw [knownDictionary_dictionary] at known
  rw [parse_of_known initial known, optionalOf, GVariant.nChildren,
    GVariant.children_dictionary, List.length_map] at read
  constructor
  · rintro rfl
    exact (Except.ok.inj read).symm
  · intro nonempty
    rw [if_pos (mt List.length_eq_zero_iff.mp nonempty)] at read
    refine ⟨fold initial nested, (Except.ok.inj read).symm, ?_⟩
    intro slot
    exact readsEntry_of_named (named slot) initial distinct known

end Reading

/-- Every exposed property is the one received: none is dropped, and none is
stored in another's field. -/
structure ExposesReceived (before after : ServProperties) (entries : List (String × GVariant)) :
    Prop where
  fields : ∀ slot : Slot ServProperties, ReadsEntry (ServSlot.propertyName slot) slot
    before after entries
  ipv4 : ReadsNested ({} : IPv4) IPv4Slot.key "IPv4" after.ipv4 entries
  ipv6 : ReadsNested ({} : IPv6) IPv6Slot.key "IPv6" after.ipv6 entries
  ethernet : ReadsNested ({} : Ethernet) EthernetSlot.key "Ethernet" after.ethernet entries
  provider : ReadsNested ({} : Provider) ProviderSlot.key "Provider" after.provider entries
  proxy : ReadsNested ({} : Proxy) ProxySlot.key "Proxy" after.proxy entries

/-- Every field but one is written under the name it exposes. -/
theorem ServSlot.key_eq_propertyName {slot : ServSlot} (read : slot ≠ .roaming) :
    slot.key = some slot.propertyName := by
  cases slot with
  | roaming => exact absurd rfl read
  | _ => rfl

/-- Once the fields are read, the nested records are. -/
theorem exposesReceived_of_fields {before after : ServProperties}
    {entries : List (String × GVariant)}
    (accepted : knownEntries ServProperties entries = true)
    (fields : ∀ slot : Slot ServProperties, ReadsEntry (ServSlot.propertyName slot) slot
      before after entries) : ExposesReceived before after entries := by
  have known := List.all_eq_true.mp accepted
  constructor
  case fields => exact fields
  case ipv4 =>
      apply readsNested_of_decode _ (fun _ => rfl) (fun value => known ("IPv4", value))
      exact (fields .ipv4).received
  case ipv6 =>
      apply readsNested_of_decode _ (fun _ => rfl) (fun value => known ("IPv6", value))
      exact (fields .ipv6).received
  case ethernet =>
      apply readsNested_of_decode _ (fun _ => rfl) (fun value => known ("Ethernet", value))
      exact (fields .ethernet).received
  case provider =>
      apply readsNested_of_decode _ (fun _ => rfl) (fun value => known ("Provider", value))
      exact (fields .provider).received
  case proxy =>
      apply readsNested_of_decode _ (fun _ => rfl) (fun value => known ("Proxy", value))
      exact (fields .proxy).received

/-- A dictionary is exposed faithfully exactly when it repeats the roaming state
the record already holds, or does not carry it. -/
theorem exposesReceived_iff_roaming (service : Service)
    (entries : List (String × GVariant)) (distinct : (entries.map Prod.fst).Nodup)
    (accepted : knownEntries ServProperties entries = true) :
    ExposesReceived service.props
        (service.updateProperties (GVariant.dictionary entries)).state.props entries ↔
      ∀ value, ("Roaming", value) ∈ entries → value.getBoolean = service.props.roaming := by
  rw [service.updateProperties_of_known accepted]
  have unread : (fold service.props entries).roaming = service.props.roaming :=
    get_fold_unnamed service.props (show keyOf ServSlot.roaming = none from rfl) entries
  constructor
  · intro exposed value member
    have received : (Except.ok value.getBoolean : Except Fault Bool) =
        .ok (fold service.props entries).roaming :=
      (exposed.fields .roaming).received value member
    rw [unread] at received
    exact Except.ok.inj received
  · intro repeated
    apply exposesReceived_of_fields accepted
    intro slot
    by_cases roaming : slot = .roaming
    · subst roaming
      constructor
      · intro value member
        change (Except.ok value.getBoolean : Except Fault Bool) =
          .ok (fold service.props entries).roaming
        rw [unread, repeated value member]
      · intro _
        exact unread
    · exact readsEntry_of_named (ServSlot.key_eq_propertyName roaming) service.props distinct
        accepted

/-- A named service that is not roaming, as a fresh proxy reads it. -/
theorem exposesReceived_not_roaming :
    ExposesReceived {}
      ((Service.new "/service").updateProperties (GVariant.dictionary
        [("Name", .string "office"), ("Roaming", .boolean false)])).state.props
      [("Name", .string "office"), ("Roaming", .boolean false)] := by
  apply (exposesReceived_iff_roaming (Service.new "/service") _ (by decide) (by decide)).mpr
  intro value member
  simp only [List.mem_cons, Prod.mk.injEq, String.reduceEq, false_and, true_and, false_or,
    List.not_mem_nil, or_false] at member
  subst member
  rfl

/-- A fresh proxy drops that its service is roaming. -/
theorem not_exposesReceived_roaming :
    ¬ ExposesReceived {}
      ((Service.new "/service").updateProperties (GVariant.dictionary
        [("Roaming", .boolean true)])).state.props
      [("Roaming", .boolean true)] := by
  intro exposed
  have received := (exposed.fields .roaming).received (.boolean true) List.mem_cons_self
  cases received

end GConnman.Connman
