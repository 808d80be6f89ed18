import GConnman.Connman.Manager
import GConnman.Connman.ServiceSlots
import GConnman.Connman.RecordSlots
import GConnman.DBus.PropertyMessages

/-!
# Printing the property records

The stream operators print enumerations through the same tables that decode
them, and raise on a value the table does not list.  Every enumerator of this
library is listed, so only a field that holds no enumerator at all can stop a
record from being printed.  There is one: the type of a technology before its
first `Type` entry.
-/

namespace GConnman.Connman

open GConnman.GLib GConnman.DBus GConnman.Foundation
open PropertyMessage SlottedProperties NamedSlots

/-! ## The stream operators -/

/-- A Boolean under `std::boolalpha`. -/
def boolText (value : Bool) : String := if value then "true" else "false"

/-- Strings, each followed by a blank. -/
def listText (items : List String) : String := String.join (items.map (· ++ " "))

/-- A line with a label. -/
def line (label text : String) : String := label ++ ": " ++ text ++ "\n"

def IPv6Privacy.number : IPv6Privacy → Nat
  | disabled => 0
  | enabled => 1
  | preferred => 2

def Ethernet.print (obj : Ethernet) : Except Fault String := do
  let method ← ethernetMethodMap.toString obj.method
  return "Ethernet:\n" ++ line "  Method" method ++ line "  Interface" obj.interface ++
    line "  Address" obj.address ++ line "  MTU" (toString obj.mtu.toNat)

def IPv4.print (obj : IPv4) : Except Fault String := do
  let method ← ipv4MethodMap.toString obj.method
  return "IPv4:\n" ++ line "  Method" method ++ line "  Address" obj.address ++
    line "  Netmask" obj.netmask ++ line "  Gateway" obj.gateway

def Provider.print (obj : Provider) : Except Fault String :=
  return "Provider:\n" ++ line "  Host" obj.host ++ line "  Domain" obj.domain ++
    line "  Name" obj.name ++ line "  Type" obj.type

def IPv6.print (obj : IPv6) : Except Fault String := do
  let method ← ipv6MethodMap.toString obj.method
  return "IPv6:\n" ++ line "  Method" method ++ line "  Address" obj.address ++
    line "  Gateway" obj.gateway ++ line "  Privacy" (toString obj.privacy.number) ++
    line "  Prefix Length" (toString obj.prefixLength.toNat)

def Proxy.print (obj : Proxy) : Except Fault String := do
  let method ← proxyMethodMap.toString obj.method
  return "Proxy:\n" ++ line "  Method" method ++ line "  URL" obj.url ++
    line "  Servers" (listText obj.servers) ++ line "  Excludes" (listText obj.excludes)

/-- What is printed only when it is there. -/
def printOptional {Value : Type} (print : Value → Except Fault String) :
    Option Value → Except Fault String
  | none => .ok ""
  | some value => print value

/-- An optional list of strings on a line of its own. -/
def printStrings (label : String) (items : Option (List String)) : Except Fault String :=
  printOptional (fun items => .ok (line label (listText items))) items

def printSecurity (label : String) (security : Option (List Security)) : Except Fault String :=
  printOptional (fun items => (items.mapM securityMap.toString).map
    fun texts => line label (listText texts)) security

/-- The error line, left out when there is no error. -/
def printError (error : ServError) : Except Fault String :=
  if error ≠ .none then (errorMap.toString error).map (line "Error") else .ok ""

def ServProperties.print (obj : ServProperties) : Except Fault String := do
  let state ← servStateMap.toString obj.state
  let error ← printError obj.error
  let type ← servTypeMap.toString obj.type
  let security ← printSecurity "Security" obj.security
  let nameServers ← printStrings "Nameservers" obj.nameServers
  let nameServersConf ← printStrings "Nameservers.Configuration" obj.nameServersConf
  let domains ← printStrings "Domains" obj.domains
  let timeServers ← printStrings "TimeServers" obj.timeServers
  let ipv4 ← printOptional IPv4.print obj.ipv4
  let ipv6 ← printOptional IPv6.print obj.ipv6
  let ethernet ← printOptional Ethernet.print obj.ethernet
  let provider ← printOptional Provider.print obj.provider
  let proxy ← printOptional Proxy.print obj.proxy
  return line "State" state ++ error ++ line "Name" obj.name ++ line "Type" type ++
    line "Strength" (toString obj.strength.toNat) ++
    line "AutoConnect" (boolText obj.autoconnect) ++ line "mDNS" (boolText obj.mdns) ++
    line "Favorite" (boolText obj.favorite) ++ line "Immutable" (boolText obj.immutable) ++
    line "Roaming" (boolText obj.roaming) ++
    security ++ nameServers ++ nameServersConf ++ domains ++ timeServers ++
    ipv4 ++ ipv6 ++ ethernet ++ provider ++ proxy

/-- The enumerator a byte stands for, in the order of declaration. -/
def TechType.ofByte (byte : UInt8) : Option TechType :=
  [ethernet, wifi, cellular, bluetooth, vpn, wired, p2p, gps, gadget][byte.toNat]?

/-- The enumerator a field without an initialiser holds, if it holds one. -/
def Uninitialised.enumerator {Value : Type} (ofByte : UInt8 → Option Value) :
    Uninitialised Value → Option Value
  | indeterminate byte => ofByte byte
  | assigned value => some value

/-- Looking up a field that holds no enumerator finds no pair of the table. -/
def TechProperties.typeText (obj : TechProperties) : Except Fault String :=
  match obj.type.enumerator TechType.ofByte with
  | some type => techTypeMap.toString type
  | none => .error .invalidEnumValue

def TechProperties.print (obj : TechProperties) : Except Fault String := do
  let type ← obj.typeText
  let tethering :=
    if obj.type.enumerator TechType.ofByte = some .wifi then
      line tetheringidentifierStr obj.tetheringIdentifier ++
        line tetheringpassphraseStr obj.tetheringPassphrase ++
        line tetheringfreqStr (toString obj.tetheringFreq.toInt ++ " ")
    else ""
  return line nameStr obj.name ++ line typeStr type ++ line poweredStr (boolText obj.powered) ++
    line connectedStr (boolText obj.connected) ++ line tetheringStr (boolText obj.tethering) ++
    tethering

/-- `localTime` is the broken-down time of the platform, formatted, where it has one. -/
def ClockProperties.print (localTime : UInt64 → Option String) (obj : ClockProperties) :
    Except Fault String := do
  let timeUpdates ← timeUpdateMap.toString obj.timeUpdates
  let timezoneUpdates ← timeUpdateMap.toString obj.timezoneUpdates
  let localText := match localTime obj.time with
    | some text => " (" ++ text ++ ")"
    | none => ""
  return line timeStr (toString obj.time.toNat ++ localText) ++ line timeupdatesStr timeUpdates ++
    line timezoneStr obj.timezone ++ line timezoneupdatesStr timezoneUpdates ++
    line timeserversyncedStr (boolText obj.timeServerSynced) ++
    line timeserversStr (listText obj.timeServers)

/-! ## What can be printed -/

theorem exists_ok_bind {First Second : Type} {first : Except Fault First}
    {next : First → Except Fault Second} (done : ∃ value, first = .ok value)
    (continues : ∀ value, ∃ result, next value = .ok result) :
    ∃ result, (do let value ← first; next value) = .ok result := by
  obtain ⟨value, rfl⟩ := done
  exact continues value

theorem exists_ok_map {First Second : Type} {first : Except Fault First}
    (convert : First → Second) (done : ∃ value, first = .ok value) :
    ∃ result, first.map convert = .ok result := by
  obtain ⟨value, rfl⟩ := done
  exact ⟨convert value, rfl⟩

theorem exists_ok_mapM {First Second : Type} {convert : First → Except Fault Second}
    {items : List First} (each : ∀ item ∈ items, ∃ result, convert item = .ok result) :
    ∃ results, items.mapM convert = .ok results := by
  induction items with
  | nil => exact ⟨[], rfl⟩
  | cons item rest ih =>
      have first := each item List.mem_cons_self
      have later := ih fun other member => each other (List.mem_cons_of_mem _ member)
      rw [List.mapM_cons]
      exact exists_ok_bind first fun _ => exists_ok_bind later fun _ => ⟨_, rfl⟩

theorem exists_ok_printOptional {Value : Type} {print : Value → Except Fault String}
    {field : Option Value} (each : ∀ value, field = some value → ∃ text, print value = .ok text) :
    ∃ text, printOptional print field = .ok text := by
  cases field with
  | none => exact ⟨"", rfl⟩
  | some value => exact each value rfl

theorem exists_ok_printStrings (label : String) (items : Option (List String)) :
    ∃ text, printStrings label items = .ok text :=
  exists_ok_printOptional fun _ _ => ⟨_, rfl⟩

/-- Every enumeration in a service, its nested records and its security list is
one its table lists. -/
structure ServProperties.Listed (props : ServProperties) : Prop where
  state : props.state ∈ servStateMap.enumerators
  error : props.error ∈ errorMap.enumerators
  type : props.type ∈ servTypeMap.enumerators
  security : ∀ items, props.security = some items →
    ∀ item ∈ items, item ∈ securityMap.enumerators
  ipv4 : ∀ ipv4, props.ipv4 = some ipv4 → ipv4.method ∈ ipv4MethodMap.enumerators
  ipv6 : ∀ ipv6, props.ipv6 = some ipv6 →
    ipv6.method ∈ ipv6MethodMap.enumerators ∧ ipv6.privacy ∈ ipv6PrivacyMap.enumerators
  ethernet : ∀ ethernet, props.ethernet = some ethernet →
    ethernet.method ∈ ethernetMethodMap.enumerators
  proxy : ∀ proxy, props.proxy = some proxy → proxy.method ∈ proxyMethodMap.enumerators

structure ClockProperties.Listed (props : ClockProperties) : Prop where
  timeUpdates : props.timeUpdates ∈ timeUpdateMap.enumerators
  timezoneUpdates : props.timezoneUpdates ∈ timeUpdateMap.enumerators

/-- The type of a technology is an enumerator, and its table lists it. -/
def TechProperties.Listed (props : TechProperties) : Prop :=
  ∃ type, props.type.enumerator TechType.ofByte = some type ∧ type ∈ techTypeMap.enumerators

/-- The tables of a service are complete. -/
theorem ServProperties.listed (props : ServProperties) : props.Listed where
  state := by cases props.state <;> decide
  error := by cases props.error <;> decide
  type := by cases props.type <;> decide
  security items _ item _ := by cases item <;> decide
  ipv4 ipv4 _ := by cases ipv4.method <;> decide
  ipv6 ipv6 _ := by
    constructor
    · cases ipv6.method <;> decide
    · cases ipv6.privacy <;> decide
  ethernet ethernet _ := by cases ethernet.method <;> decide
  proxy proxy _ := by cases proxy.method <;> decide

/-- The tables of the clock are complete. -/
theorem ClockProperties.listed (props : ClockProperties) : props.Listed where
  timeUpdates := by cases props.timeUpdates <;> decide
  timezoneUpdates := by cases props.timezoneUpdates <;> decide

theorem ServProperties.exists_print {props : ServProperties} (listed : props.Listed) :
    ∃ text, props.print = .ok text := by
  refine exists_ok_bind ((servStateMap.toString_ok_iff _).mpr listed.state) fun state => ?_
  refine exists_ok_bind ?_ fun error => ?_
  · unfold printError
    split
    · exact exists_ok_map _ ((errorMap.toString_ok_iff _).mpr listed.error)
    · exact ⟨"", rfl⟩
  refine exists_ok_bind ((servTypeMap.toString_ok_iff _).mpr listed.type) fun type => ?_
  refine exists_ok_bind ?_ fun security => ?_
  · apply exists_ok_printOptional
    intro items held
    apply exists_ok_map
    apply exists_ok_mapM
    intro item member
    exact (securityMap.toString_ok_iff item).mpr (listed.security items held item member)
  refine exists_ok_bind (exists_ok_printStrings _ _) fun nameServers => ?_
  refine exists_ok_bind (exists_ok_printStrings _ _) fun nameServersConf => ?_
  refine exists_ok_bind (exists_ok_printStrings _ _) fun domains => ?_
  refine exists_ok_bind (exists_ok_printStrings _ _) fun timeServers => ?_
  refine exists_ok_bind ?_ fun ipv4 => ?_
  · apply exists_ok_printOptional
    intro ipv4 held
    exact exists_ok_bind ((ipv4MethodMap.toString_ok_iff _).mpr (listed.ipv4 ipv4 held))
      fun _ => ⟨_, rfl⟩
  refine exists_ok_bind ?_ fun ipv6 => ?_
  · apply exists_ok_printOptional
    intro ipv6 held
    exact exists_ok_bind ((ipv6MethodMap.toString_ok_iff _).mpr (listed.ipv6 ipv6 held).1)
      fun _ => ⟨_, rfl⟩
  refine exists_ok_bind ?_ fun ethernet => ?_
  · apply exists_ok_printOptional
    intro ethernet held
    exact exists_ok_bind ((ethernetMethodMap.toString_ok_iff _).mpr (listed.ethernet ethernet held))
      fun _ => ⟨_, rfl⟩
  refine exists_ok_bind ?_ fun provider => ?_
  · exact exists_ok_printOptional fun _ _ => ⟨_, rfl⟩
  refine exists_ok_bind ?_ fun proxy => ?_
  · apply exists_ok_printOptional
    intro proxy held
    exact exists_ok_bind ((proxyMethodMap.toString_ok_iff _).mpr (listed.proxy proxy held))
      fun _ => ⟨_, rfl⟩
  exact ⟨_, rfl⟩

theorem ClockProperties.exists_print (localTime : UInt64 → Option String)
    {props : ClockProperties} (listed : props.Listed) :
    ∃ text, props.print localTime = .ok text := by
  refine exists_ok_bind ((timeUpdateMap.toString_ok_iff _).mpr listed.timeUpdates) fun _ => ?_
  refine exists_ok_bind ((timeUpdateMap.toString_ok_iff _).mpr listed.timezoneUpdates) fun _ => ?_
  exact ⟨_, rfl⟩

theorem TechProperties.exists_print {props : TechProperties} (listed : props.Listed) :
    ∃ text, props.print = .ok text := by
  obtain ⟨type, held, member⟩ := listed
  have found := (techTypeMap.toString_ok_iff type).mpr member
  refine exists_ok_bind ?_ fun _ => ⟨_, rfl⟩
  rw [TechProperties.typeText, held]
  exact found

/-! ## Reachable records -/

theorem TechType.ofByte_eq_some_iff (byte : UInt8) :
    (∃ type, TechType.ofByte byte = some type) ↔ byte.toNat < 9 := by
  unfold TechType.ofByte
  rw [← Option.isSome_iff_exists, isSome_getElem?]
  rfl

theorem TechProperties.listed_iff (props : TechProperties) :
    props.Listed ↔ ∃ type, props.type.enumerator TechType.ofByte = some type := by
  constructor
  · rintro ⟨type, held, _⟩
    exact ⟨type, held⟩
  · rintro ⟨type, held⟩
    exact ⟨type, held, by cases type <;> decide⟩

/-- The type of a technology is an enumerator once a `Type` entry has arrived,
and before that when the byte the proxy was built over is one. -/
theorem TechProperties.listed_fold_iff {byte : UInt8} (props : TechProperties)
    (fresh : props.type = .indeterminate byte) {entries : List (String × GVariant)}
    (accepted : knownEntries TechProperties entries = true) :
    (fold props entries).Listed ↔ byte.toNat < 9 ∨ ∃ value, (typeStr, value) ∈ entries := by
  rw [listed_iff]
  cases sent : lastCarried typeStr entries with
  | some value =>
      have received : (techTypeMap.decode value).map Uninitialised.assigned =
          .ok (fold props entries).type :=
        get_fold_of_carried props (show keyOf TechSlot.type = some typeStr from rfl) accepted sent
      obtain ⟨type, assigned⟩ : ∃ type, (fold props entries).type = .assigned type := by
        cases decoded : techTypeMap.decode value with
        | error fault =>
            rw [decoded] at received
            cases received
        | ok type =>
            rw [decoded] at received
            exact ⟨type, (Except.ok.inj received).symm⟩
      rw [assigned]
      exact iff_of_true ⟨type, rfl⟩ (.inr ⟨value, mem_of_lastCarried sent⟩)
  | none =>
      have kept : (fold props entries).type = props.type :=
        get_fold_of_absent props (show keyOf TechSlot.type = some typeStr from rfl) accepted sent
      have absent : ¬ ∃ value, (typeStr, value) ∈ entries := by
        rintro ⟨value, member⟩
        exact lastCarried_eq_none.mp sent _ member rfl
      rw [kept, fresh, or_iff_left absent]
      exact TechType.ofByte_eq_some_iff byte

def ServProperties.Printable (props : ServProperties) : Prop :=
  props.Listed ∧ ∃ text, props.print = .ok text

def ClockProperties.Printable (localTime : UInt64 → Option String) (props : ClockProperties) :
    Prop :=
  props.Listed ∧ ∃ text, props.print localTime = .ok text

def TechProperties.Printable (props : TechProperties) : Prop :=
  props.Listed ∧ ∃ text, props.print = .ok text

/-- Services and the clock can be printed at any time.  A technology can be
printed exactly when it has received a `Type` entry, or the byte under its type
happens to be an enumerator. -/
theorem reachable_printable_iff (localTime : UInt64 → Option String) :
    (∀ objPath messages, (applyAll (Service.new objPath) messages).raised = none →
      (applyAll (Service.new objPath) messages).state.props.Printable) ∧
    (∀ messages, (applyAll Clock.new messages).raised = none →
      (applyAll Clock.new messages).state.props.Printable localTime) ∧
    (∀ byte objPath messages, (applyAll (Technology.new byte objPath) messages).raised = none →
      ((applyAll (Technology.new byte objPath) messages).state.props.Printable ↔
        byte.toNat < 9 ∨ ∃ value, ("Type", value) ∈ carriedEntries messages)) := by
  refine ⟨fun _ _ _ => ?_, fun _ _ => ?_, fun byte objPath messages normal => ?_⟩
  · exact ⟨ServProperties.listed _, ServProperties.exists_print (ServProperties.listed _)⟩
  · exact ⟨ClockProperties.listed _,
      ClockProperties.exists_print localTime (ClockProperties.listed _)⟩
  · have fresh : (Technology.new byte objPath).props.type = .indeterminate byte := rfl
    have accepted := (applyAll_raised _ messages).mp normal
    rw [applyAll_of_known _ accepted]
    constructor
    · intro printable
      exact (TechProperties.listed_fold_iff _ fresh accepted).mp printable.1
    · intro typed
      have listed := (TechProperties.listed_fold_iff _ fresh accepted).mpr typed
      exact ⟨listed, TechProperties.exists_print listed⟩

/-- A technology announced with its type can be printed. -/
theorem printable_announced_wifi :
    (applyAll (Technology.new 9 "/technology")
      [.dictionary [("Type", .string "wifi")]]).state.props.Printable :=
  ((reachable_printable_iff fun _ => none).2.2 9 "/technology"
    [.dictionary [("Type", .string "wifi")]] ((applyAll_raised _ _).mpr (by decide))).mpr
    (.inr ⟨.string "wifi", List.mem_cons_self⟩)

/-- A technology proxy that has received nothing cannot be printed when the byte
under its type is no enumerator. -/
theorem not_printable_fresh_technology :
    ¬ (applyAll (Technology.new 9 "/technology") []).state.props.Printable := by
  rintro ⟨_, text, printed⟩
  cases printed

end GConnman.Connman
