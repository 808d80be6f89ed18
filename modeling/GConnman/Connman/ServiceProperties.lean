import GConnman.Connman.Names
import GConnman.DBus.PropertyRecord

/-!
# Service properties

The properties of a service and of the records nested in it, with the tables of
their enumerations.  A nested record is always built afresh from the dictionary
it arrives in; an empty dictionary or array stands for an absent value.
-/

namespace GConnman.Connman

open GConnman.GLib GConnman.DBus

/-! ## Enumerations and their tables -/

inductive ServType where
  | ethernet | wifi | cellular | bluetooth | vpn | wired | p2p | gps | gadget
  deriving DecidableEq, Repr

inductive ServState where
  | idle | failure | ready | online | disconnect | association | configuration
  deriving DecidableEq, Repr

inductive Security where
  | none | wep | psk | ieee8021x | wps | wpsAdvertising
  deriving DecidableEq, Repr

inductive ServError where
  | none | outOfRange | pinMissing | dhcpFailed | connectFailed | loginFailed | authFailed
  | invalidKey | blocked | onlineCheckFailed
  deriving DecidableEq, Repr

inductive IPv4Method where
  | off | dhcp | manual | auto
  deriving DecidableEq, Repr

inductive IPv6Method where
  | off | k6to4 | manual | fixed | auto
  deriving DecidableEq, Repr

inductive IPv6Privacy where
  | disabled | enabled | preferred
  deriving DecidableEq, Repr

inductive EthernetMethod where
  | manual | auto
  deriving DecidableEq, Repr

inductive ProxyMethod where
  | direct | auto | manual
  deriving DecidableEq, Repr

def servTypeMap : EnumStringMap ServType :=
  ⟨[(.ethernet, "ethernet"), (.wifi, "wifi"), (.cellular, "cellular"), (.bluetooth, "bluetooth"),
    (.vpn, "vpn"), (.wired, "wired"), (.p2p, "p2p"), (.gps, "gps"), (.gadget, "gadget")]⟩

def servStateMap : EnumStringMap ServState :=
  ⟨[(.association, "association"), (.configuration, "configuration"),
    (.disconnect, "disconnect"), (.failure, "failure"), (.idle, "idle"), (.online, "online"),
    (.ready, "ready")]⟩

def securityMap : EnumStringMap Security :=
  ⟨[(.none, "none"), (.wep, "wep"), (.psk, "psk"), (.ieee8021x, "ieee8021x"), (.wps, "wps"),
    (.wpsAdvertising, "wps_advertising")]⟩

def errorMap : EnumStringMap ServError :=
  ⟨[(.none, ""), (.outOfRange, "out-of-range"), (.pinMissing, "pin-missing"),
    (.dhcpFailed, "dhcp-failed"), (.connectFailed, "connect-failed"),
    (.loginFailed, "login-failed"), (.authFailed, "auth-failed"), (.invalidKey, "invalid-key"),
    (.blocked, "blocked"), (.onlineCheckFailed, "online-check-failed")]⟩

def ipv4MethodMap : EnumStringMap IPv4Method :=
  ⟨[(.off, "off"), (.dhcp, "dhcp"), (.manual, "manual"), (.auto, "auto")]⟩

def proxyMethodMap : EnumStringMap ProxyMethod :=
  ⟨[(.direct, "direct"), (.manual, "manual"), (.auto, "auto")]⟩

def ethernetMethodMap : EnumStringMap EthernetMethod :=
  ⟨[(.manual, "manual"), (.auto, "auto")]⟩

def ipv6MethodMap : EnumStringMap IPv6Method :=
  ⟨[(.off, "off"), (.k6to4, "6to4"), (.manual, "manual"), (.fixed, "fixed"), (.auto, "auto")]⟩

def ipv6PrivacyMap : EnumStringMap IPv6Privacy :=
  ⟨[(.disabled, "disabled"), (.enabled, "enabled"), (.preferred, "preferred"),
    (.preferred, "prefered")]⟩

/-! ## Nested records -/

structure IPv4 where
  method : IPv4Method := .off
  address : String := ""
  netmask : String := ""
  gateway : String := ""
  deriving DecidableEq, Repr

def IPv4.update (ipv4 : IPv4) (key : String) (value : GVariant) : Except Fault IPv4 :=
  if key = methodStr then (ipv4MethodMap.decode value).map fun v => { ipv4 with method := v }
  else if key = addressStr then (stringOf value).map fun v => { ipv4 with address := v }
  else if key = netmaskStr then (stringOf value).map fun v => { ipv4 with netmask := v }
  else if key = gatewayStr then (stringOf value).map fun v => { ipv4 with gateway := v }
  else .ok ipv4

structure IPv6 where
  method : IPv6Method := .off
  address : String := ""
  gateway : String := ""
  privacy : IPv6Privacy := .disabled
  prefixLength : UInt8 := 0
  deriving DecidableEq, Repr

def IPv6.update (ipv6 : IPv6) (key : String) (value : GVariant) : Except Fault IPv6 :=
  if key = methodStr then (ipv6MethodMap.decode value).map fun v => { ipv6 with method := v }
  else if key = addressStr then (stringOf value).map fun v => { ipv6 with address := v }
  else if key = gatewayStr then (stringOf value).map fun v => { ipv6 with gateway := v }
  else if key = privacyStr then
    (ipv6PrivacyMap.decode value).map fun v => { ipv6 with privacy := v }
  else if key = prefixlengthStr then .ok { ipv6 with prefixLength := value.getByte }
  else .ok ipv6

structure Ethernet where
  method : EthernetMethod := .manual
  interface : String := ""
  address : String := ""
  mtu : UInt16 := 0
  deriving DecidableEq, Repr

def Ethernet.update (ethernet : Ethernet) (key : String) (value : GVariant) :
    Except Fault Ethernet :=
  if key = methodStr then
    (ethernetMethodMap.decode value).map fun v => { ethernet with method := v }
  else if key = interfaceStr then (stringOf value).map fun v => { ethernet with interface := v }
  else if key = addressStr then (stringOf value).map fun v => { ethernet with address := v }
  else if key = mtuStr then .ok { ethernet with mtu := value.getUint16 }
  else .ok ethernet

structure Provider where
  host : String := ""
  domain : String := ""
  name : String := ""
  type : String := ""
  deriving DecidableEq, Repr

def Provider.update (provider : Provider) (key : String) (value : GVariant) :
    Except Fault Provider :=
  if key = hostStr then (stringOf value).map fun v => { provider with host := v }
  else if key = domainStr then (stringOf value).map fun v => { provider with domain := v }
  else if key = nameStr then (stringOf value).map fun v => { provider with name := v }
  else if key = typeStr then (stringOf value).map fun v => { provider with type := v }
  else .ok provider

structure Proxy where
  method : ProxyMethod := .direct
  url : String := ""
  servers : List String := []
  excludes : List String := []
  deriving DecidableEq, Repr

def Proxy.update (proxy : Proxy) (key : String) (value : GVariant) : Except Fault Proxy :=
  if key = methodStr then (proxyMethodMap.decode value).map fun v => { proxy with method := v }
  else if key = urlStr then (stringOf value).map fun v => { proxy with url := v }
  else if key = serversStr then (asToVector value).map fun v => { proxy with servers := v }
  else if key = excludesStr then (asToVector value).map fun v => { proxy with excludes := v }
  else .ok proxy

instance : PropertyRecord IPv4 := ⟨IPv4.update⟩
instance : PropertyRecord IPv6 := ⟨IPv6.update⟩
instance : PropertyRecord Ethernet := ⟨Ethernet.update⟩
instance : PropertyRecord Provider := ⟨Provider.update⟩
instance : PropertyRecord Proxy := ⟨Proxy.update⟩

/-! ## The service record -/

structure ServProperties where
  state : ServState := .idle
  error : ServError := .none
  name : String := ""
  type : ServType := .ethernet
  security : Option (List Security) := none
  nameServers : Option (List String) := none
  nameServersConf : Option (List String) := none
  domains : Option (List String) := none
  timeServers : Option (List String) := none
  autoconnect : Bool := false
  mdns : Bool := false
  favorite : Bool := false
  immutable : Bool := false
  roaming : Bool := false
  strength : UInt8 := 0
  ipv4 : Option IPv4 := none
  ipv6 : Option IPv6 := none
  ethernet : Option Ethernet := none
  provider : Option Provider := none
  proxy : Option Proxy := none
  deriving DecidableEq, Repr

/-- A value that stands for "absent" when it has no children. -/
def optionalOf {Value : Type} (value : GVariant) (decoded : Except Fault Value) :
    Except Fault (Option Value) :=
  if value.nChildren ≠ 0 then decoded.map some else .ok none

def ServProperties.update (props : ServProperties) (key : String) (value : GVariant) :
    Except Fault ServProperties :=
  if key = nameStr then (stringOf value).map fun v => { props with name := v }
  else if key = typeStr then (servTypeMap.decode value).map fun v => { props with type := v }
  else if key = stateStr then (servStateMap.decode value).map fun v => { props with state := v }
  else if key = errorStr then (errorMap.decode value).map fun v => { props with error := v }
  else if key = favoriteStr then .ok { props with favorite := value.getBoolean }
  else if key = immutableStr then .ok { props with immutable := value.getBoolean }
  else if key = autoconnectStr then .ok { props with autoconnect := value.getBoolean }
  else if key = mdnsStr then .ok { props with mdns := value.getBoolean }
  else if key = strengthStr then .ok { props with strength := value.getByte }
  else if key = ipv4Str then
    (optionalOf value (parse ({} : IPv4) value)).map fun v => { props with ipv4 := v }
  else if key = ipv6Str then
    (optionalOf value (parse ({} : IPv6) value)).map fun v => { props with ipv6 := v }
  else if key = ethernetStr then
    (optionalOf value (parse ({} : Ethernet) value)).map fun v => { props with ethernet := v }
  else if key = providerStr then
    (optionalOf value (parse ({} : Provider) value)).map fun v => { props with provider := v }
  else if key = proxyStr then
    (optionalOf value (parse ({} : Proxy) value)).map fun v => { props with proxy := v }
  else if key = securityStr then
    (optionalOf value (asToVectorEnum securityMap value)).map fun v => { props with security := v }
  else if key = nameserversStr then
    (optionalOf value (asToVector value)).map fun v => { props with nameServers := v }
  else if key = nameserversConfigurationStr then
    (optionalOf value (asToVector value)).map fun v => { props with nameServersConf := v }
  else if key = domainsStr then
    (optionalOf value (asToVector value)).map fun v => { props with domains := v }
  else if key = timeserversStr then
    (optionalOf value (asToVector value)).map fun v => { props with timeServers := v }
  else .ok props

instance : PropertyRecord ServProperties := ⟨ServProperties.update⟩

/-! ## The entries the records accept -/

/-- A string. -/
def knownString (value : GVariant) : Bool := value.getString.isSome

/-- A string the table lists. -/
def knownEnum {Enum : Type} (map : EnumStringMap Enum) (value : GVariant) : Bool :=
  value.getString.any fun text => decide (text ∈ map.strings)

/-- An array of strings that all pass a test; values of other types read as empty. -/
def knownStrings (accepts : String → Bool) (value : GVariant) : Bool :=
  !value.isStrings || value.children.all fun item => item.getString.any accepts

def IPv4.known (key : String) (value : GVariant) : Bool :=
  if key = methodStr then knownEnum ipv4MethodMap value
  else if key = addressStr then knownString value
  else if key = netmaskStr then knownString value
  else if key = gatewayStr then knownString value
  else true

def IPv6.known (key : String) (value : GVariant) : Bool :=
  if key = methodStr then knownEnum ipv6MethodMap value
  else if key = addressStr then knownString value
  else if key = gatewayStr then knownString value
  else if key = privacyStr then knownEnum ipv6PrivacyMap value
  else if key = prefixlengthStr then true
  else true

def Ethernet.known (key : String) (value : GVariant) : Bool :=
  if key = methodStr then knownEnum ethernetMethodMap value
  else if key = interfaceStr then knownString value
  else if key = addressStr then knownString value
  else if key = mtuStr then true
  else true

def Provider.known (key : String) (value : GVariant) : Bool :=
  if key = hostStr then knownString value
  else if key = domainStr then knownString value
  else if key = nameStr then knownString value
  else if key = typeStr then knownString value
  else true

def Proxy.known (key : String) (value : GVariant) : Bool :=
  if key = methodStr then knownEnum proxyMethodMap value
  else if key = urlStr then knownString value
  else if key = serversStr then knownStrings (fun _ => true) value
  else if key = excludesStr then knownStrings (fun _ => true) value
  else true

theorem stringOf_isOk (value : GVariant) : (stringOf value).isOk = knownString value := by
  unfold stringOf knownString
  cases value.getString <;> rfl

theorem decode_isOk {Enum : Type} (map : EnumStringMap Enum) (value : GVariant) :
    (map.decode value).isOk = knownEnum map value := by
  unfold EnumStringMap.decode stringOf knownEnum
  cases value.getString with
  | none => rfl
  | some text =>
      have listed := map.fromString_ok_iff text
      change (map.fromString text).isOk = decide (text ∈ map.strings)
      cases decoded : map.fromString text with
      | ok enumValue =>
          rw [isOk_ok, decide_eq_true (listed.mp ⟨enumValue, decoded⟩)]
      | error fault =>
          have absent : text ∉ map.strings := by
            intro member
            obtain ⟨enumValue, found⟩ := listed.mpr member
            rw [decoded] at found
            cases found
          rw [isOk_error, decide_eq_false absent]

theorem convertAll_isOk {Element : Type} (convert : String → Except Fault Element)
    (items : List GVariant) :
    (convertAll convert items).isOk =
      items.all fun item => item.getString.any fun text => (convert text).isOk := by
  induction items with
  | nil => rfl
  | cons item rest ih =>
      rw [convertAll, List.all_cons, ← ih, stringOf]
      cases item.getString with
      | none => rfl
      | some text =>
          change ((convert text).bind fun element =>
            (convertAll convert rest).map (element :: ·)).isOk =
              ((convert text).isOk && (convertAll convert rest).isOk)
          cases convert text with
          | error fault => rfl
          | ok element => exact isOk_map _ _

theorem asToVectorWith_isOk {Element : Type} (convert : String → Except Fault Element)
    (value : GVariant) :
    (asToVectorWith convert value).isOk = knownStrings (fun text => (convert text).isOk) value := by
  unfold asToVectorWith knownStrings
  cases value.isStrings with
  | false => rfl
  | true => exact convertAll_isOk convert value.children

theorem asToVector_isOk (value : GVariant) :
    (asToVector value).isOk = knownStrings (fun _ => true) value :=
  asToVectorWith_isOk .ok value

theorem asToVectorEnum_isOk {Enum : Type} (map : EnumStringMap Enum) (value : GVariant) :
    (asToVectorEnum map value).isOk =
      knownStrings (fun text => decide (text ∈ map.strings)) value := by
  have table : (fun text => (map.fromString text).isOk) =
      fun text => decide (text ∈ map.strings) := by
    funext text
    exact decode_isOk map (.string text)
  rw [asToVectorEnum, asToVectorWith_isOk, table]

/-- The absent case never raises, and neither do the decoders on an empty value. -/
theorem optionalOf_isOk {Value : Type} (value : GVariant) (decoded : Except Fault Value)
    (empty : value.children = [] → decoded.isOk = true) :
    (optionalOf value decoded).isOk = decoded.isOk := by
  unfold optionalOf GVariant.nChildren
  split
  · exact isOk_map _ _
  · rename_i absent
    rw [empty (List.length_eq_zero_iff.mp (not_not.mp absent))]
    rfl

instance : KnownProperties IPv4 where
  known := IPv4.known
  update_isOk ipv4 key value := by
    change (IPv4.update ipv4 key value).isOk = _
    simp only [IPv4.update, IPv4.known, isOk_ite, isOk_map, isOk_ok, decode_isOk, stringOf_isOk]

instance : KnownProperties IPv6 where
  known := IPv6.known
  update_isOk ipv6 key value := by
    change (IPv6.update ipv6 key value).isOk = _
    simp only [IPv6.update, IPv6.known, isOk_ite, isOk_map, isOk_ok, decode_isOk, stringOf_isOk]

instance : KnownProperties Ethernet where
  known := Ethernet.known
  update_isOk ethernet key value := by
    change (Ethernet.update ethernet key value).isOk = _
    simp only [Ethernet.update, Ethernet.known, isOk_ite, isOk_map, isOk_ok, decode_isOk,
      stringOf_isOk]

instance : KnownProperties Provider where
  known := Provider.known
  update_isOk provider key value := by
    change (Provider.update provider key value).isOk = _
    simp only [Provider.update, Provider.known, isOk_ite, isOk_map, isOk_ok, stringOf_isOk]

instance : KnownProperties Proxy where
  known := Proxy.known
  update_isOk proxy key value := by
    change (Proxy.update proxy key value).isOk = _
    simp only [Proxy.update, Proxy.known, isOk_ite, isOk_map, isOk_ok, decode_isOk,
      stringOf_isOk, asToVector_isOk]

theorem optional_parse_isOk {Record : Type} [PropertyRecord Record] [KnownProperties Record]
    (initial : Record) (value : GVariant) :
    (optionalOf value (parse initial value)).isOk = knownDictionary Record value := by
  rw [← parse_isOk initial value]
  apply optionalOf_isOk
  intro empty
  rw [parse_isOk, knownDictionary, empty]
  rfl

theorem optional_asToVector_isOk (value : GVariant) :
    (optionalOf value (asToVector value)).isOk = knownStrings (fun _ => true) value := by
  rw [← asToVector_isOk value]
  apply optionalOf_isOk
  intro empty
  rw [asToVector_isOk, knownStrings, empty, List.all_nil, Bool.or_true]

theorem optional_asToVectorEnum_isOk {Enum : Type} (map : EnumStringMap Enum) (value : GVariant) :
    (optionalOf value (asToVectorEnum map value)).isOk =
      knownStrings (fun text => decide (text ∈ map.strings)) value := by
  rw [← asToVectorEnum_isOk map value]
  apply optionalOf_isOk
  intro empty
  rw [asToVectorEnum_isOk, knownStrings, empty, List.all_nil, Bool.or_true]

def ServProperties.known (key : String) (value : GVariant) : Bool :=
  if key = nameStr then knownString value
  else if key = typeStr then knownEnum servTypeMap value
  else if key = stateStr then knownEnum servStateMap value
  else if key = errorStr then knownEnum errorMap value
  else if key = favoriteStr then true
  else if key = immutableStr then true
  else if key = autoconnectStr then true
  else if key = mdnsStr then true
  else if key = strengthStr then true
  else if key = ipv4Str then knownDictionary IPv4 value
  else if key = ipv6Str then knownDictionary IPv6 value
  else if key = ethernetStr then knownDictionary Ethernet value
  else if key = providerStr then knownDictionary Provider value
  else if key = proxyStr then knownDictionary Proxy value
  else if key = securityStr then
    knownStrings (fun text => decide (text ∈ securityMap.strings)) value
  else if key = nameserversStr then knownStrings (fun _ => true) value
  else if key = nameserversConfigurationStr then knownStrings (fun _ => true) value
  else if key = domainsStr then knownStrings (fun _ => true) value
  else if key = timeserversStr then knownStrings (fun _ => true) value
  else true

instance : KnownProperties ServProperties where
  known := ServProperties.known
  update_isOk props key value := by
    change (ServProperties.update props key value).isOk = _
    simp only [ServProperties.update, ServProperties.known, isOk_ite, isOk_map, isOk_ok,
      decode_isOk, stringOf_isOk, optional_parse_isOk, optional_asToVector_isOk,
      optional_asToVectorEnum_isOk]

end GConnman.Connman
