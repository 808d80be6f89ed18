import GConnman.Connman.ServiceProperties
import GConnman.DBus.PropertySlots

/-!
# The slots of the service record

The service record has one slot for each field, and no key leads to `roaming`.
-/

namespace GConnman.Connman

open GConnman.GLib GConnman.DBus

inductive ServSlot where
  | state | error | name | type | security | nameServers | nameServersConf | domains | timeServers
  | autoconnect | mdns | favorite | immutable | roaming | strength
  | ipv4 | ipv6 | ethernet | provider | proxy
  deriving DecidableEq, Repr

namespace ServSlot

/-- What a slot holds. -/
def Value : ServSlot → Type
  | state => ServState
  | error => ServError
  | name => String
  | type => ServType
  | security => Option (List Security)
  | nameServers => Option (List String)
  | nameServersConf => Option (List String)
  | domains => Option (List String)
  | timeServers => Option (List String)
  | autoconnect => Bool
  | mdns => Bool
  | favorite => Bool
  | immutable => Bool
  | roaming => Bool
  | strength => UInt8
  | ipv4 => Option IPv4
  | ipv6 => Option IPv6
  | ethernet => Option Ethernet
  | provider => Option Provider
  | proxy => Option Proxy

/-- The slot a key names. -/
def ofKey (key : String) : Option ServSlot :=
  if key = nameStr then some name
  else if key = typeStr then some type
  else if key = stateStr then some state
  else if key = errorStr then some error
  else if key = favoriteStr then some favorite
  else if key = immutableStr then some immutable
  else if key = autoconnectStr then some autoconnect
  else if key = mdnsStr then some mdns
  else if key = strengthStr then some strength
  else if key = ipv4Str then some ipv4
  else if key = ipv6Str then some ipv6
  else if key = ethernetStr then some ethernet
  else if key = providerStr then some provider
  else if key = proxyStr then some proxy
  else if key = securityStr then some security
  else if key = nameserversStr then some nameServers
  else if key = nameserversConfigurationStr then some nameServersConf
  else if key = domainsStr then some domains
  else if key = timeserversStr then some timeServers
  else none

/-- The key that names a slot. -/
def key : ServSlot → Option String
  | state => some stateStr
  | error => some errorStr
  | name => some nameStr
  | type => some typeStr
  | security => some securityStr
  | nameServers => some nameserversStr
  | nameServersConf => some nameserversConfigurationStr
  | domains => some domainsStr
  | timeServers => some timeserversStr
  | autoconnect => some autoconnectStr
  | mdns => some mdnsStr
  | favorite => some favoriteStr
  | immutable => some immutableStr
  | roaming => none
  | strength => some strengthStr
  | ipv4 => some ipv4Str
  | ipv6 => some ipv6Str
  | ethernet => some ethernetStr
  | provider => some providerStr
  | proxy => some proxyStr

/-- How a slot reads its values. -/
def decode : (slot : ServSlot) → GVariant → Except Fault slot.Value
  | state, value => servStateMap.decode value
  | error, value => errorMap.decode value
  | name, value => stringOf value
  | type, value => servTypeMap.decode value
  | security, value => optionalOf value (asToVectorEnum securityMap value)
  | nameServers, value => optionalOf value (asToVector value)
  | nameServersConf, value => optionalOf value (asToVector value)
  | domains, value => optionalOf value (asToVector value)
  | timeServers, value => optionalOf value (asToVector value)
  | autoconnect, value => .ok value.getBoolean
  | mdns, value => .ok value.getBoolean
  | favorite, value => .ok value.getBoolean
  | immutable, value => .ok value.getBoolean
  | roaming, value => .ok value.getBoolean
  | strength, value => .ok value.getByte
  | ipv4, value => optionalOf value (parse ({} : IPv4) value)
  | ipv6, value => optionalOf value (parse ({} : IPv6) value)
  | ethernet, value => optionalOf value (parse ({} : Ethernet) value)
  | provider, value => optionalOf value (parse ({} : Provider) value)
  | proxy, value => optionalOf value (parse ({} : Proxy) value)

def get (props : ServProperties) : (slot : ServSlot) → slot.Value
  | state => props.state
  | error => props.error
  | name => props.name
  | type => props.type
  | security => props.security
  | nameServers => props.nameServers
  | nameServersConf => props.nameServersConf
  | domains => props.domains
  | timeServers => props.timeServers
  | autoconnect => props.autoconnect
  | mdns => props.mdns
  | favorite => props.favorite
  | immutable => props.immutable
  | roaming => props.roaming
  | strength => props.strength
  | ipv4 => props.ipv4
  | ipv6 => props.ipv6
  | ethernet => props.ethernet
  | provider => props.provider
  | proxy => props.proxy

def set (props : ServProperties) : (slot : ServSlot) → slot.Value → ServProperties
  | state, v => { props with state := v }
  | error, v => { props with error := v }
  | name, v => { props with name := v }
  | type, v => { props with type := v }
  | security, v => { props with security := v }
  | nameServers, v => { props with nameServers := v }
  | nameServersConf, v => { props with nameServersConf := v }
  | domains, v => { props with domains := v }
  | timeServers, v => { props with timeServers := v }
  | autoconnect, v => { props with autoconnect := v }
  | mdns, v => { props with mdns := v }
  | favorite, v => { props with favorite := v }
  | immutable, v => { props with immutable := v }
  | roaming, v => { props with roaming := v }
  | strength, v => { props with strength := v }
  | ipv4, v => { props with ipv4 := v }
  | ipv6, v => { props with ipv6 := v }
  | ethernet, v => { props with ethernet := v }
  | provider, v => { props with provider := v }
  | proxy, v => { props with proxy := v }

theorem get_set_of_ne (props : ServProperties) (slot other : ServSlot) (value : slot.Value)
    (different : slot ≠ other) : get (set props slot value) other = get props other := by
  cases slot <;> cases other <;> first | rfl | exact absurd rfl different

theorem ext_slots (first second : ServProperties)
    (same : ∀ slot, get first slot = get second slot) : first = second := by
  cases first
  cases second
  simp only [ServProperties.mk.injEq]
  exact ⟨same state, same error, same name, same type, same security, same nameServers,
    same nameServersConf, same domains, same timeServers, same autoconnect, same mdns,
    same favorite, same immutable, same roaming, same strength, same ipv4, same ipv6,
    same ethernet, same provider, same proxy⟩

theorem update_eq_storeIn (props : ServProperties) (key : String) (value : GVariant) :
    PropertyRecord.update props key value = storeIn decode set props value (ofKey key) := by
  unfold ofKey
  simp only [apply_ite (storeIn decode set props value)]
  rfl

end ServSlot

instance : SlottedProperties ServProperties where
  Slot := ServSlot
  Value := ServSlot.Value
  slotOf := ServSlot.ofKey
  decode := ServSlot.decode
  get := ServSlot.get
  set := ServSlot.set
  get_set_self _ slot _ := by cases slot <;> rfl
  get_set_of_ne := ServSlot.get_set_of_ne
  ext_slots := ServSlot.ext_slots
  update_eq props key value := by
    rw [ServSlot.update_eq_storeIn props key value]
    cases ServSlot.ofKey key <;> rfl

instance : DecidableEq (SlottedProperties.Slot ServProperties) :=
  inferInstanceAs (DecidableEq ServSlot)

instance : NamedSlots ServProperties where
  keyOf := ServSlot.key
  slotOf_eq_some_iff key slot := by
    constructor
    · revert slot
      change ∀ slot, ServSlot.ofKey key = some slot → _
      unfold ServSlot.ofKey
      repeat refine forall_some_ite (by rintro rfl; rfl) ?_
      nofun
    · intro named
      cases slot <;> cases named <;> decide

end GConnman.Connman
