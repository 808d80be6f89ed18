import GConnman.Connman.ServiceProperties
import GConnman.DBus.LastWriter

/-!
# The slots of the nested records

Each of the five records nested in a service has one slot for each field, and
each field has a name of its own.
-/

namespace GConnman.Connman

open GConnman.GLib GConnman.DBus

/-! ## IPv4 -/

inductive IPv4Slot where
  | method | address | netmask | gateway
  deriving DecidableEq, Repr

namespace IPv4Slot

def Value : IPv4Slot → Type
  | method => IPv4Method
  | address => String
  | netmask => String
  | gateway => String

def key : IPv4Slot → String
  | method => methodStr
  | address => addressStr
  | netmask => netmaskStr
  | gateway => gatewayStr

def ofKey (key : String) : Option IPv4Slot :=
  if key = methodStr then some method
  else if key = addressStr then some address
  else if key = netmaskStr then some netmask
  else if key = gatewayStr then some gateway
  else none

def decode : (slot : IPv4Slot) → GVariant → Except Fault slot.Value
  | method, value => ipv4MethodMap.decode value
  | address, value => stringOf value
  | netmask, value => stringOf value
  | gateway, value => stringOf value

def get (ipv4 : IPv4) : (slot : IPv4Slot) → slot.Value
  | method => ipv4.method
  | address => ipv4.address
  | netmask => ipv4.netmask
  | gateway => ipv4.gateway

def set (ipv4 : IPv4) : (slot : IPv4Slot) → slot.Value → IPv4
  | method, v => { ipv4 with method := v }
  | address, v => { ipv4 with address := v }
  | netmask, v => { ipv4 with netmask := v }
  | gateway, v => { ipv4 with gateway := v }

theorem update_eq_storeIn (ipv4 : IPv4) (key : String) (value : GVariant) :
    PropertyRecord.update ipv4 key value = storeIn decode set ipv4 value (ofKey key) := by
  unfold ofKey
  simp only [apply_ite (storeIn decode set ipv4 value)]
  rfl

end IPv4Slot

instance : SlottedProperties IPv4 where
  Slot := IPv4Slot
  Value := IPv4Slot.Value
  slotOf := IPv4Slot.ofKey
  decode := IPv4Slot.decode
  get := IPv4Slot.get
  set := IPv4Slot.set
  get_set_self _ slot _ := by cases slot <;> rfl
  get_set_of_ne _ slot other _ different := by
    cases slot <;> cases other <;> first | rfl | exact absurd rfl different
  ext_slots first second same := by
    cases first
    cases second
    simp only [IPv4.mk.injEq]
    exact ⟨same IPv4Slot.method, same IPv4Slot.address, same IPv4Slot.netmask, same
      IPv4Slot.gateway⟩
  update_eq ipv4 key value := by
    rw [IPv4Slot.update_eq_storeIn ipv4 key value]
    cases IPv4Slot.ofKey key <;> rfl

instance : DecidableEq (SlottedProperties.Slot IPv4) :=
  inferInstanceAs (DecidableEq IPv4Slot)

instance : NamedSlots IPv4 where
  keyOf slot := some (IPv4Slot.key slot)
  slotOf_eq_some_iff key slot := by
    constructor
    · revert slot
      change ∀ slot, IPv4Slot.ofKey key = some slot → _
      unfold IPv4Slot.ofKey
      repeat refine forall_some_ite (by rintro rfl; rfl) ?_
      nofun
    · intro named
      cases named
      cases slot <;> decide

/-! ## IPv6 -/

inductive IPv6Slot where
  | method | address | gateway | privacy | prefixLength
  deriving DecidableEq, Repr

namespace IPv6Slot

def Value : IPv6Slot → Type
  | method => IPv6Method
  | address => String
  | gateway => String
  | privacy => IPv6Privacy
  | prefixLength => UInt8

def key : IPv6Slot → String
  | method => methodStr
  | address => addressStr
  | gateway => gatewayStr
  | privacy => privacyStr
  | prefixLength => prefixlengthStr

def ofKey (key : String) : Option IPv6Slot :=
  if key = methodStr then some method
  else if key = addressStr then some address
  else if key = gatewayStr then some gateway
  else if key = privacyStr then some privacy
  else if key = prefixlengthStr then some prefixLength
  else none

def decode : (slot : IPv6Slot) → GVariant → Except Fault slot.Value
  | method, value => ipv6MethodMap.decode value
  | address, value => stringOf value
  | gateway, value => stringOf value
  | privacy, value => ipv6PrivacyMap.decode value
  | prefixLength, value => .ok value.getByte

def get (ipv6 : IPv6) : (slot : IPv6Slot) → slot.Value
  | method => ipv6.method
  | address => ipv6.address
  | gateway => ipv6.gateway
  | privacy => ipv6.privacy
  | prefixLength => ipv6.prefixLength

def set (ipv6 : IPv6) : (slot : IPv6Slot) → slot.Value → IPv6
  | method, v => { ipv6 with method := v }
  | address, v => { ipv6 with address := v }
  | gateway, v => { ipv6 with gateway := v }
  | privacy, v => { ipv6 with privacy := v }
  | prefixLength, v => { ipv6 with prefixLength := v }

theorem update_eq_storeIn (ipv6 : IPv6) (key : String) (value : GVariant) :
    PropertyRecord.update ipv6 key value = storeIn decode set ipv6 value (ofKey key) := by
  unfold ofKey
  simp only [apply_ite (storeIn decode set ipv6 value)]
  rfl

end IPv6Slot

instance : SlottedProperties IPv6 where
  Slot := IPv6Slot
  Value := IPv6Slot.Value
  slotOf := IPv6Slot.ofKey
  decode := IPv6Slot.decode
  get := IPv6Slot.get
  set := IPv6Slot.set
  get_set_self _ slot _ := by cases slot <;> rfl
  get_set_of_ne _ slot other _ different := by
    cases slot <;> cases other <;> first | rfl | exact absurd rfl different
  ext_slots first second same := by
    cases first
    cases second
    simp only [IPv6.mk.injEq]
    exact ⟨same IPv6Slot.method, same IPv6Slot.address, same IPv6Slot.gateway, same
      IPv6Slot.privacy, same IPv6Slot.prefixLength⟩
  update_eq ipv6 key value := by
    rw [IPv6Slot.update_eq_storeIn ipv6 key value]
    cases IPv6Slot.ofKey key <;> rfl

instance : DecidableEq (SlottedProperties.Slot IPv6) :=
  inferInstanceAs (DecidableEq IPv6Slot)

instance : NamedSlots IPv6 where
  keyOf slot := some (IPv6Slot.key slot)
  slotOf_eq_some_iff key slot := by
    constructor
    · revert slot
      change ∀ slot, IPv6Slot.ofKey key = some slot → _
      unfold IPv6Slot.ofKey
      repeat refine forall_some_ite (by rintro rfl; rfl) ?_
      nofun
    · intro named
      cases named
      cases slot <;> decide

/-! ## Ethernet -/

inductive EthernetSlot where
  | method | interface | address | mtu
  deriving DecidableEq, Repr

namespace EthernetSlot

def Value : EthernetSlot → Type
  | method => EthernetMethod
  | interface => String
  | address => String
  | mtu => UInt16

def key : EthernetSlot → String
  | method => methodStr
  | interface => interfaceStr
  | address => addressStr
  | mtu => mtuStr

def ofKey (key : String) : Option EthernetSlot :=
  if key = methodStr then some method
  else if key = interfaceStr then some interface
  else if key = addressStr then some address
  else if key = mtuStr then some mtu
  else none

def decode : (slot : EthernetSlot) → GVariant → Except Fault slot.Value
  | method, value => ethernetMethodMap.decode value
  | interface, value => stringOf value
  | address, value => stringOf value
  | mtu, value => .ok value.getUint16

def get (ethernet : Ethernet) : (slot : EthernetSlot) → slot.Value
  | method => ethernet.method
  | interface => ethernet.interface
  | address => ethernet.address
  | mtu => ethernet.mtu

def set (ethernet : Ethernet) : (slot : EthernetSlot) → slot.Value → Ethernet
  | method, v => { ethernet with method := v }
  | interface, v => { ethernet with interface := v }
  | address, v => { ethernet with address := v }
  | mtu, v => { ethernet with mtu := v }

theorem update_eq_storeIn (ethernet : Ethernet) (key : String) (value : GVariant) :
    PropertyRecord.update ethernet key value = storeIn decode set ethernet value (ofKey key) := by
  unfold ofKey
  simp only [apply_ite (storeIn decode set ethernet value)]
  rfl

end EthernetSlot

instance : SlottedProperties Ethernet where
  Slot := EthernetSlot
  Value := EthernetSlot.Value
  slotOf := EthernetSlot.ofKey
  decode := EthernetSlot.decode
  get := EthernetSlot.get
  set := EthernetSlot.set
  get_set_self _ slot _ := by cases slot <;> rfl
  get_set_of_ne _ slot other _ different := by
    cases slot <;> cases other <;> first | rfl | exact absurd rfl different
  ext_slots first second same := by
    cases first
    cases second
    simp only [Ethernet.mk.injEq]
    exact ⟨same EthernetSlot.method, same EthernetSlot.interface, same EthernetSlot.address,
      same EthernetSlot.mtu⟩
  update_eq ethernet key value := by
    rw [EthernetSlot.update_eq_storeIn ethernet key value]
    cases EthernetSlot.ofKey key <;> rfl

instance : DecidableEq (SlottedProperties.Slot Ethernet) :=
  inferInstanceAs (DecidableEq EthernetSlot)

instance : NamedSlots Ethernet where
  keyOf slot := some (EthernetSlot.key slot)
  slotOf_eq_some_iff key slot := by
    constructor
    · revert slot
      change ∀ slot, EthernetSlot.ofKey key = some slot → _
      unfold EthernetSlot.ofKey
      repeat refine forall_some_ite (by rintro rfl; rfl) ?_
      nofun
    · intro named
      cases named
      cases slot <;> decide

/-! ## Provider -/

inductive ProviderSlot where
  | host | domain | name | type
  deriving DecidableEq, Repr

namespace ProviderSlot

def Value : ProviderSlot → Type
  | host => String
  | domain => String
  | name => String
  | type => String

def key : ProviderSlot → String
  | host => hostStr
  | domain => domainStr
  | name => nameStr
  | type => typeStr

def ofKey (key : String) : Option ProviderSlot :=
  if key = hostStr then some host
  else if key = domainStr then some domain
  else if key = nameStr then some name
  else if key = typeStr then some type
  else none

def decode : (slot : ProviderSlot) → GVariant → Except Fault slot.Value
  | host, value => stringOf value
  | domain, value => stringOf value
  | name, value => stringOf value
  | type, value => stringOf value

def get (provider : Provider) : (slot : ProviderSlot) → slot.Value
  | host => provider.host
  | domain => provider.domain
  | name => provider.name
  | type => provider.type

def set (provider : Provider) : (slot : ProviderSlot) → slot.Value → Provider
  | host, v => { provider with host := v }
  | domain, v => { provider with domain := v }
  | name, v => { provider with name := v }
  | type, v => { provider with type := v }

theorem update_eq_storeIn (provider : Provider) (key : String) (value : GVariant) :
    PropertyRecord.update provider key value = storeIn decode set provider value (ofKey key) := by
  unfold ofKey
  simp only [apply_ite (storeIn decode set provider value)]
  rfl

end ProviderSlot

instance : SlottedProperties Provider where
  Slot := ProviderSlot
  Value := ProviderSlot.Value
  slotOf := ProviderSlot.ofKey
  decode := ProviderSlot.decode
  get := ProviderSlot.get
  set := ProviderSlot.set
  get_set_self _ slot _ := by cases slot <;> rfl
  get_set_of_ne _ slot other _ different := by
    cases slot <;> cases other <;> first | rfl | exact absurd rfl different
  ext_slots first second same := by
    cases first
    cases second
    simp only [Provider.mk.injEq]
    exact ⟨same ProviderSlot.host, same ProviderSlot.domain, same ProviderSlot.name, same
      ProviderSlot.type⟩
  update_eq provider key value := by
    rw [ProviderSlot.update_eq_storeIn provider key value]
    cases ProviderSlot.ofKey key <;> rfl

instance : DecidableEq (SlottedProperties.Slot Provider) :=
  inferInstanceAs (DecidableEq ProviderSlot)

instance : NamedSlots Provider where
  keyOf slot := some (ProviderSlot.key slot)
  slotOf_eq_some_iff key slot := by
    constructor
    · revert slot
      change ∀ slot, ProviderSlot.ofKey key = some slot → _
      unfold ProviderSlot.ofKey
      repeat refine forall_some_ite (by rintro rfl; rfl) ?_
      nofun
    · intro named
      cases named
      cases slot <;> decide

/-! ## Proxy -/

inductive ProxySlot where
  | method | url | servers | excludes
  deriving DecidableEq, Repr

namespace ProxySlot

def Value : ProxySlot → Type
  | method => ProxyMethod
  | url => String
  | servers => List String
  | excludes => List String

def key : ProxySlot → String
  | method => methodStr
  | url => urlStr
  | servers => serversStr
  | excludes => excludesStr

def ofKey (key : String) : Option ProxySlot :=
  if key = methodStr then some method
  else if key = urlStr then some url
  else if key = serversStr then some servers
  else if key = excludesStr then some excludes
  else none

def decode : (slot : ProxySlot) → GVariant → Except Fault slot.Value
  | method, value => proxyMethodMap.decode value
  | url, value => stringOf value
  | servers, value => asToVector value
  | excludes, value => asToVector value

def get (proxy : Proxy) : (slot : ProxySlot) → slot.Value
  | method => proxy.method
  | url => proxy.url
  | servers => proxy.servers
  | excludes => proxy.excludes

def set (proxy : Proxy) : (slot : ProxySlot) → slot.Value → Proxy
  | method, v => { proxy with method := v }
  | url, v => { proxy with url := v }
  | servers, v => { proxy with servers := v }
  | excludes, v => { proxy with excludes := v }

theorem update_eq_storeIn (proxy : Proxy) (key : String) (value : GVariant) :
    PropertyRecord.update proxy key value = storeIn decode set proxy value (ofKey key) := by
  unfold ofKey
  simp only [apply_ite (storeIn decode set proxy value)]
  rfl

end ProxySlot

instance : SlottedProperties Proxy where
  Slot := ProxySlot
  Value := ProxySlot.Value
  slotOf := ProxySlot.ofKey
  decode := ProxySlot.decode
  get := ProxySlot.get
  set := ProxySlot.set
  get_set_self _ slot _ := by cases slot <;> rfl
  get_set_of_ne _ slot other _ different := by
    cases slot <;> cases other <;> first | rfl | exact absurd rfl different
  ext_slots first second same := by
    cases first
    cases second
    simp only [Proxy.mk.injEq]
    exact ⟨same ProxySlot.method, same ProxySlot.url, same ProxySlot.servers, same
      ProxySlot.excludes⟩
  update_eq proxy key value := by
    rw [ProxySlot.update_eq_storeIn proxy key value]
    cases ProxySlot.ofKey key <;> rfl

instance : DecidableEq (SlottedProperties.Slot Proxy) :=
  inferInstanceAs (DecidableEq ProxySlot)

instance : NamedSlots Proxy where
  keyOf slot := some (ProxySlot.key slot)
  slotOf_eq_some_iff key slot := by
    constructor
    · revert slot
      change ∀ slot, ProxySlot.ofKey key = some slot → _
      unfold ProxySlot.ofKey
      repeat refine forall_some_ite (by rintro rfl; rfl) ?_
      nofun
    · intro named
      cases named
      cases slot <;> decide

end GConnman.Connman
