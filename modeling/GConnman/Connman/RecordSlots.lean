import GConnman.Connman.Properties
import GConnman.DBus.LastWriter

/-!
# The slots of the manager, technology and clock records

Every field has a slot and a name of its own.
-/

namespace GConnman.Connman

open GConnman.GLib GConnman.DBus

/-! ## Manager -/

inductive ManaSlot where
  | offlineMode | state
  deriving DecidableEq, Repr

namespace ManaSlot

def Value : ManaSlot → Type
  | offlineMode => Bool
  | state => ManaState

def key : ManaSlot → String
  | offlineMode => offlinemodeStr
  | state => stateStr

def ofKey (key : String) : Option ManaSlot :=
  if key = offlinemodeStr then some offlineMode
  else if key = stateStr then some state
  else none

def decode : (slot : ManaSlot) → GVariant → Except Fault slot.Value
  | offlineMode, value => .ok value.getBoolean
  | state, value => manaStateMap.decode value

def get (props : ManaProperties) : (slot : ManaSlot) → slot.Value
  | offlineMode => props.offlineMode
  | state => props.state

def set (props : ManaProperties) : (slot : ManaSlot) → slot.Value → ManaProperties
  | offlineMode, v => { props with offlineMode := v }
  | state, v => { props with state := v }

theorem update_eq_storeIn (props : ManaProperties) (key : String) (value : GVariant) :
    PropertyRecord.update props key value = storeIn decode set props value (ofKey key) := by
  unfold ofKey
  simp only [apply_ite (storeIn decode set props value)]
  rfl

end ManaSlot

instance : SlottedProperties ManaProperties where
  Slot := ManaSlot
  Value := ManaSlot.Value
  slotOf := ManaSlot.ofKey
  decode := ManaSlot.decode
  get := ManaSlot.get
  set := ManaSlot.set
  get_set_self _ slot _ := by cases slot <;> rfl
  get_set_of_ne _ slot other _ different := by
    cases slot <;> cases other <;> first | rfl | exact absurd rfl different
  ext_slots first second same := by
    cases first
    cases second
    simp only [ManaProperties.mk.injEq]
    exact ⟨same ManaSlot.offlineMode, same ManaSlot.state⟩
  update_eq props key value := by
    rw [ManaSlot.update_eq_storeIn props key value]
    cases ManaSlot.ofKey key <;> rfl

instance : DecidableEq (SlottedProperties.Slot ManaProperties) :=
  inferInstanceAs (DecidableEq ManaSlot)

instance : NamedSlots ManaProperties where
  keyOf slot := some (ManaSlot.key slot)
  slotOf_eq_some_iff key slot := by
    constructor
    · revert slot
      change ∀ slot, ManaSlot.ofKey key = some slot → _
      unfold ManaSlot.ofKey
      repeat refine forall_some_ite (by rintro rfl; rfl) ?_
      nofun
    · intro named
      cases named
      cases slot <;> decide

/-! ## Technology -/

inductive TechSlot where
  | name | type | powered | connected
  | tethering | tetheringFreq | tetheringIdentifier | tetheringPassphrase
  deriving DecidableEq, Repr

namespace TechSlot

def Value : TechSlot → Type
  | name => String
  | type => Uninitialised TechType
  | powered => Bool
  | connected => Bool
  | tethering => Bool
  | tetheringFreq => Int32
  | tetheringIdentifier => String
  | tetheringPassphrase => String

def key : TechSlot → String
  | name => nameStr
  | type => typeStr
  | powered => poweredStr
  | connected => connectedStr
  | tethering => tetheringStr
  | tetheringFreq => tetheringfreqStr
  | tetheringIdentifier => tetheringidentifierStr
  | tetheringPassphrase => tetheringpassphraseStr

def ofKey (key : String) : Option TechSlot :=
  if key = nameStr then some name
  else if key = typeStr then some type
  else if key = poweredStr then some powered
  else if key = connectedStr then some connected
  else if key = tetheringStr then some tethering
  else if key = tetheringfreqStr then some tetheringFreq
  else if key = tetheringidentifierStr then some tetheringIdentifier
  else if key = tetheringpassphraseStr then some tetheringPassphrase
  else none

def decode : (slot : TechSlot) → GVariant → Except Fault slot.Value
  | name, value => stringOf value
  | type, value => (techTypeMap.decode value).map .assigned
  | powered, value => .ok value.getBoolean
  | connected, value => .ok value.getBoolean
  | tethering, value => .ok value.getBoolean
  | tetheringFreq, value => .ok value.getInt32
  | tetheringIdentifier, value => stringOf value
  | tetheringPassphrase, value => stringOf value

def get (props : TechProperties) : (slot : TechSlot) → slot.Value
  | name => props.name
  | type => props.type
  | powered => props.powered
  | connected => props.connected
  | tethering => props.tethering
  | tetheringFreq => props.tetheringFreq
  | tetheringIdentifier => props.tetheringIdentifier
  | tetheringPassphrase => props.tetheringPassphrase

def set (props : TechProperties) : (slot : TechSlot) → slot.Value → TechProperties
  | name, v => { props with name := v }
  | type, v => { props with type := v }
  | powered, v => { props with powered := v }
  | connected, v => { props with connected := v }
  | tethering, v => { props with tethering := v }
  | tetheringFreq, v => { props with tetheringFreq := v }
  | tetheringIdentifier, v => { props with tetheringIdentifier := v }
  | tetheringPassphrase, v => { props with tetheringPassphrase := v }

/-- The type is wrapped after it is decoded. -/
theorem map_decode_type (props : TechProperties) (value : GVariant) :
    ((techTypeMap.decode value).map fun v => { props with type := .assigned v }) =
      (decode type value).map (set props type) := by
  change _ = ((techTypeMap.decode value).map Uninitialised.assigned).map (set props type)
  cases techTypeMap.decode value <;> rfl

theorem update_eq_storeIn (props : TechProperties) (key : String) (value : GVariant) :
    PropertyRecord.update props key value = storeIn decode set props value (ofKey key) := by
  change props.update key value = _
  unfold ofKey
  simp only [apply_ite (storeIn decode set props value)]
  rw [TechProperties.update, map_decode_type]
  rfl

end TechSlot

instance : SlottedProperties TechProperties where
  Slot := TechSlot
  Value := TechSlot.Value
  slotOf := TechSlot.ofKey
  decode := TechSlot.decode
  get := TechSlot.get
  set := TechSlot.set
  get_set_self _ slot _ := by cases slot <;> rfl
  get_set_of_ne _ slot other _ different := by
    cases slot <;> cases other <;> first | rfl | exact absurd rfl different
  ext_slots first second same := by
    cases first
    cases second
    simp only [TechProperties.mk.injEq]
    exact ⟨same TechSlot.powered, same TechSlot.connected, same TechSlot.tethering, same
      TechSlot.name, same TechSlot.tetheringIdentifier, same TechSlot.tetheringPassphrase, same
      TechSlot.type, same TechSlot.tetheringFreq⟩
  update_eq props key value := by
    rw [TechSlot.update_eq_storeIn props key value]
    cases TechSlot.ofKey key <;> rfl

instance : DecidableEq (SlottedProperties.Slot TechProperties) :=
  inferInstanceAs (DecidableEq TechSlot)

instance : NamedSlots TechProperties where
  keyOf slot := some (TechSlot.key slot)
  slotOf_eq_some_iff key slot := by
    constructor
    · revert slot
      change ∀ slot, TechSlot.ofKey key = some slot → _
      unfold TechSlot.ofKey
      repeat refine forall_some_ite (by rintro rfl; rfl) ?_
      nofun
    · intro named
      cases named
      cases slot <;> decide

/-! ## Clock -/

inductive ClockSlot where
  | time | timeUpdates | timezone | timezoneUpdates | timeServers | timeServerSynced
  deriving DecidableEq, Repr

namespace ClockSlot

def Value : ClockSlot → Type
  | time => UInt64
  | timeUpdates => TimeUpdate
  | timezone => String
  | timezoneUpdates => TimeUpdate
  | timeServers => List String
  | timeServerSynced => Bool

def key : ClockSlot → String
  | time => timeStr
  | timeUpdates => timeupdatesStr
  | timezone => timezoneStr
  | timezoneUpdates => timezoneupdatesStr
  | timeServers => timeserversStr
  | timeServerSynced => timeserversyncedStr

def ofKey (key : String) : Option ClockSlot :=
  if key = timeStr then some time
  else if key = timeupdatesStr then some timeUpdates
  else if key = timezoneStr then some timezone
  else if key = timezoneupdatesStr then some timezoneUpdates
  else if key = timeserversStr then some timeServers
  else if key = timeserversyncedStr then some timeServerSynced
  else none

def decode : (slot : ClockSlot) → GVariant → Except Fault slot.Value
  | time, value => .ok value.getUint64
  | timeUpdates, value => timeUpdateMap.decode value
  | timezone, value => stringOf value
  | timezoneUpdates, value => timeUpdateMap.decode value
  | timeServers, value => asToVector value
  | timeServerSynced, value => .ok value.getBoolean

def get (props : ClockProperties) : (slot : ClockSlot) → slot.Value
  | time => props.time
  | timeUpdates => props.timeUpdates
  | timezone => props.timezone
  | timezoneUpdates => props.timezoneUpdates
  | timeServers => props.timeServers
  | timeServerSynced => props.timeServerSynced

def set (props : ClockProperties) : (slot : ClockSlot) → slot.Value → ClockProperties
  | time, v => { props with time := v }
  | timeUpdates, v => { props with timeUpdates := v }
  | timezone, v => { props with timezone := v }
  | timezoneUpdates, v => { props with timezoneUpdates := v }
  | timeServers, v => { props with timeServers := v }
  | timeServerSynced, v => { props with timeServerSynced := v }

theorem update_eq_storeIn (props : ClockProperties) (key : String) (value : GVariant) :
    PropertyRecord.update props key value = storeIn decode set props value (ofKey key) := by
  unfold ofKey
  simp only [apply_ite (storeIn decode set props value)]
  rfl

end ClockSlot

instance : SlottedProperties ClockProperties where
  Slot := ClockSlot
  Value := ClockSlot.Value
  slotOf := ClockSlot.ofKey
  decode := ClockSlot.decode
  get := ClockSlot.get
  set := ClockSlot.set
  get_set_self _ slot _ := by cases slot <;> rfl
  get_set_of_ne _ slot other _ different := by
    cases slot <;> cases other <;> first | rfl | exact absurd rfl different
  ext_slots first second same := by
    cases first
    cases second
    simp only [ClockProperties.mk.injEq]
    exact ⟨same ClockSlot.time, same ClockSlot.timeUpdates, same ClockSlot.timezone, same
      ClockSlot.timezoneUpdates, same ClockSlot.timeServers, same ClockSlot.timeServerSynced⟩
  update_eq props key value := by
    rw [ClockSlot.update_eq_storeIn props key value]
    cases ClockSlot.ofKey key <;> rfl

instance : DecidableEq (SlottedProperties.Slot ClockProperties) :=
  inferInstanceAs (DecidableEq ClockSlot)

instance : NamedSlots ClockProperties where
  keyOf slot := some (ClockSlot.key slot)
  slotOf_eq_some_iff key slot := by
    constructor
    · revert slot
      change ∀ slot, ClockSlot.ofKey key = some slot → _
      unfold ClockSlot.ofKey
      repeat refine forall_some_ite (by rintro rfl; rfl) ?_
      nofun
    · intro named
      cases named
      cases slot <;> decide

end GConnman.Connman
