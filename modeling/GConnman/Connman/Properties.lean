import GConnman.Connman.ServiceProperties

/-!
# Manager, technology and clock properties

The three remaining property records.  The type of a technology is the only
field without an initialiser: until the first `Type` entry arrives it holds an
indeterminate byte.
-/

namespace GConnman.Connman

open GConnman.GLib GConnman.DBus

/-! ## Manager -/

inductive ManaState where
  | offline | idle | ready | online
  deriving DecidableEq, Repr

def manaStateMap : EnumStringMap ManaState :=
  ⟨[(.offline, "offline"), (.idle, "idle"), (.ready, "ready"), (.online, "online")]⟩

structure ManaProperties where
  offlineMode : Bool := false
  state : ManaState := .offline
  deriving DecidableEq, Repr

def ManaProperties.update (props : ManaProperties) (key : String) (value : GVariant) :
    Except Fault ManaProperties :=
  if key = offlinemodeStr then .ok { props with offlineMode := value.getBoolean }
  else if key = stateStr then (manaStateMap.decode value).map fun v => { props with state := v }
  else .ok props

def ManaProperties.known (key : String) (value : GVariant) : Bool :=
  if key = offlinemodeStr then true
  else if key = stateStr then knownEnum manaStateMap value
  else true

instance : PropertyRecord ManaProperties := ⟨ManaProperties.update⟩

instance : KnownProperties ManaProperties where
  known := ManaProperties.known
  update_isOk props key value := by
    change (ManaProperties.update props key value).isOk = _
    simp only [ManaProperties.update, ManaProperties.known, isOk_ite, isOk_map, isOk_ok,
      decode_isOk]

/-! ## Technology -/

inductive TechType where
  | ethernet | wifi | cellular | bluetooth | vpn | wired | p2p | gps | gadget
  deriving DecidableEq, Repr

def techTypeMap : EnumStringMap TechType :=
  ⟨[(.ethernet, "ethernet"), (.wifi, "wifi"), (.cellular, "cellular"), (.bluetooth, "bluetooth"),
    (.vpn, "vpn"), (.wired, "wired"), (.p2p, "p2p"), (.gps, "gps"), (.gadget, "gadget")]⟩

/-- A field declared without an initialiser. -/
inductive Uninitialised (Value : Type) where
  | indeterminate (byte : UInt8)
  | assigned (value : Value)
  deriving DecidableEq, Repr

structure TechProperties where
  powered : Bool := false
  connected : Bool := false
  tethering : Bool := false
  name : String := ""
  tetheringIdentifier : String := ""
  tetheringPassphrase : String := ""
  type : Uninitialised TechType
  tetheringFreq : Int32 := 0
  deriving DecidableEq, Repr

def TechProperties.update (props : TechProperties) (key : String) (value : GVariant) :
    Except Fault TechProperties :=
  if key = nameStr then (stringOf value).map fun v => { props with name := v }
  else if key = typeStr then
    (techTypeMap.decode value).map fun v => { props with type := .assigned v }
  else if key = poweredStr then .ok { props with powered := value.getBoolean }
  else if key = connectedStr then .ok { props with connected := value.getBoolean }
  else if key = tetheringStr then .ok { props with tethering := value.getBoolean }
  else if key = tetheringfreqStr then .ok { props with tetheringFreq := value.getInt32 }
  else if key = tetheringidentifierStr then
    (stringOf value).map fun v => { props with tetheringIdentifier := v }
  else if key = tetheringpassphraseStr then
    (stringOf value).map fun v => { props with tetheringPassphrase := v }
  else .ok props

def TechProperties.known (key : String) (value : GVariant) : Bool :=
  if key = nameStr then knownString value
  else if key = typeStr then knownEnum techTypeMap value
  else if key = poweredStr then true
  else if key = connectedStr then true
  else if key = tetheringStr then true
  else if key = tetheringfreqStr then true
  else if key = tetheringidentifierStr then knownString value
  else if key = tetheringpassphraseStr then knownString value
  else true

instance : PropertyRecord TechProperties := ⟨TechProperties.update⟩

instance : KnownProperties TechProperties where
  known := TechProperties.known
  update_isOk props key value := by
    change (TechProperties.update props key value).isOk = _
    simp only [TechProperties.update, TechProperties.known, isOk_ite, isOk_map, isOk_ok,
      decode_isOk, stringOf_isOk]

/-! ## Clock -/

inductive TimeUpdate where
  | manual | auto
  deriving DecidableEq, Repr

/-- `TIME_UPDATE_MAP`, and `TIME_ZONE_UPDATE_MAP`, which lists the same pairs. -/
def timeUpdateMap : EnumStringMap TimeUpdate := ⟨[(.manual, "manual"), (.auto, "auto")]⟩

structure ClockProperties where
  time : UInt64 := 0
  timeUpdates : TimeUpdate := .manual
  timezone : String := ""
  timezoneUpdates : TimeUpdate := .manual
  timeServers : List String := []
  timeServerSynced : Bool := false
  deriving DecidableEq, Repr

def ClockProperties.update (props : ClockProperties) (key : String) (value : GVariant) :
    Except Fault ClockProperties :=
  if key = timeStr then .ok { props with time := value.getUint64 }
  else if key = timeupdatesStr then
    (timeUpdateMap.decode value).map fun v => { props with timeUpdates := v }
  else if key = timezoneStr then (stringOf value).map fun v => { props with timezone := v }
  else if key = timezoneupdatesStr then
    (timeUpdateMap.decode value).map fun v => { props with timezoneUpdates := v }
  else if key = timeserversStr then
    (asToVector value).map fun v => { props with timeServers := v }
  else if key = timeserversyncedStr then .ok { props with timeServerSynced := value.getBoolean }
  else .ok props

def ClockProperties.known (key : String) (value : GVariant) : Bool :=
  if key = timeStr then true
  else if key = timeupdatesStr then knownEnum timeUpdateMap value
  else if key = timezoneStr then knownString value
  else if key = timezoneupdatesStr then knownEnum timeUpdateMap value
  else if key = timeserversStr then knownStrings (fun _ => true) value
  else if key = timeserversyncedStr then true
  else true

instance : PropertyRecord ClockProperties := ⟨ClockProperties.update⟩

instance : KnownProperties ClockProperties where
  known := ClockProperties.known
  update_isOk props key value := by
    change (ClockProperties.update props key value).isOk = _
    simp only [ClockProperties.update, ClockProperties.known, isOk_ite, isOk_map, isOk_ok,
      decode_isOk, stringOf_isOk, asToVector_isOk]

end GConnman.Connman
