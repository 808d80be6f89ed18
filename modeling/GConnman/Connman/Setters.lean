import GConnman.Connman.ServerLists

/-!
# Setters

The setters of the four interfaces send SetProperty with the name of a property and
its value in a box.  connman announces what it has taken over with the same name and
value, so what a setter does in the end is an assignment to one field of the record.
A string is cut at its first NUL, and a service keeps no list where it is set to an
empty one.
-/

namespace GConnman.Connman

open GConnman.GLib GConnman.DBus GConnman.Foundation
open PropertyRecord SlottedProperties NamedSlots

/-! ## Interfaces -/

/-- The interfaces of connman the library has proxies for. -/
inductive Interface where
  | manager | technology | service | clock
  deriving DecidableEq, Repr

namespace Interface

/-- The property record of the proxies of an interface. -/
abbrev Properties : Interface → Type
  | manager => ManaProperties
  | technology => TechProperties
  | service => ServProperties
  | clock => ClockProperties

instance : (interface : Interface) → PropertyRecord interface.Properties
  | manager => inferInstanceAs (PropertyRecord ManaProperties)
  | technology => inferInstanceAs (PropertyRecord TechProperties)
  | service => inferInstanceAs (PropertyRecord ServProperties)
  | clock => inferInstanceAs (PropertyRecord ClockProperties)

instance : (interface : Interface) → KnownProperties interface.Properties
  | manager => inferInstanceAs (KnownProperties ManaProperties)
  | technology => inferInstanceAs (KnownProperties TechProperties)
  | service => inferInstanceAs (KnownProperties ServProperties)
  | clock => inferInstanceAs (KnownProperties ClockProperties)

instance : (interface : Interface) → SlottedProperties interface.Properties
  | manager => inferInstanceAs (SlottedProperties ManaProperties)
  | technology => inferInstanceAs (SlottedProperties TechProperties)
  | service => inferInstanceAs (SlottedProperties ServProperties)
  | clock => inferInstanceAs (SlottedProperties ClockProperties)

instance : (interface : Interface) → NamedSlots interface.Properties
  | manager => inferInstanceAs (NamedSlots ManaProperties)
  | technology => inferInstanceAs (NamedSlots TechProperties)
  | service => inferInstanceAs (NamedSlots ServProperties)
  | clock => inferInstanceAs (NamedSlots ClockProperties)

instance : (interface : Interface) → DecidableEq (Slot interface.Properties)
  | manager => inferInstanceAs (DecidableEq (Slot ManaProperties))
  | technology => inferInstanceAs (DecidableEq (Slot TechProperties))
  | service => inferInstanceAs (DecidableEq (Slot ServProperties))
  | clock => inferInstanceAs (DecidableEq (Slot ClockProperties))

end Interface

/-- What a slot holds may be stored there again. -/
theorem set_get {Record : Type} [PropertyRecord Record] [SlottedProperties Record]
    [DecidableEq (Slot Record)] (props : Record) (slot : Slot Record) :
    set props slot (get props slot) = props := by
  apply ext_slots
  intro other
  by_cases same : slot = other
  · subst same
    exact get_set_self props slot _
  · exact get_set_of_ne props slot other _ same

/-! ## The parameters of the setters -/

def setOfflineMode (offlineMode : Bool) : GVariant :=
  setProperty offlinemodeStr (.boolean offlineMode)

def setPowered (powered : Bool) : GVariant := setProperty poweredStr (.boolean powered)

def setTethering (tethering : Bool) : GVariant := setProperty tetheringStr (.boolean tethering)

def setTetheringIdentifier (identifier : String) : GVariant :=
  setProperty tetheringidentifierStr (.newString identifier)

def setTetheringPassphrase (passphrase : String) : GVariant :=
  setProperty tetheringpassphraseStr (.newString passphrase)

def setTetheringFreq (frequency : Int32) : GVariant :=
  setProperty tetheringfreqStr (.int32 frequency)

def setAutoconnect (autoconnect : Bool) : GVariant :=
  setProperty autoconnectStr (.boolean autoconnect)

def setTime (time : UInt64) : GVariant := setProperty timeStr (.uint64 time)

def setTimeZone (timezone : String) : GVariant := setProperty timezoneStr (.newString timezone)

/-- `Clock::setTimeUpdates`, which raises on a value the table does not list. -/
def setTimeUpdates (timeUpdates : TimeUpdate) : Except Fault GVariant :=
  (timeUpdateMap.toString timeUpdates).map fun text => setProperty timeupdatesStr (.newString text)

def setTimeZoneUpdates (timeZoneUpdates : TimeUpdate) : Except Fault GVariant :=
  (timeUpdateMap.toString timeZoneUpdates).map fun text =>
    setProperty timezoneupdatesStr (.newString text)

/-- The string of an enumerator. -/
def TimeUpdate.text : TimeUpdate → String
  | manual => "manual"
  | auto => "auto"

/-- A call of a setter. -/
inductive Setter : Interface → Type where
  | setOfflineMode (offlineMode : Bool) : Setter .manager
  | setPowered (powered : Bool) : Setter .technology
  | setTethering (tethering : Bool) : Setter .technology
  | setTetheringIdentifier (identifier : String) : Setter .technology
  | setTetheringPassphrase (passphrase : String) : Setter .technology
  | setTetheringFreq (frequency : Int32) : Setter .technology
  | setAutoconnect (autoconnect : Bool) : Setter .service
  | setNameServers (nameServers : List String) : Setter .service
  | setTime (time : UInt64) : Setter .clock
  | setTimeZone (timezone : String) : Setter .clock
  | setTimeUpdates (timeUpdates : TimeUpdate) : Setter .clock
  | setTimeZoneUpdates (timeZoneUpdates : TimeUpdate) : Setter .clock
  | setTimeServers (servers : List String) : Setter .clock
  deriving DecidableEq, Repr

namespace Setter

/-- What a setter sends. -/
def parameters : {interface : Interface} → Setter interface → Except Fault GVariant
  | _, setOfflineMode offlineMode => .ok (Connman.setOfflineMode offlineMode)
  | _, setPowered powered => .ok (Connman.setPowered powered)
  | _, setTethering tethering => .ok (Connman.setTethering tethering)
  | _, setTetheringIdentifier identifier => .ok (Connman.setTetheringIdentifier identifier)
  | _, setTetheringPassphrase passphrase => .ok (Connman.setTetheringPassphrase passphrase)
  | _, setTetheringFreq frequency => .ok (Connman.setTetheringFreq frequency)
  | _, setAutoconnect autoconnect => .ok (Connman.setAutoconnect autoconnect)
  | _, setNameServers nameServers => .ok (Connman.setNameServers nameServers)
  | _, setTime time => .ok (Connman.setTime time)
  | _, setTimeZone timezone => .ok (Connman.setTimeZone timezone)
  | _, setTimeUpdates timeUpdates => Connman.setTimeUpdates timeUpdates
  | _, setTimeZoneUpdates timeZoneUpdates => Connman.setTimeZoneUpdates timeZoneUpdates
  | _, setTimeServers servers => .ok (Connman.setTimeServers servers)

/-- The property a setter sets. -/
def property : {interface : Interface} → Setter interface → String
  | _, setOfflineMode _ => offlinemodeStr
  | _, setPowered _ => poweredStr
  | _, setTethering _ => tetheringStr
  | _, setTetheringIdentifier _ => tetheringidentifierStr
  | _, setTetheringPassphrase _ => tetheringpassphraseStr
  | _, setTetheringFreq _ => tetheringfreqStr
  | _, setAutoconnect _ => autoconnectStr
  | _, setNameServers _ => nameserversConfigurationStr
  | _, setTime _ => timeStr
  | _, setTimeZone _ => timezoneStr
  | _, setTimeUpdates _ => timeupdatesStr
  | _, setTimeZoneUpdates _ => timezoneupdatesStr
  | _, setTimeServers _ => timeserversStr

/-- What a setter means for the record. -/
def assign : {interface : Interface} → Setter interface →
    interface.Properties → interface.Properties
  | _, setOfflineMode offlineMode, props => { props with offlineMode }
  | _, setPowered powered, props => { props with powered }
  | _, setTethering tethering, props => { props with tethering }
  | _, setTetheringIdentifier identifier, props =>
      { props with tetheringIdentifier := GVariant.cString identifier }
  | _, setTetheringPassphrase passphrase, props =>
      { props with tetheringPassphrase := GVariant.cString passphrase }
  | _, setTetheringFreq frequency, props => { props with tetheringFreq := frequency }
  | _, setAutoconnect autoconnect, props => { props with autoconnect }
  | _, setNameServers nameServers, props =>
      { props with
        nameServersConf :=
          if nameServers = [] then none else some (nameServers.map GVariant.cString) }
  | _, setTime time, props => { props with time }
  | _, setTimeZone timezone, props => { props with timezone := GVariant.cString timezone }
  | _, setTimeUpdates timeUpdates, props => { props with timeUpdates }
  | _, setTimeZoneUpdates timeZoneUpdates, props =>
      { props with timezoneUpdates := timeZoneUpdates }
  | _, setTimeServers servers, props =>
      { props with timeServers := servers.map GVariant.cString }

/-- The value a setter boxes. -/
def value : {interface : Interface} → Setter interface → GVariant
  | _, setOfflineMode offlineMode => .boolean offlineMode
  | _, setPowered powered => .boolean powered
  | _, setTethering tethering => .boolean tethering
  | _, setTetheringIdentifier identifier => .newString identifier
  | _, setTetheringPassphrase passphrase => .newString passphrase
  | _, setTetheringFreq frequency => .int32 frequency
  | _, setAutoconnect autoconnect => .boolean autoconnect
  | _, setNameServers nameServers => vectorToAs nameServers
  | _, setTime time => .uint64 time
  | _, setTimeZone timezone => .newString timezone
  | _, setTimeUpdates timeUpdates => .newString timeUpdates.text
  | _, setTimeZoneUpdates timeZoneUpdates => .newString timeZoneUpdates.text
  | _, setTimeServers servers => vectorToAs servers

/-! ## What is sent -/

section

variable {interface : Interface} (setter : Setter interface)

/-- No setter raises, and what it sends is the property and the value in a box. -/
theorem parameters_eq : setter.parameters = .ok (setProperty setter.property setter.value) := by
  cases setter with
  | setTimeUpdates timeUpdates => cases timeUpdates <;> rfl
  | setTimeZoneUpdates timeZoneUpdates => cases timeZoneUpdates <;> rfl
  | setTimeServers servers => exact congrArg _ (congrArg _ (serversVariant_eq servers))
  | _ => rfl

theorem nulFree_property : NulFree setter.property := by
  cases setter <;> simp only [property] <;> decide

theorem valid_value : setter.value.Valid := by
  cases setter with
  | setNameServers nameServers => exact vectorToAs_valid nameServers
  | setTimeServers servers => exact vectorToAs_valid servers
  | _ => first | exact GVariant.valid_newString _ | exact trivial

/-- What is sent is a well-formed pair `(sv)`. -/
theorem valid_parameters :
    (setProperty setter.property setter.value).Valid ∧
      (setProperty setter.property setter.value).typeOf = .tuple [.string, .variant] := by
  refine ⟨?_, rfl⟩
  exact ⟨GVariant.valid_newString _, setter.valid_value, trivial⟩

/-! ## What comes back -/

/-- A value that the slot of its name can read is stored there. -/
theorem update_of_decode {Record : Type} [PropertyRecord Record] [SlottedProperties Record]
    [NamedSlots Record] (props : Record) {key : String} {value : GVariant} (slot : Slot Record)
    {held : Value slot} (named : keyOf slot = some key) (decoded : decode slot value = .ok held) :
    update props key value = .ok (set props slot held) := by
  rw [update_eq, (slotOf_eq_some_iff key slot).mpr named]
  change (decode slot value).map (set props slot) = _
  rw [decoded]
  rfl

/-- The property with its value, received again, is the assignment. -/
theorem update_value (props : interface.Properties) :
    update props setter.property setter.value = .ok (setter.assign props) := by
  cases setter with
  | setOfflineMode offlineMode =>
      exact update_of_decode props ManaSlot.offlineMode rfl rfl
  | setPowered powered => exact update_of_decode props TechSlot.powered rfl rfl
  | setTethering tethering => exact update_of_decode props TechSlot.tethering rfl rfl
  | setTetheringIdentifier identifier =>
      exact update_of_decode props TechSlot.tetheringIdentifier rfl rfl
  | setTetheringPassphrase passphrase =>
      exact update_of_decode props TechSlot.tetheringPassphrase rfl rfl
  | setTetheringFreq frequency =>
      exact update_of_decode props TechSlot.tetheringFreq rfl rfl
  | setAutoconnect autoconnect =>
      exact update_of_decode props ServSlot.autoconnect rfl rfl
  | setNameServers nameServers =>
      exact update_of_decode props ServSlot.nameServersConf rfl
        (optionalOf_vectorToAs nameServers)
  | setTime time => exact update_of_decode props ClockSlot.time rfl rfl
  | setTimeZone timezone => exact update_of_decode props ClockSlot.timezone rfl rfl
  | setTimeUpdates timeUpdates =>
      refine update_of_decode props ClockSlot.timeUpdates rfl ?_
      cases timeUpdates <;> rfl
  | setTimeZoneUpdates timeZoneUpdates =>
      refine update_of_decode props ClockSlot.timezoneUpdates rfl ?_
      cases timeZoneUpdates <;> rfl
  | setTimeServers servers =>
      exact update_of_decode props ClockSlot.timeServers rfl
        (asToVector_vectorToAs servers)

/-- A pair that carries what a setter has sent makes the assignment and nothing else. -/
theorem updateProperty_echo (proxy : DBusProxy interface.Properties) {prop : GVariant}
    (carries : prop.asEntry = (setProperty setter.property setter.value).asEntry) :
    proxy.updateProperty prop = .done { proxy with props := setter.assign proxy.props } := by
  rw [asEntry_setProperty setter.nulFree_property] at carries
  exact proxy.updateProperty_of_update carries (setter.update_value proxy.props)

/-- What the messages of a list of setters carry. -/
theorem forEach_echo (proxy : DBusProxy interface.Properties) (setters : List (Setter interface))
    {echo : List GVariant}
    (carries : echo.map GVariant.asEntry =
      setters.map fun setter => (setProperty setter.property setter.value).asEntry) :
    Outcome.forEach DBusProxy.updateProperty proxy echo =
      .done { proxy with
        props := setters.foldl (fun props setter => setter.assign props) proxy.props } := by
  induction setters generalizing proxy echo with
  | nil =>
      rw [List.map_nil, List.map_eq_nil_iff] at carries
      subst carries
      rfl
  | cons setter rest ih =>
      obtain ⟨prop, later, rfl, first, remaining⟩ := List.map_eq_cons_iff.mp carries
      rw [Outcome.forEach_cons, setter.updateProperty_echo proxy first,
        Outcome.andThen_of_done rfl]
      exact ih _ remaining

/-- A record into which the value was folded last is what the setter makes of it. -/
theorem assign_of_lastCarried (props : interface.Properties) {entries : List (String × GVariant)}
    (accepted : knownEntries interface.Properties entries = true)
    (last : lastCarried setter.property entries = some setter.value) :
    setter.assign (fold props entries) = fold props entries := by
  have assigned := setter.update_value (fold props entries)
  rw [update_eq] at assigned
  cases named : (slotOf setter.property : Option (Slot interface.Properties)) with
  | none =>
      rw [named] at assigned
      exact (Except.ok.inj assigned).symm
  | some slot =>
      have key := (slotOf_eq_some_iff setter.property slot).mp named
      have decoded := get_fold_of_carried props key accepted last
      rw [named] at assigned
      change (decode slot setter.value).map _ = _ at assigned
      rw [decoded] at assigned
      exact (Except.ok.inj assigned).symm.trans (set_get _ slot)

end

/-- Every list of setters of an interface sends well-formed messages, and when connman
announces in turn what they carry, in signals or in dictionaries, the record ends with the
assignments made one after the other and nothing else has changed. -/
theorem setters_echoed {interface : Interface} (setters : List (Setter interface))
    (proxy : DBusProxy interface.Properties) :
    ∃ messages, setters.mapM Setter.parameters = .ok messages ∧
      (∀ message ∈ messages, message.Valid ∧ message.typeOf = .tuple [.string, .variant]) ∧
      ∀ echo : List GVariant, echo.map GVariant.asEntry = messages.map GVariant.asEntry →
        Outcome.forEach DBusProxy.updateProperty proxy echo =
          .done { proxy with
            props := setters.foldl (fun props setter => setter.assign props) proxy.props } := by
  refine ⟨setters.map fun setter => setProperty setter.property setter.value, ?_, ?_, ?_⟩
  · rw [funext parameters_eq]
    exact List.mapM_pure
  · rw [List.forall_mem_map]
    exact fun setter _ => setter.valid_parameters
  · intro echo carries
    rw [List.map_map] at carries
    exact forEach_echo proxy setters carries

end Setter

end GConnman.Connman
