import GConnman.Connman.Setters

/-!
# Method calls

Every request of the library is one method call on the object of its proxy: SetProperty
for the setters, and a method of its own for everything else.  A call says which request
it was made for and with which arguments, up to what follows the first NUL of a string.
The path of an agent has to be one that the bus allows: of another one GLib makes no
value that could be sent.
-/

namespace GConnman.Connman

open GConnman.GLib GConnman.DBus

/-- The D-Bus interface of the proxies of an interface. -/
def Interface.name : Interface → String
  | manager => managerInterface
  | technology => technologyInterface
  | service => serviceInterface
  | clock => clockInterface

/-- A call of `g_dbus_proxy_call`. -/
structure MethodCall where
  busName : String
  interfaceName : String
  objPath : String
  methodName : String
  parameters : GVariant

/-- What follows the first slash of an object path, after the character `previous`. -/
def isPathRest (previous : Char) : List Char → Bool
  | [] => previous ≠ '/'
  | character :: rest =>
      (character.isAlphanum || character = '_' || (character = '/' && previous ≠ '/')) &&
        isPathRest character rest

/-- `g_variant_is_object_path`. -/
def isObjectPath (text : String) : Bool :=
  match text.toList with
  | ['/'] => true
  | '/' :: rest => isPathRest '/' rest
  | _ => false

/-- A string that can be sent as an object path. -/
structure ObjectPath where
  text : String
  valid : isObjectPath (GVariant.cString text) = true
  deriving DecidableEq, Repr

/-- A request on a proxy, with its arguments. -/
inductive ProxyRequest : Interface → Type where
  | getProperties {interface : Interface} : ProxyRequest interface
  | set {interface : Interface} (setter : Setter interface) : ProxyRequest interface
  | getTechnologies : ProxyRequest .manager
  | getServices : ProxyRequest .manager
  | registerAgent (objectPath : ObjectPath) : ProxyRequest .manager
  | unregisterAgent (objectPath : ObjectPath) : ProxyRequest .manager
  | scan : ProxyRequest .technology
  | connect : ProxyRequest .service
  | disconnect : ProxyRequest .service
  | remove : ProxyRequest .service
  deriving DecidableEq, Repr

/-- `callMethod` without parameters sends the empty tuple. -/
def noParameters : GVariant := .tuple []

/-- The parameters of `registerAgent` and `unregisterAgent`. -/
def agentParameters (objectPath : ObjectPath) : GVariant :=
  .tuple [.objectPath (GVariant.cString objectPath.text)]

namespace ProxyRequest

/-- The method a request calls and the parameters it passes. -/
def message {interface : Interface} : ProxyRequest interface → Except Fault (String × GVariant)
  | getProperties => .ok ("GetProperties", noParameters)
  | set setter => setter.parameters.map fun parameters => ("SetProperty", parameters)
  | getTechnologies => .ok (gettechnologiesStr, noParameters)
  | getServices => .ok (getservicesStr, noParameters)
  | registerAgent objectPath => .ok (registeragentStr, agentParameters objectPath)
  | unregisterAgent objectPath => .ok (unregisteragentStr, agentParameters objectPath)
  | scan => .ok (scanStr, noParameters)
  | connect => .ok (connectStr, noParameters)
  | disconnect => .ok (disconnectStr, noParameters)
  | remove => .ok (removeStr, noParameters)

/-- `callMethod` on a proxy. -/
def call {interface : Interface} (objPath : String) (request : ProxyRequest interface) :
    Except Fault MethodCall :=
  request.message.map fun message =>
    { busName := connmanService, interfaceName := interface.name, objPath
      methodName := message.1, parameters := message.2 }

end ProxyRequest

/-! ## Arguments as the bus carries them -/

theorem cString_cString (text : String) :
    GVariant.cString (GVariant.cString text) = GVariant.cString text :=
  GVariant.cString_of_nulFree (GVariant.nulFree_cString text)

/-- An object path cut at the first NUL. -/
def ObjectPath.cut (objectPath : ObjectPath) : ObjectPath where
  text := GVariant.cString objectPath.text
  valid := by rw [cString_cString, objectPath.valid]

namespace Setter

/-- A setter with its strings cut at the first NUL. -/
def cut : {interface : Interface} → Setter interface → Setter interface
  | _, setTetheringIdentifier identifier => setTetheringIdentifier (GVariant.cString identifier)
  | _, setTetheringPassphrase passphrase => setTetheringPassphrase (GVariant.cString passphrase)
  | _, setNameServers nameServers => setNameServers (nameServers.map GVariant.cString)
  | _, setTimeZone timezone => setTimeZone (GVariant.cString timezone)
  | _, setTimeServers servers => setTimeServers (servers.map GVariant.cString)
  | _, setter => setter

/-- The setter that sends a property with a value. -/
def ofSent : (interface : Interface) → String → GVariant → Option (Setter interface)
  | .manager, property, .boolean value =>
      if property = offlinemodeStr then some (setOfflineMode value) else none
  | .technology, property, .boolean value =>
      if property = poweredStr then some (setPowered value)
      else if property = tetheringStr then some (setTethering value)
      else none
  | .technology, property, .string value =>
      if property = tetheringidentifierStr then some (setTetheringIdentifier value)
      else if property = tetheringpassphraseStr then some (setTetheringPassphrase value)
      else none
  | .technology, property, .int32 value =>
      if property = tetheringfreqStr then some (setTetheringFreq value) else none
  | .service, property, .boolean value =>
      if property = autoconnectStr then some (setAutoconnect value) else none
  | .service, property, .array .string items =>
      if property = nameserversConfigurationStr then
        (items.mapM GVariant.getString).map setNameServers
      else none
  | .clock, property, .uint64 value => if property = timeStr then some (setTime value) else none
  | .clock, property, .string value =>
      if property = timezoneStr then some (setTimeZone value)
      else if property = timeupdatesStr then
        (timeUpdateMap.fromString value).toOption.map setTimeUpdates
      else if property = timezoneupdatesStr then
        (timeUpdateMap.fromString value).toOption.map setTimeZoneUpdates
      else none
  | .clock, property, .array .string items =>
      if property = timeserversStr then (items.mapM GVariant.getString).map setTimeServers else none
  | _, _, _ => none

end Setter

namespace ProxyRequest

/-- A request with its strings cut at the first NUL. -/
def cut {interface : Interface} : ProxyRequest interface → ProxyRequest interface
  | set setter => set setter.cut
  | registerAgent objectPath => registerAgent objectPath.cut
  | unregisterAgent objectPath => unregisterAgent objectPath.cut
  | request => request

/-- The setter that a call of SetProperty is made for. -/
def ofSetProperty (interface : Interface) (parameters : GVariant) :
    Option (ProxyRequest interface) :=
  parameters.asEntry.bind fun entry => (Setter.ofSent interface entry.1 entry.2).map set

/-- The path in the parameters of a call for an agent. -/
def agentPathOf : GVariant → Option ObjectPath
  | .tuple [.objectPath text] =>
      if valid : isObjectPath (GVariant.cString text) = true then some ⟨text, valid⟩ else none
  | _ => none

/-- The request that only this interface has and that calls a method. -/
def ofMethod : (interface : Interface) → String → GVariant → Option (ProxyRequest interface)
  | .manager, methodName, parameters =>
      if methodName = gettechnologiesStr then some getTechnologies
      else if methodName = getservicesStr then some getServices
      else if methodName = registeragentStr then (agentPathOf parameters).map registerAgent
      else if methodName = unregisteragentStr then (agentPathOf parameters).map unregisterAgent
      else none
  | .technology, methodName, _ => if methodName = scanStr then some scan else none
  | .service, methodName, _ =>
      if methodName = connectStr then some connect
      else if methodName = disconnectStr then some disconnect
      else if methodName = removeStr then some remove
      else none
  | .clock, _, _ => none

/-- The request a message is sent for. -/
def ofMessage (interface : Interface) (message : String × GVariant) :
    Option (ProxyRequest interface) :=
  if message.1 = "GetProperties" then some getProperties
  else if message.1 = "SetProperty" then ofSetProperty interface message.2
  else ofMethod interface message.1 message.2

end ProxyRequest

/-- The interface of a name. -/
def Interface.ofName (name : String) : Option Interface :=
  if name = managerInterface then some .manager
  else if name = technologyInterface then some .technology
  else if name = serviceInterface then some .service
  else if name = clockInterface then some .clock
  else none

/-- The object a call is made on, and the request it is made for. -/
def MethodCall.read (call : MethodCall) :
    Option (String × (interface : Interface) × ProxyRequest interface) :=
  (Interface.ofName call.interfaceName).bind fun interface =>
    (ProxyRequest.ofMessage interface (call.methodName, call.parameters)).map fun request =>
      (call.objPath, ⟨interface, request⟩)

/-! ## Reading a call back -/

/-- The strings of a vector that has been sent. -/
theorem mapM_getString_newString (texts : List String) :
    (texts.map GVariant.newString).mapM GVariant.getString =
      some (texts.map GVariant.cString) := by
  induction texts with
  | nil => rfl
  | cons text rest ih =>
      rw [List.map_cons, List.mapM_cons, ih]
      rfl

/-- The property and the value say which setter was called and with which argument. -/
theorem Setter.ofSent_sent {interface : Interface} (setter : Setter interface) :
    ofSent interface setter.property setter.value = some setter.cut := by
  cases setter with
  | setNameServers nameServers =>
      rw [value, vectorToAs_eq]
      change Option.map setNameServers
        (List.mapM GVariant.getString (nameServers.map GVariant.newString)) = _
      rw [mapM_getString_newString]
      rfl
  | setTimeServers servers =>
      rw [value, vectorToAs_eq]
      change Option.map setTimeServers
        (List.mapM GVariant.getString (servers.map GVariant.newString)) = _
      rw [mapM_getString_newString]
      rfl
  | setTimeUpdates timeUpdates => cases timeUpdates <;> rfl
  | setTimeZoneUpdates timeZoneUpdates => cases timeZoneUpdates <;> rfl
  | _ => rfl

theorem Interface.ofName_name (interface : Interface) : ofName interface.name = some interface := by
  cases interface <;> rfl

namespace ProxyRequest

variable {interface : Interface} (request : ProxyRequest interface)

theorem agentPathOf_agentParameters (objectPath : ObjectPath) :
    agentPathOf (agentParameters objectPath) = some objectPath.cut := by
  have valid : isObjectPath (GVariant.cString (GVariant.cString objectPath.text)) = true :=
    objectPath.cut.valid
  rw [agentParameters, agentPathOf, dif_pos valid]
  rfl

/-- A message says which request it is sent for. -/
theorem exists_message :
    ∃ message, request.message = .ok message ∧ ofMessage interface message = some request.cut := by
  cases request with
  | getProperties => exact ⟨_, rfl, rfl⟩
  | set setter =>
      refine ⟨("SetProperty", setProperty setter.property setter.value), ?_, ?_⟩
      · rw [message, setter.parameters_eq]
        rfl
      · change ofSetProperty interface (setProperty setter.property setter.value) = _
        rw [ofSetProperty, asEntry_setProperty setter.nulFree_property]
        change (Setter.ofSent interface setter.property setter.value).map set = _
        rw [setter.ofSent_sent]
        rfl
  | registerAgent objectPath =>
      refine ⟨_, rfl, ?_⟩
      change (agentPathOf (agentParameters objectPath)).map registerAgent = _
      rw [agentPathOf_agentParameters]
      rfl
  | unregisterAgent objectPath =>
      refine ⟨_, rfl, ?_⟩
      change (agentPathOf (agentParameters objectPath)).map unregisterAgent = _
      rw [agentPathOf_agentParameters]
      rfl
  | _ => exact ⟨_, rfl, rfl⟩

/-- No request raises before its call, and the call says on which object it is made and
for which request, with the strings cut at the first NUL. -/
theorem call_read_back (objPath : String) :
    ∃ call, request.call objPath = .ok call ∧
      call.read = some (objPath, ⟨interface, request.cut⟩) := by
  obtain ⟨message, sent, read⟩ := request.exists_message
  refine ⟨⟨connmanService, interface.name, objPath, message.1, message.2⟩, ?_, ?_⟩
  · rw [call, sent]
    rfl
  · rw [MethodCall.read, Interface.ofName_name]
    change (ofMessage interface message).map _ = _
    rw [read]
    rfl

end ProxyRequest

end GConnman.Connman
