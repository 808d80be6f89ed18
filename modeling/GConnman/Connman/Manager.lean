import GConnman.Connman.Properties
import GConnman.DBus.Proxy
import GConnman.Foundation.ObjectStore

/-!
# The manager and its list messages

The lists of services and technologies hold shared references to proxies.  The
handlers below take the values the bus delivers, and report the state they leave
behind, the exception they end with and the user callbacks they invoke.
Construction of a proxy is taken to succeed, with the object path it was asked
for.
-/

namespace GConnman.Connman

open GConnman.GLib GConnman.DBus GConnman.Foundation

abbrev Service := DBusProxy ServProperties
abbrev Technology := DBusProxy TechProperties
abbrev Clock := DBusProxy ClockProperties

/-- The constructor of `Service`: every property has an initialiser. -/
def Service.new (objPath : String) : Service := { objPath, props := {} }

/-- The constructor of `Technology`; `byte` is what the uninitialised type holds. -/
def Technology.new (byte : UInt8) (objPath : String) : Technology :=
  { objPath, props := { type := .indeterminate byte } }

/-- The constructor of `Clock`: every property has an initialiser. -/
def Clock.new : Clock := { objPath := managerPath, props := {} }

/-- The request-input callbacks; a callback gets the service the request is for. -/
structure RequestInputCallbacks where
  passphrase : Option (Ref → Bool × String) := none
  hiddenNetworkName : Option (Ref → Bool × String) := none
  wpaEnterprise : Option (Ref → String × (Bool × String)) := none
  wisprEnabled : Option (Ref → String × String) := none

/-- The members of `Manager` the list and agent handlers use. -/
structure Manager where
  services : SharedList Service := .empty
  technologies : SharedList Technology := .empty
  servicesChangedCb : Option CallbackId
  technologiesChangedCb : Option CallbackId
  requestInputCb : RequestInputCallbacks := {}
  reportErrorCb : Option CallbackId := none

/-- An invocation of a list callback with the list it is given. -/
inductive ListCall where
  | servicesChanged (callback : CallbackId) (proxies : List Ref)
  | technologiesChanged (callback : CallbackId) (proxies : List Ref)
  deriving DecidableEq, Repr

/-- What a handler does: the state it leaves behind, the exception it ends with
and the user callbacks it invokes. -/
structure Reaction where
  manager : Manager
  raised : Option Fault := none
  calls : List ListCall := []

/-- The manager a handler leaves behind.  An exception that leaves a handler ends
the program. -/
def Reaction.next? (reaction : Reaction) : Option Manager :=
  match reaction.raised with
  | none => some reaction.manager
  | some _ => none

theorem Reaction.next?_eq_some {reaction : Reaction} {next : Manager} :
    reaction.next? = some next ↔ reaction.raised = none ∧ reaction.manager = next := by
  unfold Reaction.next?
  cases reaction.raised <;> simp

/-- `onServicesChanged`: a null callback is ignored. -/
def Manager.onServicesChanged (manager : Manager) (callback : Option CallbackId) : Manager :=
  match callback with
  | none => manager
  | some _ => { manager with servicesChangedCb := callback }

/-- `onTechnologiesChanged`: a null callback is ignored. -/
def Manager.onTechnologiesChanged (manager : Manager) (callback : Option CallbackId) : Manager :=
  match callback with
  | none => manager
  | some _ => { manager with technologiesChangedCb := callback }

/-! ## Decoding announcements -/

/-- `dict_to_path_prop`: the object path and the property dictionary of a tuple. -/
def dictToPathProp (tuple : GVariant) : Except Fault (String × GVariant) :=
  match tuple.getChildValue 0, tuple.getChildValue 1 with
  | some objectPath, some propertiesDict =>
      (stringOf objectPath).map fun path => (path, propertiesDict)
  | _, _ => .error .nullString

section Proxies

variable {Properties : Type} [PropertyRecord Properties]

/-- `dict_to_proxy` and the `push_back` after it.  The order of the two only
matters when the update raises, and then the draft is dropped. -/
def dictToProxy (construct : String → DBusProxy Properties)
    (draft : Draft (DBusProxy Properties)) (pathProp : String × GVariant) :
    Outcome Fault (Draft (DBusProxy Properties)) :=
  (draft.pushNew (construct pathProp.1)).perform draft.list.store.size
    (fun proxy => proxy.updateProperties pathProp.2)

/-- `arrays_to_proxies`: an answer of another type gives the empty list. -/
def arraysToProxies (construct : String → DBusProxy Properties)
    (list : SharedList (DBusProxy Properties)) (arrayOd : GVariant) :
    Outcome Fault (Draft (DBusProxy Properties)) :=
  if arrayOd.isObjects then
    .forEach (fun draft item =>
        match dictToPathProp item with
        | .ok pathProp => dictToProxy construct draft pathProp
        | .error fault => ⟨draft, some fault⟩)
      (.start list) arrayOd.children
  else .done (.start list)

end Proxies

/-! ## Replies to the list requests -/

/-- `get_proxies_cb<Service>`; `none` is an error reply. -/
def Manager.getServicesCb (manager : Manager) (reply : Option GVariant) : Reaction :=
  match reply with
  | none => { manager }
  | some outProperties =>
      let proxies := arraysToProxies Service.new manager.services outProperties
      match proxies.raised with
      | some fault =>
          { manager := { manager with services := proxies.state.list }, raised := some fault }
      | none =>
          { manager := { manager with services := proxies.state.commit }
            calls :=
              if proxies.state.built.isEmpty then []
              else manager.servicesChangedCb.toList.map (.servicesChanged · proxies.state.built) }

/-- `get_proxies_cb<Technology>`; `none` is an error reply. -/
def Manager.getTechnologiesCb (byte : UInt8) (manager : Manager) (reply : Option GVariant) :
    Reaction :=
  match reply with
  | none => { manager }
  | some outProperties =>
      let proxies := arraysToProxies (Technology.new byte) manager.technologies outProperties
      match proxies.raised with
      | some fault =>
          { manager := { manager with technologies := proxies.state.list }, raised := some fault }
      | none =>
          { manager := { manager with technologies := proxies.state.commit }
            calls :=
              if proxies.state.built.isEmpty then []
              else
                manager.technologiesChangedCb.toList.map
                  (.technologiesChanged · proxies.state.built) }

/-! ## The ServicesChanged signal -/

/-- The first loop of `process_services_changed`. -/
def eraseRemoved (services : SharedList Service) (servicesRemoved : List String) :
    SharedList Service :=
  servicesRemoved.foldl
    (fun list objectPath => list.removeIf fun service => service.objPath = objectPath) services

/-- One iteration of the second loop of `process_services_changed`. -/
def placeService (draft : Draft Service) (change : String × GVariant) :
    Outcome Fault (Draft Service) :=
  match found : draft.list.find? (fun service => service.objPath = change.1) with
  | some ref =>
      (draft.push ref (draft.list.linked ref (draft.list.find?_some found).1)).perform ref
        (fun service => service.updateProperties change.2)
  | none => dictToProxy Service.new draft change

/-- `process_services_changed`.  The services named in `servicesRemoved` are
erased and the listed ones updated in place before the new order is assigned. -/
def processServicesChanged (services : SharedList Service) (servicesRemoved : List String)
    (servicesChanged : List (String × GVariant)) : Outcome Fault (SharedList Service) :=
  let newOrder :=
    Outcome.forEach placeService (.start (eraseRemoved services servicesRemoved)) servicesChanged
  match newOrder.raised with
  | none => .done newOrder.state.commit
  | some fault => ⟨newOrder.state.list, some fault⟩

/-- The announcements of a signal, read before the lock is taken. -/
def readChanged : List GVariant → Except Fault (List (String × GVariant))
  | [] => .ok []
  | item :: rest =>
      (dictToPathProp item).bind fun pathProp => (readChanged rest).map (pathProp :: ·)

/-- The removed paths of a signal. -/
def readRemoved : List GVariant → Except Fault (List String)
  | [] => .ok []
  | item :: rest => (stringOf item).bind fun path => (readRemoved rest).map (path :: ·)

/-- The two arguments of a ServicesChanged signal. -/
def readServicesChanged (parameters : GVariant) :
    Except Fault (List (String × GVariant) × List String) :=
  match parameters.getChildValue 0, parameters.getChildValue 1 with
  | some changed, some removed =>
      (readChanged changed.children).bind fun servicesChanged =>
        (readRemoved removed.children).map fun servicesRemoved =>
          (servicesChanged, servicesRemoved)
  | _, _ => .error .nullString

/-- `on_services_changed_cb`. -/
def Manager.onServicesChangedCb (manager : Manager) (parameters : GVariant) : Reaction :=
  match readServicesChanged parameters with
  | .error fault => { manager, raised := some fault }
  | .ok (servicesChanged, servicesRemoved) =>
      let processed := processServicesChanged manager.services servicesRemoved servicesChanged
      match processed.raised with
      | some fault =>
          { manager := { manager with services := processed.state }, raised := some fault }
      | none =>
          { manager := { manager with services := processed.state }
            calls := manager.servicesChangedCb.toList.map
              (.servicesChanged · processed.state.refs) }

/-! ## The TechnologyAdded and TechnologyRemoved signals -/

/-- The part of `on_technology_added_removed_cb` under the lock. -/
def updateTechnologies (byte : UInt8) (technologies : SharedList Technology)
    (signalName : String) (parameters : GVariant) : Outcome Fault (SharedList Technology) :=
  if signalName = "g-signal::TechnologyAdded" then
    match dictToPathProp parameters with
    | .error fault => ⟨technologies, some fault⟩
    | .ok pathProp =>
        let added := dictToProxy (Technology.new byte)
          ⟨technologies, technologies.refs, technologies.linked⟩ pathProp
        match added.raised with
        | none => .done added.state.commit
        | some fault => ⟨added.state.list, some fault⟩
  else if signalName = "g-signal::TechnologyRemoved" then
    match stringOf parameters with
    | .error fault => ⟨technologies, some fault⟩
    | .ok objectPath =>
        .done (technologies.removeIf fun technology => technology.objPath = objectPath)
  else .done technologies

/-- `on_technology_added_removed_cb`. -/
def Manager.onTechnologyAddedRemovedCb (byte : UInt8) (manager : Manager) (signalName : String)
    (parameters : GVariant) : Reaction :=
  let updated := updateTechnologies byte manager.technologies signalName parameters
  match updated.raised with
  | some fault =>
      { manager := { manager with technologies := updated.state }, raised := some fault }
  | none =>
      { manager := { manager with technologies := updated.state }
        calls := manager.technologiesChangedCb.toList.map
          (.technologiesChanged · updated.state.refs) }

end GConnman.Connman
