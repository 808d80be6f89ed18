import GConnman.DBus.StringLists
import GConnman.Connman.RecordSlots
import GConnman.Connman.ServiceSlots

/-!
# Server lists

The time servers of the clock and the name servers of a service are set as
vectors of strings and come back as properties.  The clock builds its list in a
loop of its own, the service uses `vector_to_as`.  A service keeps no list where it
receives an empty one.
-/

namespace GConnman.Connman

open GConnman.GLib GConnman.DBus GConnman.Foundation

/-! ## The requests -/

/-- The loop of `Clock::setTimeServers`. -/
def serversVariant (servers : List String) : GVariant :=
  let builder := servers.foldl
    (fun builder server =>
      let strVariant := GVariant.newString server
      builder.addValue strVariant)
    ({ element := .string } : GVariantBuilder)
  builder.build

/-- The parameters `Clock::setTimeServers` sends. -/
def setTimeServers (servers : List String) : GVariant :=
  setProperty timeserversStr (serversVariant servers)

/-- The parameters `Service::setNameServers` sends. -/
def setNameServers (nameServers : List String) : GVariant :=
  setProperty nameserversConfigurationStr (vectorToAs nameServers)

theorem serversVariant_eq (servers : List String) :
    serversVariant servers = vectorToAs servers := by
  rw [vectorToAs_eq]
  exact GVariantBuilder.foldl_addValue _ _ _

theorem asEntry_setTimeServers (servers : List String) :
    (setTimeServers servers).asEntry = some (timeserversStr, vectorToAs servers) := by
  rw [setTimeServers, serversVariant_eq, asEntry_setProperty (by decide)]

theorem asEntry_setNameServers (nameServers : List String) :
    (setNameServers nameServers).asEntry =
      some (nameserversConfigurationStr, vectorToAs nameServers) :=
  asEntry_setProperty (by decide) _

/-! ## The properties that come back -/

/-- The time servers of the clock are those of the value it receives. -/
theorem ClockProperties.update_timeServers (props : ClockProperties) (value : GVariant) :
    props.update timeserversStr value =
      (asToVector value).map fun servers => { props with timeServers := servers } := by
  have named : ClockSlot.ofKey timeserversStr = some .timeServers := by decide
  change PropertyRecord.update props timeserversStr value = _
  rw [ClockSlot.update_eq_storeIn, named]
  rfl

/-- The configured name servers of a service are those of the value it receives. -/
theorem ServProperties.update_nameServersConf (props : ServProperties) (value : GVariant) :
    props.update nameserversConfigurationStr value =
      (optionalOf value (asToVector value)).map fun servers =>
        { props with nameServersConf := servers } := by
  have named : ServSlot.ofKey nameserversConfigurationStr = some .nameServersConf := by decide
  change PropertyRecord.update props nameserversConfigurationStr value = _
  rw [ServSlot.update_eq_storeIn, named]
  rfl

/-- A vector that comes back where an empty list stands for none. -/
theorem optionalOf_vectorToAs (vec : List String) :
    optionalOf (vectorToAs vec) (asToVector (vectorToAs vec)) =
      .ok (if vec = [] then none else some (vec.map GVariant.cString)) := by
  rw [optionalOf, vectorToAs_nChildren, asToVector_vectorToAs]
  cases vec with
  | nil => rfl
  | cons first rest => rfl

/-- What the clock makes of its own request when it comes back. -/
theorem updateProperty_setTimeServers (clock : DBusProxy ClockProperties) (servers : List String)
    {prop : GVariant} (carries : prop.asEntry = (setTimeServers servers).asEntry) :
    clock.updateProperty prop =
      .done { clock with
        props := { clock.props with timeServers := servers.map GVariant.cString } } := by
  rw [asEntry_setTimeServers] at carries
  apply clock.updateProperty_of_update carries
  change clock.props.update _ _ = _
  rw [ClockProperties.update_timeServers, asToVector_vectorToAs]
  rfl

/-- What a service makes of its own request when it comes back. -/
theorem updateProperty_setNameServers (service : DBusProxy ServProperties)
    (nameServers : List String) {prop : GVariant}
    (carries : prop.asEntry = (setNameServers nameServers).asEntry) :
    service.updateProperty prop =
      .done { service with
        props := { service.props with
          nameServersConf :=
            if nameServers = [] then none else some (nameServers.map GVariant.cString) } } := by
  rw [asEntry_setNameServers] at carries
  apply service.updateProperty_of_update carries
  change service.props.update _ _ = _
  rw [ServProperties.update_nameServersConf, optionalOf_vectorToAs]
  rfl

/-- Strings that a D-Bus string can carry survive the way to connman and back, and a
list that arrives can be sent on unchanged.  Of a record only the list changes. -/
theorem stringLists_survive (vec : List String) (nulFree : ∀ text ∈ vec, NulFree text) :
    asToVector (vectorToAs vec) = .ok vec ∧
    (setTimeServers vec).asEntry = some (timeserversStr, vectorToAs vec) ∧
    (∀ (clock : DBusProxy ClockProperties) (prop : GVariant),
      prop.asEntry = (setTimeServers vec).asEntry →
      clock.updateProperty prop =
        .done { clock with props := { clock.props with timeServers := vec } }) ∧
    (∀ (service : DBusProxy ServProperties) (prop : GVariant),
      prop.asEntry = (setNameServers vec).asEntry →
      service.updateProperty prop =
        .done { service with
          props := { service.props with
            nameServersConf := if vec = [] then none else some vec } }) ∧
    ∀ value : GVariant, value.Valid → value.typeOf = .strings →
      (asToVector value).map vectorToAs = .ok value := by
  have whole := map_cString_of_nulFree nulFree
  refine ⟨?_, asEntry_setTimeServers vec, ?_, ?_, ?_⟩
  · rw [asToVector_vectorToAs, whole]
  · intro clock prop carries
    rw [updateProperty_setTimeServers clock vec carries, whole]
  · intro service prop carries
    rw [updateProperty_setNameServers service vec carries, whole]
  · intro value valid strings
    exact vectorToAs_asToVector valid strings

/-- Repeated and empty strings, and no strings at all where there was a list. -/
theorem stringLists_survive_repeated :
    asToVector (vectorToAs ["ntp", "", "ntp"]) = .ok ["ntp", "", "ntp"] ∧
    (∀ clock : DBusProxy ClockProperties,
      clock.updateProperty (setTimeServers ["ntp", "", "ntp"]) =
        .done { clock with
          props := { clock.props with timeServers := ["ntp", "", "ntp"] } }) ∧
    (∀ service : DBusProxy ServProperties, service.props.nameServersConf = some ["old"] →
      service.updateProperty (setNameServers []) =
        .done { service with props := { service.props with nameServersConf := none } }) ∧
    (asToVector (vectorToAs ["ntp", "", "ntp"])).map vectorToAs =
      .ok (vectorToAs ["ntp", "", "ntp"]) := by
  obtain ⟨back, _, clock, _, sent⟩ := stringLists_survive ["ntp", "", "ntp"] (by decide)
  obtain ⟨_, _, _, service, _⟩ := stringLists_survive [] (by decide)
  exact ⟨back, fun held => clock held _ rfl, fun held _ => service held _ rfl,
    sent _ (vectorToAs_valid _) rfl⟩

end GConnman.Connman
