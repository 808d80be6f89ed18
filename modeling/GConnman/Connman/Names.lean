/-!
# Interface strings

The object paths and property names the daemon uses, under the names the code
gives them.
-/

namespace GConnman.Connman

def connmanService : String := "net.connman"
def managerPath : String := "/"

def nameStr : String := "Name"
def typeStr : String := "Type"
def errorStr : String := "Error"
def timeserversStr : String := "Timeservers"

/-! ## Clock interface -/

def clockInterface : String := "net.connman.Clock"
def timeStr : String := "Time"
def timeupdatesStr : String := "TimeUpdates"
def timezoneStr : String := "Timezone"
def timezoneupdatesStr : String := "TimezoneUpdates"
def timeserversyncedStr : String := "TimeserverSynced"

/-! ## Technology interface -/

def technologyInterface : String := "net.connman.Technology"
def poweredStr : String := "Powered"
def connectedStr : String := "Connected"
def tetheringStr : String := "Tethering"
def tetheringidentifierStr : String := "TetheringIdentifier"
def tetheringpassphraseStr : String := "TetheringPassphrase"
def tetheringfreqStr : String := "TetheringFreq"
def scanStr : String := "Scan"

/-! ## Service interface -/

def serviceInterface : String := "net.connman.Service"
def autoconnectStr : String := "AutoConnect"
def favoriteStr : String := "Favorite"
def immutableStr : String := "Immutable"
def mdnsStr : String := "mDNS"
def strengthStr : String := "Strength"
def ipv4Str : String := "IPv4"
def ipv6Str : String := "IPv6"
def nameserversStr : String := "Nameservers"
def domainsStr : String := "Domains"
def methodStr : String := "Method"
def addressStr : String := "Address"
def netmaskStr : String := "Netmask"
def gatewayStr : String := "Gateway"
def privacyStr : String := "Privacy"
def prefixlengthStr : String := "PrefixLength"
def ethernetStr : String := "Ethernet"
def providerStr : String := "Provider"
def hostStr : String := "Host"
def domainStr : String := "Domain"
def proxyStr : String := "Proxy"
def urlStr : String := "Url"
def serversStr : String := "Servers"
def excludesStr : String := "Excludes"
def securityStr : String := "Security"
def connectStr : String := "Connect"
def disconnectStr : String := "Disconnect"
def removeStr : String := "Remove"
def interfaceStr : String := "Interface"
def mtuStr : String := "MTU"
def nameserversConfigurationStr : String := "Nameservers.Configuration"

/-! ## Manager interface -/

def managerInterface : String := "net.connman.Manager"
def offlinemodeStr : String := "OfflineMode"
def gettechnologiesStr : String := "GetTechnologies"
def getservicesStr : String := "GetServices"
def stateStr : String := "State"
def registeragentStr : String := "RegisterAgent"
def unregisteragentStr : String := "UnregisterAgent"

end GConnman.Connman
