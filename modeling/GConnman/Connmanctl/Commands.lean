import GConnman.Connman.Construction
import GConnman.Connman.Printing
import GConnman.Connman.WriteThrough
import GConnman.Foundation.Words

/-!
# The command line

What the client does with a line that is not a passphrase: it trims the line, reads up
to six words from it, and prints or makes requests.  The objects are those listed when
the command looks for them; each time it asks an object for its properties they may
have changed.
-/

namespace GConnman.Connmanctl

open GConnman.Connman GConnman.DBus GConnman.Foundation

/-! ## Words of a line -/

/-- `std::isspace` in the C locale. -/
def isSpace (character : Char) : Bool :=
  character = ' ' || ('\t' ≤ character && character ≤ '\r')

/-- The words of a line. -/
def lineWords (line : String) : List String := (words isSpace line.toList).map String.ofList

/-- The words that `>>` reads from a line that has been trimmed. -/
def argument (line : String) (index : Nat) : String :=
  String.ofList ((readWords isSpace 6 (trim isSpace line.toList))[index]?.getD [])

/-- The number that digits stand for. -/
def decimal (digits : String) : Nat :=
  digits.toList.foldl (fun number digit => 10 * number + (digit.toNat - '0'.toNat)) 0

/-- One more than the greatest `int`. -/
def intLimit : Nat := 2147483648

/-- `std::stoi` of digits; `none` when the number is out of range. -/
def stoi (digits : String) : Option Int32 :=
  if decimal digits < intLimit then some (Int32.ofNat (decimal digits)) else none

/-- The part of a path after the last slash. -/
def lastComponent (path : String) : String :=
  String.ofList (path.toList.rtakeWhile fun character => character ≠ '/')

/-! ## Tables -/

inductive Command where
  | technologies | services | scan | enable | disable | connect | disconnect | remove | agent
  | quit | tethering
  deriving DecidableEq, Repr

/-- `command_map`. -/
def Command.name : Command → String
  | technologies => "technologies"
  | services => "services"
  | scan => "scan"
  | enable => "enable"
  | disable => "disable"
  | connect => "connect"
  | disconnect => "disconnect"
  | remove => "remove"
  | agent => "agent"
  | quit => "quit"
  | tethering => "tether"

/-- The line is the command to quit. -/
def quits (line : String) : Bool := argument line 0 = Command.quit.name

/-- `tech_map`. -/
def techName : TechType → String
  | .ethernet => "ethernet"
  | .wifi => "wifi"
  | .cellular => "cellular"
  | .bluetooth => "bluetooth"
  | .vpn => "vpn"
  | .wired => "wired"
  | .p2p => "p2p"
  | .gps => "gps"
  | .gadget => "gadget"

/-- `tech_map.at`; `none` when the type is no enumerator. -/
def techName? (type : Uninitialised TechType) : Option String :=
  (type.enumerator TechType.ofByte).map techName

def on : String := "on"
def off : String := "off"

def minWifiPassphraseLength : Nat := 8

/-- `printContainer`. -/
def containerText (container : List String) : String := ", ".intercalate container ++ "\n"

/-! ## Requests -/

/-- A proxy of one of the interfaces. -/
structure ProxyOf (kind : Endpoint → Interface) (interface : Interface) where
  object : Endpoint
  kind_eq : kind object = interface
  deriving DecidableEq

abbrev TechProxy (kind : Endpoint → Interface) := ProxyOf kind .technology
abbrev ServProxy (kind : Endpoint → Interface) := ProxyOf kind .service

/-- A request made on a proxy. -/
def ProxyOf.ask {kind : Endpoint → Interface} {interface : Interface}
    (proxy : ProxyOf kind interface) (request : ProxyRequest interface) : ObjectRequest kind :=
  ⟨proxy.object, (congrArg ProxyRequest proxy.kind_eq).mpr request⟩

/-- What the callback of a request tells the user. -/
inductive Report where
  | agent (arg : String)
  | scan (name : String)
  | power (name : String) (enable : Bool)
  | tether (arg : String) (enable : Bool)
  | connect (name : String) (connects : Bool)
  | remove (name : String)
  deriving DecidableEq, Repr

/-- The text of a report, empty when the user is told nothing. -/
def Report.message (success : Bool) : Report → String
  | .agent arg =>
      if success then
        "Agent " ++ (if arg = on then "registered" else "unregistered") ++ "\n"
      else ""
  | .scan name =>
      if success then "Technology " ++ name ++ " scanned successfully.\n"
      else "Failed to scan technology " ++ name ++ ".\n"
  | .power name enable =>
      if success then
        "Technology " ++ name ++ (if enable then " enabled" else " disabled") ++
          " successfully.\n"
      else
        "Failed to  " ++ (if enable then " enable" else " disable") ++ " technology " ++ name ++
          "\n"
  | .tether arg enable =>
      if success then
        "Tethering on technology " ++ arg ++ (if enable then " enabled" else " disabled") ++
          " successfully.\n"
      else
        "Failed to" ++ (if enable then " enable" else " disable") ++
          " tethering on technology " ++ arg ++ "\n"
  | .connect name connects =>
      if success then
        "Service " ++ name ++ (if connects then " connected" else " disconnected") ++
          " successfully.\n"
      else
        "Failed to " ++ (if connects then " connect" else " disconnect") ++ " to service " ++
          name ++ "\n"
  | .remove name =>
      if success then "Service " ++ name ++ " removed successfully.\n"
      else "Failed to remove service " ++ name ++ "\n"

/-- What a command does, in order. -/
inductive Action (kind : Endpoint → Interface) where
  | print (text : String)
  | request (request : ObjectRequest kind) (report : Option Report)
  deriving DecidableEq

/-- The exceptions that leave a command. -/
inductive Crash where
  /-- `std::out_of_range` of `at` or `std::stoi`. -/
  | outOfRange
  | printing (fault : Fault)
  deriving DecidableEq, Repr

/-- What a command has done, and the exception that ended it. -/
abbrev Interpretation (kind : Endpoint → Interface) := Outcome Crash (List (Action kind))

/-- The requests among some actions. -/
def requestsOf {kind : Endpoint → Interface} (actions : List (Action kind)) :
    List (ObjectRequest kind) :=
  actions.filterMap fun action =>
    match action with
    | .print _ => none
    | .request request _ => some request

/-- `internalAgentPath`. -/
def internalAgentPath : ObjectPath := ⟨Process.agentPath, by decide⟩

/-- What a command finds.  `techProperties proxy count` is what `properties()` returns
when the command has called it `count` times on the proxy before. -/
structure Client (kind : Endpoint → Interface) where
  manager : ProxyOf kind .manager
  technologies : List (TechProxy kind)
  services : List (ServProxy kind)
  objPath : Endpoint → String
  techProperties : TechProxy kind → Nat → TechProperties
  servProperties : ServProxy kind → Nat → ServProperties
  technologiesContainer : List String
  commandsContainer : List String

namespace Client

variable {kind : Endpoint → Interface} (client : Client kind)

/-- `match_service`. -/
def matchService (arg : String) (service : ServProxy kind) : Bool :=
  lastComponent (client.objPath service.object) = arg ||
    (client.servProperties service 0).name = arg

/-- `find_if` with `match_technology`. -/
def findTechnology (arg : String) : List (TechProxy kind) → Except Crash (Option (TechProxy kind))
  | [] => .ok none
  | technology :: rest =>
      match techName? (client.techProperties technology 0).type with
      | none => .error .outOfRange
      | some name => if name = arg then .ok (some technology) else findTechnology arg rest

/-- Go on with the technology of that name, if there is one. -/
def withTechnology (arg : String) (before : List (Action kind))
    (next : TechProxy kind → Interpretation kind) : Interpretation kind :=
  match client.findTechnology arg client.technologies with
  | .error crash => ⟨before, some crash⟩
  | .ok none => .done before
  | .ok (some technology) => next technology

/-- Go on with the first service of that name or path, if there is one. -/
def withService (arg : String) (missing : String) (next : ServProxy kind → Interpretation kind) :
    Interpretation kind :=
  match client.services.find? (client.matchService arg) with
  | none => .done [.print missing]
  | some service => next service

/-! ## The commands -/

/-- What is printed of a technology, after what has been done before. -/
def printTechnology (before : List (Action kind)) (technology : TechProxy kind) :
    Interpretation kind :=
  let props := client.techProperties technology 0
  let head := before ++
    [.print ("Technology: " ++ props.name ++ " " ++ client.objPath technology.object ++ "\n")]
  match props.print with
  | .ok text => .done (head ++ [.print text])
  | .error fault => ⟨head, some (.printing fault)⟩

def technologiesCommand : Interpretation kind :=
  if client.technologies = [] then .done [.print "No technologies available.\n"]
  else .forEach client.printTechnology [] client.technologies

def agentCommand (arg : String) : Interpretation kind :=
  if arg = on then
    .done [.request (client.manager.ask (.registerAgent internalAgentPath)) (some (.agent arg))]
  else if arg = off then
    .done [.request (client.manager.ask (.unregisterAgent internalAgentPath)) (some (.agent arg))]
  else .done [.print ("Usage: agent " ++ on ++ "/" ++ off ++ "\n")]

/-- The line of a service in the list. -/
def serviceLine (service : ServProxy kind) : String :=
  let props := client.servProperties service 0
  (if props.favorite then "*" else "") ++ (if props.autoconnect then "A" else "") ++
    (if props.state = .online then "O" else if props.state = .ready then "R" else "") ++
    " " ++ props.name ++ " " ++ lastComponent (client.objPath service.object) ++ "\n"

def printService (service : ServProxy kind) : Interpretation kind :=
  let props := client.servProperties service 1
  let head :=
    [.print ("Service: " ++ props.name ++ " " ++ client.objPath service.object ++ "\n")]
  match props.print with
  | .ok text => .done (head ++ [.print text])
  | .error fault => ⟨head, some (.printing fault)⟩

def servicesCommand (arg : String) : Interpretation kind :=
  if client.services = [] then .done [.print "No services available.\n"]
  else if arg = "" then
    .done (client.services.map fun service => .print (client.serviceLine service))
  else client.withService arg ("Service not found: " ++ arg ++ "\n") client.printService

def scanTechnology (technology : TechProxy kind) : Interpretation kind :=
  let name := (client.techProperties technology 1).name
  .done [.print ("Scanning " ++ name ++ "...\n"),
    .request (technology.ask .scan) (some (.scan name))]

def scanCommand (arg : String) : Interpretation kind :=
  if arg = "" ∨ arg ∉ client.technologiesContainer then
    .done [.print ("Usage: scan <technology>\nAvailable technologies: " ++
      containerText client.technologiesContainer)]
  else client.withTechnology arg [] client.scanTechnology

/-- Switch a technology on or off unless it is that already. -/
def switchPower (enable : Bool) (before : List (Action kind)) (technology : TechProxy kind) :
    Interpretation kind :=
  let props := client.techProperties technology 1
  if props.powered ≠ enable then
    .done (before ++
      [.print ((if enable then "Enabling " else "Disabling ") ++ props.name ++ "...\n"),
        .request (technology.ask (.set (.setPowered enable)))
          (some (.power props.name enable))])
  else
    .done (before ++ [.print ("Technology " ++ props.name ++ " is already " ++
      (if enable then "enabled" else "disabled") ++ "\n")])

/-- `enable` and `disable`. -/
def powerCommand (enable : Bool) (arg : String) : Interpretation kind :=
  if arg = "" ∨ arg ∉ client.technologiesContainer then
    .done [.print ("Usage: enable/disable <technology>\nAvailable technologies:" ++
      containerText client.technologiesContainer)]
  else
    let head : List (Action kind) :=
      [.print ((if enable then "Enabling" else "Disabling") ++ " technology: " ++ arg ++ "\n")]
    client.withTechnology arg head (client.switchPower enable head)

/-- The arguments of `tether` are complete. -/
def tetherArguments (arg arg1 arg2 : String) : Bool :=
  arg ≠ "" ∧ arg ∈ client.technologiesContainer ∧ arg1 ≠ "" ∧ (arg1 = on ∨ arg1 = off) ∧
    ¬ (arg = techName .wifi ∧ arg1 = on ∧ arg2 = "")

/-- The last request of `tether`. -/
def enableTethering (technology : TechProxy kind) (arg arg1 : String)
    (before : List (Action kind)) : Interpretation kind :=
  let enable : Bool := arg1 = on
  .done (before ++
    [.print ((if enable then "Enabling" else "Disabling") ++ " tethering on " ++ arg ++ "\n"),
      .request (technology.ask (.set (.setTethering enable)))
        (some (.tether arg enable))])

/-- The passphrase is given and too short. -/
def shortPassphrase (passphrase : String) : Bool :=
  passphrase ≠ "" ∧ passphrase.utf8ByteSize < minWifiPassphraseLength

/-- The frequency is given as a number. -/
def isFrequency (frequency : String) : Bool :=
  frequency ≠ "" ∧ frequency.toList.all Char.isDigit

/-- The settings of an access point, before tethering is switched. -/
def tetherWifi (technology : TechProxy kind) (arg arg1 arg2 arg3 arg4 : String) :
    Interpretation kind :=
  let identifier : List (Action kind) :=
    [.request (technology.ask (.set (.setTetheringIdentifier arg2))) none]
  if shortPassphrase arg3 then
    .done (identifier ++ [.print ("Error setting wifi passphrase\n" ++
      "Passphrase must be at least 8 characters long\n")])
  else
    let passphrase : List (Action kind) :=
      if arg3 = "" then []
      else [.request (technology.ask (.set (.setTetheringPassphrase arg3))) none]
    if isFrequency arg4 then
      match stoi arg4 with
      | none => ⟨identifier ++ passphrase, some .outOfRange⟩
      | some frequency =>
          enableTethering technology arg arg1 (identifier ++ passphrase ++
            [.request (technology.ask (.set (.setTetheringFreq frequency))) none])
    else enableTethering technology arg arg1 (identifier ++ passphrase)

def tetherTechnology (arg arg1 arg2 arg3 arg4 : String) (technology : TechProxy kind) :
    Interpretation kind :=
  if arg = techName .wifi then tetherWifi technology arg arg1 arg2 arg3 arg4
  else enableTethering technology arg arg1 []

def tetherCommand (arg arg1 arg2 arg3 arg4 : String) : Interpretation kind :=
  if client.tetherArguments arg arg1 arg2 then
    client.withTechnology arg [] (tetherTechnology arg arg1 arg2 arg3 arg4)
  else
    .done [.print ("Usage: tether  <technology> " ++ on ++ "/" ++ off ++
      " <SSID> <PASSPHRASE> <FREQUENCY>\nAvailable technologies:" ++
      containerText client.technologiesContainer)]

/-- The service is connected. -/
def isConnected (state : ServState) : Bool := state = .ready ∨ state = .online

def connectService (connect : Bool) (service : ServProxy kind) : Interpretation kind :=
  let name := (client.servProperties service 1).name
  let state := (client.servProperties service 2).state
  if isConnected state ≠ connect then
    .done [.print ((if connect then "Connecting" else "Disconnecting") ++
        " to service: " ++ name ++ "\n"),
      .request (service.ask (if connect then .connect else .disconnect))
        (some (.connect name connect))]
  else
    .done [.print ("Service " ++ name ++ " is already " ++
      (if connect then " connected" else " disconnected") ++ "\n")]

/-- `connect` and `disconnect`. -/
def connectCommand (connect : Bool) (arg : String) : Interpretation kind :=
  if arg = "" then .done [.print "Usage: connect/disconnect <service_name>\n"]
  else
    client.withService arg ("Service " ++ arg ++ " not available.\n")
      (client.connectService connect)

def removeService (service : ServProxy kind) : Interpretation kind :=
  let name := (client.servProperties service 1).name
  .done [.print ("Removing service: " ++ name ++ "\n"),
    .request (service.ask .remove) (some (.remove name))]

def removeCommand (arg : String) : Interpretation kind :=
  if arg = "" then .done [.print "Usage: remove <service_name>\n"]
  else client.withService arg ("Service " ++ arg ++ " not available.\n") client.removeService

def unknownCommand (cmd : String) : Interpretation kind :=
  if cmd = "" then .done []
  else
    .done [.print ("Unknown command: " ++ cmd ++ ".\n Available commands: " ++
      containerText client.commandsContainer)]

/-- The branches over the command; `none` leaves the loop. -/
def dispatch (cmd arg arg1 arg2 arg3 arg4 : String) : Option (Interpretation kind) :=
  if cmd = Command.quit.name then none
  else if cmd = Command.technologies.name then some client.technologiesCommand
  else if cmd = Command.agent.name then some (client.agentCommand arg)
  else if cmd = Command.services.name then some (client.servicesCommand arg)
  else if cmd = Command.scan.name then some (client.scanCommand arg)
  else if cmd = Command.enable.name then some (client.powerCommand true arg)
  else if cmd = Command.disable.name then some (client.powerCommand false arg)
  else if cmd = Command.tethering.name then some (client.tetherCommand arg arg1 arg2 arg3 arg4)
  else if cmd = Command.connect.name then some (client.connectCommand true arg)
  else if cmd = Command.disconnect.name then some (client.connectCommand false arg)
  else if cmd = Command.remove.name then some (client.removeCommand arg)
  else some (client.unknownCommand cmd)

/-- What a line does. -/
def interpret (line : String) : Option (Interpretation kind) :=
  client.dispatch (argument line 0) (argument line 1) (argument line 2) (argument line 3)
    (argument line 4) (argument line 5)

end Client

end GConnman.Connmanctl
