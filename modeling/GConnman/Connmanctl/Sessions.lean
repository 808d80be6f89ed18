import GConnman.Connmanctl.Requests

/-!
# Sessions

The main thread carries out one line after the other, until a line is `quit` or raises.
Its requests go the way of all requests, to connman and back into the records, so that the
records end as the last line that sets a property says.
-/

namespace GConnman.Connmanctl

open GConnman.GLib GConnman.Connman GConnman.DBus GConnman.Foundation
open WriteState Client

variable {kind : Endpoint → Interface} {interface : Interface}

/-- The record of a proxy. -/
def ProxyOf.record (proxy : ProxyOf kind interface) (state : WriteState kind) :
    interface.Properties :=
  (congrArg Interface.Properties proxy.kind_eq).mp (state.proxies proxy.object).props

/-- The lines of a session, each with what the client finds when it is carried out. -/
abbrev Session (kind : Endpoint → Interface) := List (Client kind × String)

/-- The requests of one line. -/
def lineRequests (entry : Client kind × String) : List (ObjectRequest kind) :=
  match entry.1.interpret entry.2 with
  | none => []
  | some interpretation => requestsOf interpretation.state

/-- The line is `quit`, or an exception leaves it. -/
def lineEnds (entry : Client kind × String) : Bool :=
  match entry.1.interpret entry.2 with
  | none => true
  | some interpretation => interpretation.raised.isSome

theorem lineEnds_iff {client : Client kind} {line : String} :
    lineEnds (client, line) = true ↔ quits line = true ∨
      ∃ interpretation, client.interpret line = some interpretation ∧
        interpretation.raised ≠ none := by
  rw [← client.interpret_eq_none_iff, lineEnds]
  cases client.interpret line with
  | none => simp
  | some interpretation => simp [Option.isSome_iff_ne_none]

/-- The lines that are carried out. -/
def carriedOut : Session kind → Session kind
  | [] => []
  | entry :: rest => if lineEnds entry then [entry] else entry :: carriedOut rest

/-- The requests of a session, in order. -/
def sessionRequests (session : Session kind) : List (ObjectRequest kind) :=
  (carriedOut session).flatMap lineRequests

/-- The session is what this thread has made its requests for. -/
def Carries (thread : UserThread) (session : Session kind) (state : WriteState kind) : Prop :=
  CallQueue.callsOf thread state.queue.made =
    (sessionRequests session).map fun request => (thread, request)

variable {loop thread : UserThread} {finish : WriteState kind} {events : List (WriteEvent kind)}
  {values : Endpoint → List (String × GVariant)}
  {origin : (object : Endpoint) → DBusProxy (kind object).Properties} {session : Session kind}

section

variable {client : Client kind} {line : String} {technology : TechProxy kind}

end

/-- The manager and one technology. -/
def managerAndWifi : Endpoint → Interface
  | 0 => .manager
  | _ + 1 => .technology

/-- A client that knows the technology. -/
def wifiClient : Client managerAndWifi where
  manager := ⟨0, rfl⟩
  technologies := [⟨1, rfl⟩]
  services := []
  objPath _ := "/wifi"
  techProperties _ _ := { type := .assigned .wifi }
  servProperties _ _ := {}
  technologiesContainer := ["wifi"]
  commandsContainer := Command.all.map Command.name

end GConnman.Connmanctl
