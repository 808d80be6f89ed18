import GConnman.Connmanctl.Crashes

/-!
# Requests of a line

Which requests a line leads to depends on its words and on what the client finds when it
looks.  They are all made on one object: the agent's manager, the first technology of the
given name, or the first service of the given name or path.
-/

namespace GConnman.Connmanctl

open GConnman.Connman GConnman.DBus GConnman.Foundation

namespace Client

variable {kind : Endpoint → Interface}

section

variable (first second : List (Action kind)) (text : String) (request : ObjectRequest kind)
  (report : Option Report)

@[simp] theorem requestsOf_nil : requestsOf ([] : List (Action kind)) = [] := rfl

@[simp] theorem requestsOf_append :
    requestsOf (first ++ second) = requestsOf first ++ requestsOf second :=
  List.filterMap_append

@[simp] theorem requestsOf_print : requestsOf (.print text :: first) = requestsOf first := rfl

@[simp] theorem requestsOf_request :
    requestsOf (.request request report :: first) = request :: requestsOf first := rfl

/-- What only prints makes no request. -/
theorem requestsOf_eq_nil {actions : List (Action kind)}
    (prints : ∀ action ∈ actions, ∃ text, action = .print text) : requestsOf actions = [] := by
  induction actions with
  | nil => rfl
  | cons action rest ih =>
      obtain ⟨⟨text, rfl⟩, others⟩ := List.forall_mem_cons.mp prints
      exact ih others

end

variable (client : Client kind)

/-! ## Tethering -/

/-- The setters that set up an access point before tethering is switched. -/
def settings (identifier passphrase frequency : String) : List (Setter .technology) :=
  .setTetheringIdentifier identifier ::
    ((if passphrase = "" then [] else [.setTetheringPassphrase passphrase]) ++
      if isFrequency frequency then (stoi frequency).toList.map .setTetheringFreq else [])

/-- The requests that call the setters. -/
def settersOn (technology : TechProxy kind) (setters : List (Setter .technology)) :
    List (ObjectRequest kind) :=
  setters.map fun setter => technology.ask (.set setter)

/-- The setters that `tether` calls on the technology it has found. -/
inductive TethersWith (arg arg1 arg2 arg3 arg4 : String) : List (Setter .technology) → Prop where
  | other (other : arg ≠ techName .wifi) :
      TethersWith arg arg1 arg2 arg3 arg4 [.setTethering (arg1 = on)]
  | short (wifi : arg = techName .wifi) (short : shortPassphrase arg3 = true) :
      TethersWith arg arg1 arg2 arg3 arg4 [.setTetheringIdentifier arg2]
  | large (wifi : arg = techName .wifi) (long : shortPassphrase arg3 = false)
      (large : LargeFrequency arg4) :
      TethersWith arg arg1 arg2 arg3 arg4 (settings arg2 arg3 arg4)
  | accessPoint (wifi : arg = techName .wifi) (long : shortPassphrase arg3 = false)
      (fits : ¬ LargeFrequency arg4) :
      TethersWith arg arg1 arg2 arg3 arg4
        (settings arg2 arg3 arg4 ++ [.setTethering (arg1 = on)])

theorem largeFrequency_iff {frequency : String} :
    LargeFrequency frequency ↔ isFrequency frequency = true ∧ stoi frequency = none := by
  rw [LargeFrequency, stoi_eq_none_iff]

/-- With a passphrase that is long enough, or none, everything is set up; only a frequency
that is too large keeps tethering from being switched. -/
theorem requestsOf_tetherWifi (technology : TechProxy kind) (arg arg1 arg2 : String)
    {arg3 arg4 : String} (long : shortPassphrase arg3 = false) :
    (¬ LargeFrequency arg4 → requestsOf (tetherWifi technology arg arg1 arg2 arg3 arg4).state =
      settersOn technology (settings arg2 arg3 arg4 ++ [.setTethering (arg1 = on)])) ∧
    (LargeFrequency arg4 → requestsOf (tetherWifi technology arg arg1 arg2 arg3 arg4).state =
      settersOn technology (settings arg2 arg3 arg4)) := by
  rw [largeFrequency_iff, tetherWifi, settings, long]
  have passphrase : requestsOf (if arg3 = "" then []
      else [.request (technology.ask (.set (.setTetheringPassphrase arg3))) none]) =
      settersOn technology (if arg3 = "" then [] else [.setTetheringPassphrase arg3]) := by
    split <;> rfl
  cases given : isFrequency arg4 with
  | false => simp [enableTethering, passphrase, settersOn]
  | true =>
      cases number : stoi arg4 with
      | none => simp [passphrase, settersOn]
      | some frequency => simp [enableTethering, passphrase, settersOn]

/-- What `tether` asks of the technology it has found. -/
theorem requestsOf_tetherTechnology_iff {technology : TechProxy kind}
    {arg arg1 arg2 arg3 arg4 : String} {requests : List (ObjectRequest kind)} :
    requestsOf (tetherTechnology arg arg1 arg2 arg3 arg4 technology).state = requests ↔
      ∃ setters, TethersWith arg arg1 arg2 arg3 arg4 setters ∧
        requests = settersOn technology setters := by
  constructor
  · rintro rfl
    by_cases wifi : arg = techName .wifi
    · rw [tetherTechnology, if_pos wifi]
      cases short : shortPassphrase arg3 with
      | true =>
          rw [tetherWifi, short]
          exact ⟨_, .short wifi short, rfl⟩
      | false =>
          obtain ⟨whole, part⟩ := requestsOf_tetherWifi technology arg arg1 arg2 short
          by_cases large : LargeFrequency arg4
          · exact ⟨_, .large wifi short large, part large⟩
          · exact ⟨_, .accessPoint wifi short large, whole large⟩
    · rw [tetherTechnology, if_neg wifi]
      exact ⟨_, .other wifi, rfl⟩
  · rintro ⟨setters, tethers, rfl⟩
    cases tethers with
    | other other =>
        rw [tetherTechnology, if_neg other]
        rfl
    | short wifi short =>
        rw [tetherTechnology, if_pos wifi, tetherWifi, short]
        rfl
    | large wifi long large =>
        rw [tetherTechnology, if_pos wifi]
        exact (requestsOf_tetherWifi technology arg arg1 arg2 long).2 large
    | accessPoint wifi long fits =>
        rw [tetherTechnology, if_pos wifi]
        exact (requestsOf_tetherWifi technology arg arg1 arg2 long).1 fits

/-! ## The other commands -/

/-- A command that looks for a technology makes the requests that it makes on the one it
finds. -/
theorem requestsOf_withTechnology_iff {arg : String} {before : List (Action kind)}
    {next : TechProxy kind → Interpretation kind} (silent : requestsOf before = [])
    {request : ObjectRequest kind} {requests : List (ObjectRequest kind)} :
    requestsOf (client.withTechnology arg before next).state = request :: requests ↔
      ∃ technology, client.Finds arg technology ∧
        requestsOf (next technology).state = request :: requests := by
  constructor
  · intro asks
    rcases client.withTechnology_cases arg before next with
      ⟨technology, finds, goes⟩ | ⟨-, stopped⟩ | ended
    · rw [goes] at asks
      exact ⟨technology, finds, asks⟩
    · rw [stopped, silent] at asks
      cases asks
    · rw [ended, Outcome.done_state, silent] at asks
      cases asks
  · rintro ⟨technology, finds, asks⟩
    rw [withTechnology_of_finds before next finds]
    exact asks

/-- The service that the argument names by its name or the end of its path; none before it
is named by it. -/
def FindsService (arg : String) (service : ServProxy kind) : Prop :=
  client.matchService arg service = true ∧
    ∃ before after, client.services = before ++ service :: after ∧
      ∀ other ∈ before, client.matchService arg other = false

theorem findsService_iff {arg : String} {service : ServProxy kind} :
    client.services.find? (client.matchService arg) = some service ↔
      client.FindsService arg service := by
  rw [List.find?_eq_some_iff_append, FindsService]
  simp

theorem requestsOf_withService_iff {arg missing : String}
    {next : ServProxy kind → Interpretation kind}
    {request : ObjectRequest kind} {requests : List (ObjectRequest kind)} :
    requestsOf (client.withService arg missing next).state = request :: requests ↔
      ∃ service, client.FindsService arg service ∧
        requestsOf (next service).state = request :: requests := by
  simp only [← findsService_iff, withService]
  cases client.services.find? (client.matchService arg) <;> simp

theorem requestsOf_agentCommand_iff {arg : String}
    {request : ObjectRequest kind} {requests : List (ObjectRequest kind)} :
    requestsOf (client.agentCommand arg).state = request :: requests ↔
      (arg = on ∧
          request :: requests = [client.manager.ask (.registerAgent internalAgentPath)]) ∨
        arg = off ∧
          request :: requests = [client.manager.ask (.unregisterAgent internalAgentPath)] := by
  have different : on ≠ off := by decide
  rw [agentCommand]
  split
  · rename_i registers
    subst registers
    simp [different, eq_comm]
  · rename_i other
    split
    · rename_i unregisters
      subst unregisters
      simp [other, eq_comm]
    · rename_i neither
      simp [other, neither]

theorem requestsOf_switchPower {enable : Bool} {before : List (Action kind)}
    (silent : requestsOf before = []) (technology : TechProxy kind) :
    requestsOf (client.switchPower enable before technology).state =
      if (client.techProperties technology 1).powered ≠ enable then
        [technology.ask (.set (.setPowered enable))]
      else [] := by
  by_cases differs : (client.techProperties technology 1).powered ≠ enable
  · simp only [switchPower, if_pos differs, Outcome.done_state, requestsOf_append, silent]
    rfl
  · simp only [switchPower, if_neg differs, Outcome.done_state, requestsOf_append, silent]
    rfl

theorem requestsOf_connectService (connect : Bool) (service : ServProxy kind) :
    requestsOf (client.connectService connect service).state =
      if isConnected (client.servProperties service 2).state ≠ connect then
        [service.ask (if connect then .connect else .disconnect)]
      else [] := by
  by_cases differs : isConnected (client.servProperties service 2).state ≠ connect
  · simp only [connectService, if_pos differs, Outcome.done_state]
    rfl
  · simp only [connectService, if_neg differs, Outcome.done_state]
    rfl

/-- Nothing but output. -/
def Silent (actions : List (Action kind)) : Prop := requestsOf actions = []

theorem silent_technologiesCommand : Silent client.technologiesCommand.state := by
  unfold technologiesCommand
  split
  · rfl
  · have start : Silent ([] : List (Action kind)) := rfl
    refine Outcome.forEach_invariant _ (fun before technology silent => ?_) start _
    rw [Silent] at silent
    rw [Silent, printTechnology]
    cases printed : (client.techProperties technology 0).print <;> simp [silent]

theorem requestsOf_servicesCommand (arg : String) :
    requestsOf (client.servicesCommand arg).state = [] := by
  unfold servicesCommand
  split
  · rfl
  · split
    · refine requestsOf_eq_nil fun action member => ?_
      obtain ⟨service, -, printed⟩ := List.mem_map.mp member
      exact ⟨_, printed.symm⟩
    · unfold withService
      split
      · rfl
      · rename_i service found
        rw [printService]
        cases (client.servProperties service 1).print <;> rfl

theorem requestsOf_unknownCommand (cmd : String) :
    requestsOf (client.unknownCommand cmd).state = [] := by
  unfold unknownCommand
  split <;> rfl

/-! ## The requests of a line -/

/-- The power of the technology that the argument names has been read to be the other. -/
def AsksPower (enable : Bool) (arg : String) (requests : List (ObjectRequest kind)) : Prop :=
  client.Lists arg ∧ ∃ technology, client.Finds arg technology ∧
    (client.techProperties technology 1).powered ≠ enable ∧
    requests = [technology.ask (.set (.setPowered enable))]

/-- The service that the argument names has been read to be in the other state. -/
def AsksConnection (connect : Bool) (arg : String) (requests : List (ObjectRequest kind)) : Prop :=
  arg ≠ "" ∧ ∃ service, client.FindsService arg service ∧
    isConnected (client.servProperties service 2).state ≠ connect ∧
    requests = [service.ask (if connect then .connect else .disconnect)]

/-- The requests that a command makes. -/
def AsksIn (words : List String) : Command → List (ObjectRequest kind) → Prop
  | .agent, requests =>
      (wordAt words 1 = on ∧
          requests = [client.manager.ask (.registerAgent internalAgentPath)]) ∨
        wordAt words 1 = off ∧
          requests = [client.manager.ask (.unregisterAgent internalAgentPath)]
  | .scan, requests =>
      client.Lists (wordAt words 1) ∧ ∃ technology, client.Finds (wordAt words 1) technology ∧
        requests = [technology.ask .scan]
  | .enable, requests => client.AsksPower true (wordAt words 1) requests
  | .disable, requests => client.AsksPower false (wordAt words 1) requests
  | .tethering, requests =>
      client.tetherArguments (wordAt words 1) (wordAt words 2) (wordAt words 3) = true ∧
        ∃ technology, client.Finds (wordAt words 1) technology ∧
          ∃ setters, TethersWith (wordAt words 1) (wordAt words 2) (wordAt words 3)
            (wordAt words 4) (wordAt words 5) setters ∧ requests = settersOn technology setters
  | .connect, requests => client.AsksConnection true (wordAt words 1) requests
  | .disconnect, requests => client.AsksConnection false (wordAt words 1) requests
  | .remove, requests =>
      wordAt words 1 ≠ "" ∧ ∃ service, client.FindsService (wordAt words 1) service ∧
        requests = [service.ask .remove]
  | .technologies, _ | .services, _ | .quit, _ => False

section

variable {request : ObjectRequest kind} {requests : List (ObjectRequest kind)}

theorem requestsOf_scanCommand_iff {arg : String} :
    requestsOf (client.scanCommand arg).state = request :: requests ↔
      client.Lists arg ∧ ∃ technology, client.Finds arg technology ∧
        request :: requests = [technology.ask .scan] := by
  rw [scanCommand, ← not_usage_iff]
  split
  · rename_i usage
    simp [usage]
  · rename_i usage
    rw [client.requestsOf_withTechnology_iff rfl]
    simp [usage, scanTechnology, eq_comm]

theorem requestsOf_powerCommand_iff {enable : Bool} {arg : String} :
    requestsOf (client.powerCommand enable arg).state = request :: requests ↔
      client.AsksPower enable arg (request :: requests) := by
  rw [powerCommand, AsksPower, ← not_usage_iff]
  split
  · rename_i usage
    simp [usage]
  · rename_i usage
    rw [client.requestsOf_withTechnology_iff rfl, and_iff_right usage]
    refine exists_congr fun technology => and_congr_right fun _ => ?_
    rw [client.requestsOf_switchPower rfl]
    split
    · rename_i differs
      simp [differs, eq_comm]
    · rename_i same
      simp [same]

theorem requestsOf_tetherCommand_iff {arg arg1 arg2 arg3 arg4 : String} :
    requestsOf (client.tetherCommand arg arg1 arg2 arg3 arg4).state = request :: requests ↔
      client.tetherArguments arg arg1 arg2 = true ∧
        ∃ technology, client.Finds arg technology ∧
          ∃ setters, TethersWith arg arg1 arg2 arg3 arg4 setters ∧
            request :: requests = settersOn technology setters := by
  rw [tetherCommand]
  split
  · rename_i complete
    rw [client.requestsOf_withTechnology_iff rfl, and_iff_right complete]
    exact exists_congr fun technology => and_congr_right fun _ =>
      requestsOf_tetherTechnology_iff
  · rename_i usage
    simp [usage]

theorem requestsOf_connectCommand_iff {connect : Bool} {arg : String} :
    requestsOf (client.connectCommand connect arg).state = request :: requests ↔
      client.AsksConnection connect arg (request :: requests) := by
  rw [connectCommand, AsksConnection]
  split
  · rename_i usage
    simp [usage]
  · rename_i given
    rw [requestsOf_withService_iff, and_iff_right given]
    refine exists_congr fun service => and_congr_right fun _ => ?_
    rw [requestsOf_connectService]
    split
    · rename_i differs
      simp [differs, eq_comm]
    · rename_i same
      simp [same]

theorem requestsOf_removeCommand_iff {arg : String} :
    requestsOf (client.removeCommand arg).state = request :: requests ↔
      arg ≠ "" ∧ ∃ service, client.FindsService arg service ∧
        request :: requests = [service.ask .remove] := by
  rw [removeCommand]
  split
  · rename_i usage
    simp [usage]
  · rename_i given
    rw [requestsOf_withService_iff, and_iff_right given]
    simp [removeService, eq_comm]

/-- The requests that the client makes for a line: which there are, on which objects, in
which order and on which conditions. -/
theorem interpret_requests_iff (line : String) (request : ObjectRequest kind)
    (requests : List (ObjectRequest kind)) :
    (∃ interpretation, client.interpret line = some interpretation ∧
        requestsOf interpretation.state = request :: requests) ↔
      ∃ command, Gives (lineWords line) command ∧
        client.AsksIn (lineWords line) command (request :: requests) := by
  rw [interpret_eq_run, run_eq]
  unfold Gives
  cases given : Command.ofName (wordAt (lineWords line) 0) with
  | none => simp [requestsOf_unknownCommand]
  | some command =>
      simp only [Option.some.injEq, exists_eq_left']
      cases command with
      | technologies =>
          have silent : requestsOf client.technologiesCommand.state = [] :=
            client.silent_technologiesCommand
          simp [AsksIn, silent]
      | services => simp [AsksIn, requestsOf_servicesCommand]
      | scan => simpa [AsksIn] using client.requestsOf_scanCommand_iff
      | enable => simpa [AsksIn] using client.requestsOf_powerCommand_iff
      | disable => simpa [AsksIn] using client.requestsOf_powerCommand_iff
      | connect => simpa [AsksIn] using client.requestsOf_connectCommand_iff
      | disconnect => simpa [AsksIn] using client.requestsOf_connectCommand_iff
      | remove => simpa [AsksIn] using client.requestsOf_removeCommand_iff
      | agent => simpa [AsksIn] using client.requestsOf_agentCommand_iff
      | quit => simp [AsksIn]
      | tethering => simpa [AsksIn] using client.requestsOf_tetherCommand_iff

end

end Client

end GConnman.Connmanctl
