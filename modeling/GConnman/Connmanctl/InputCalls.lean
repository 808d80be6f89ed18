import GConnman.Connman.AgentHandlers
import GConnman.Connman.InputRequest
import GConnman.Connman.Observers
import GConnman.Connman.ReportError
import GConnman.Connmanctl.Turns

/-!
# From the prompt to connman

connman asks the agent of the client for input.  The loop hands the call to a thread,
which looks the service up in the manager's list, asks the user for a passphrase when
that is what connman wants, and has the loop send the answer.  Meanwhile the list and
the records of the services change, other calls arrive, and the user types.

The handler takes many steps here, and shares the prompt with all others.  The model of
the agent has a function in its place; for every run there is one that fits.
-/

namespace GConnman.Connmanctl

open GConnman.Connman GConnman.DBus GConnman.GLib GConnman.Foundation

/-! ## The callback of the client -/

/-- The only callback that the client installs. -/
def clientCallbacks (passphrase : String) : RequestInputCallbacks where
  passphrase := some fun _ => (true, passphrase)

/-- The kinds of input for which the handler calls it. -/
def wantsPassphrase (fields : GVariant) : Bool :=
  match classifyInput (parseFields fields) with
  | .inputWpA2Passphrase | .inputWpA2PassphraseWpsAlternative => true
  | _ => false

/-- What the handler builds when the callback returns a passphrase. -/
def passphraseReply (passphrase : String) : List (String × GVariant) :=
  [("Passphrase", .newString passphrase)]

/-- The handler, all at once. -/
theorem requestInput_clientCallbacks (manager : Manager) (passphrase servicePath : String)
    (fields : GVariant) :
    ({ manager with requestInputCb := clientCallbacks passphrase }).requestInput servicePath
        fields =
      .dictionary (if (lookup manager.services servicePath).isSome ∧ wantsPassphrase fields then
        passphraseReply passphrase else []) := by
  unfold Manager.requestInput wantsPassphrase
  cases lookup manager.services servicePath with
  | none => rfl
  | some service => cases classifyInput (parseFields fields) <;> rfl

/-! ## The threads -/

/-- A call of the callback: the name it has read, and its number at the prompt. -/
structure PromptCall where
  name : String
  worker : WorkerId
  deriving DecidableEq, Repr

/-- Where the thread of an invocation is in the handler.  The stages record what the
thread has found and done. -/
inductive HandlerStage where
  | started
  /-- The service has been looked up. -/
  | found (service : Option Ref)
  /-- The callback has been entered. -/
  | asking (service : Ref) (call : PromptCall)
  | built (service : Option Ref) (call : Option PromptCall) (result : List (String × GVariant))

/-- The call of the callback that the thread has made. -/
def HandlerStage.call? : HandlerStage → Option PromptCall
  | started | found _ => none
  | asking _ call => some call
  | built _ call _ => call

/-- The client with its agent.  The function in the place of the agent's handler is not
looked at: its threads go through the stages. -/
structure InputState where
  manager : Manager
  agent : Agent
  stage : InvocationId → HandlerStage := fun _ => .started
  prompts : PromptState := {}

inductive InputEvent where
  | list (event : ListEvent)
  | methodCall (call : AgentCall)
  /-- The thread at this place of the agent takes its next step. -/
  | advance (index : Nat)
  /-- Something happens at the prompt. -/
  | prompt (event : PromptEvent)
  | runQueued (index : Nat)

namespace InputState

variable (state : InputState)

def goTo (invocation : InvocationId) (stage : HandlerStage) : InputState :=
  { state with stage := Function.update state.stage invocation stage }

/-- `getName` of `properties()` of a service. -/
def nameOf (service : Ref) : String := (state.manager.record service).elim "" ServProperties.name

/-- The callback has read the name. -/
def enterCallback (invocation : InvocationId) (service : Ref) : InputState :=
  let name := state.nameOf service
  { state with
    stage := Function.update state.stage invocation
      (.asking service ⟨name, state.prompts.workers.length⟩)
    prompts := { state.prompts with workers := state.prompts.workers ++ [{ name }] } }

/-- The result goes to the loop, and the thread ends. -/
def finish (index : Nat) (worker : InputWorker) (result : List (String × GVariant)) :
    InputState :=
  { state with
    agent := state.agent.finishWorker index worker result }

/-- The handler that `setup_agent` installs, step by step. -/
def advance (index : Nat) (worker : InputWorker) : Option InputState :=
  match state.stage worker.invocation with
  | .started =>
      some (state.goTo worker.invocation
        (.found (lookup state.manager.services worker.job.service)))
  | .found (some service) =>
      if wantsPassphrase worker.job.fields then some (state.enterCallback worker.invocation service)
      else some (state.goTo worker.invocation (.built (some service) none []))
  | .found none => some (state.goTo worker.invocation (.built none none []))
  | .asking service call =>
      (state.prompts.replies.find? fun reply => reply.worker = call.worker).map fun reply =>
        state.goTo worker.invocation
          (.built (some service) (some call) (passphraseReply reply.passphrase))
  | .built _ _ result => some (state.finish index worker result)

/-- New calls of the callback come from the threads only. -/
def prompt? : PromptEvent → Option PromptState
  | .arrive _ => none
  | event => state.prompts.step? event

def step? : InputEvent → Option InputState
  | .list event => (state.manager.handle event).next?.map fun manager => { state with manager }
  | .methodCall call => (state.agent.dispatchMethodCall call).map fun agent => { state with agent }
  | .advance index => state.agent.workers[index]?.bind (state.advance index)
  | .prompt event => (state.prompt? event).map fun prompts => { state with prompts }
  | .runQueued index => (state.agent.runQueued index).map fun agent => { state with agent }

def machine : Machine InputState InputEvent := ⟨step?⟩

/-- The client when it has set its callback.  The handler of ReportError answers false,
because the client installs no callback for errors. -/
def start (noop : CallbackId) (handler : RequestInputHandler) : InputState where
  manager := .constructed noop
  agent :=
    { requestInputCb := some handler
      reportErrorCb := some fun _ servicePath error =>
        ((Manager.constructed noop).reportError (fun _ => .threw) servicePath error).1 }

/-! ## What each event does -/

variable {state} {next : InputState} {event : InputEvent}

/-- The effect of an event. -/
inductive Effect (state : InputState) : InputEvent → InputState → Prop where
  | list {event : ListEvent} {manager : Manager}
      (handled : (state.manager.handle event).next? = some manager) :
      Effect state (.list event) { state with manager }
  | work {call : AgentCall} {job : InputJob}
      (handed : (Received.mk call state.agent.requestInputCb).job? = some job) :
      Effect state (.methodCall call)
        { state with agent := { state.agent.receive call with
            workers := state.agent.workers ++ [⟨state.agent.received.length, job⟩] } }
  | answer {call : AgentCall} (answer : Connman.Reply) :
      Effect state (.methodCall call)
        { state with agent := (state.agent.receive call).reply state.agent.received.length answer }
  | lookUp {index : Nat} {worker : InputWorker}
      (running : state.agent.workers[index]? = some worker)
      (stage : state.stage worker.invocation = .started) :
      Effect state (.advance index)
        (state.goTo worker.invocation
          (.found (lookup state.manager.services worker.job.service)))
  | enter {index : Nat} {worker : InputWorker} {service : Ref}
      (running : state.agent.workers[index]? = some worker)
      (stage : state.stage worker.invocation = .found (some service))
      (wants : wantsPassphrase worker.job.fields = true) :
      Effect state (.advance index) (state.enterCallback worker.invocation service)
  | skip {index : Nat} {worker : InputWorker} {service : Option Ref}
      (running : state.agent.workers[index]? = some worker)
      (stage : state.stage worker.invocation = .found service)
      (plain : service = none ∨ wantsPassphrase worker.job.fields = false) :
      Effect state (.advance index) (state.goTo worker.invocation (.built service none []))
  | leave {index : Nat} {worker : InputWorker} {service : Ref} {call : PromptCall}
      {reply : Reply} (running : state.agent.workers[index]? = some worker)
      (stage : state.stage worker.invocation = .asking service call)
      (given : reply ∈ state.prompts.replies) (own : reply.worker = call.worker) :
      Effect state (.advance index)
        (state.goTo worker.invocation
          (.built (some service) (some call) (passphraseReply reply.passphrase)))
  | finish {index : Nat} {worker : InputWorker} {service : Option Ref}
      {call : Option PromptCall} {result : List (String × GVariant)}
      (running : state.agent.workers[index]? = some worker)
      (stage : state.stage worker.invocation = .built service call result) :
      Effect state (.advance index) (state.finish index worker result)
  | prompt {event : PromptEvent} {prompts : PromptState}
      (stepped : state.prompts.step? event = some prompts) :
      Effect state (.prompt event) { state with prompts }
  | runQueued {index : Nat} {agent : Agent} (ran : state.agent.runQueued index = some agent) :
      Effect state (.runQueued index) { state with agent }

theorem effect_of_advance {index : Nat} {worker : InputWorker}
    (running : state.agent.workers[index]? = some worker)
    (advanced : state.advance index worker = some next) :
    Effect state (.advance index) next := by
  unfold advance at advanced
  cases stage : state.stage worker.invocation with
  | started =>
      simp only [stage, Option.some.injEq] at advanced
      rw [← advanced]
      exact .lookUp running stage
  | found service =>
      cases service with
      | none =>
          simp only [stage, Option.some.injEq] at advanced
          rw [← advanced]
          exact .skip running stage (.inl rfl)
      | some service =>
          simp only [stage] at advanced
          split at advanced
          · rename_i wants
            cases advanced
            exact .enter running stage wants
          · rename_i plain
            cases advanced
            exact .skip running stage (.inr (Bool.eq_false_iff.mpr plain))
  | asking service call =>
      simp only [stage] at advanced
      obtain ⟨reply, given, rfl⟩ := Option.map_eq_some_iff.mp advanced
      have own := List.find?_some given
      exact .leave running stage (List.mem_of_find?_eq_some given) (of_decide_eq_true own)
  | built service call result =>
      simp only [stage, Option.some.injEq] at advanced
      rw [← advanced]
      exact .finish running stage

theorem step_of_prompt {event : PromptEvent} {prompts : PromptState}
    (stepped : state.prompt? event = some prompts) : state.prompts.step? event = some prompts := by
  cases event with
  | arrive name => cases stepped
  | ask | wake | recheck | hook | enter | close | look | fail | store => exact stepped

theorem effect_of_step (stepped : state.step? event = some next) : Effect state event next := by
  cases event with
  | list event =>
      obtain ⟨manager, handled, rfl⟩ := Option.map_eq_some_iff.mp stepped
      exact .list handled
  | methodCall call =>
      obtain ⟨agent, dispatched, rfl⟩ := Option.map_eq_some_iff.mp stepped
      rcases Agent.dispatchMethodCall_cases dispatched with
        ⟨job, handed, rfl⟩ | ⟨-, answer, rfl⟩
      · exact .work handed
      · exact .answer answer
  | advance index =>
      obtain ⟨worker, running, advanced⟩ := Option.bind_eq_some_iff.mp stepped
      exact effect_of_advance running advanced
  | prompt event =>
      obtain ⟨prompts, happened, rfl⟩ := Option.map_eq_some_iff.mp stepped
      exact .prompt (step_of_prompt happened)
  | runQueued index =>
      obtain ⟨agent, ran, rfl⟩ := Option.map_eq_some_iff.mp stepped
      exact .runQueued ran

/-! ## The handler as a function -/

/-- A thread that has built its result has gone through the handler. -/
theorem stage_of_step (stepped : state.step? event = some next) {invocation : InvocationId}
    {service : Option Ref} {call : Option PromptCall} {result : List (String × GVariant)}
    (built : state.stage invocation = .built service call result) :
    next.stage invocation = .built service call result := by
  have moved : ∀ {other : InvocationId} (stage : HandlerStage),
      state.stage other ≠ .built service call result →
        Function.update state.stage other stage invocation = .built service call result := by
    intro other stage early
    have different : invocation ≠ other := by
      rintro rfl
      exact early built
    rw [Function.update_of_ne different]
    exact built
  cases effect_of_step stepped with
  | lookUp running stage => exact moved _ (by rw [stage]; nofun)
  | enter running stage wants => exact moved _ (by rw [stage]; nofun)
  | skip running stage plain => exact moved _ (by rw [stage]; nofun)
  | leave running stage given own => exact moved _ (by rw [stage]; nofun)
  | list | work | answer | finish | prompt | runQueued => exact built

/-- The function that has the results the threads have come to. -/
def handler (state : InputState) : RequestInputHandler := fun invocation _ _ =>
  match state.stage invocation with
  | .built _ _ result => .returned result
  | _ => .threw

/-- The function has the results that the threads have come to. -/
def Agrees (handler : RequestInputHandler) (state : InputState) : Prop :=
  ∀ invocation service call result, state.stage invocation = .built service call result →
    ∀ servicePath fields, handler invocation servicePath fields = .returned result

theorem agrees_handler (state : InputState) : Agrees state.handler state := by
  intro invocation service call result built servicePath fields
  simp only [handler, built]

theorem built_of_handler {invocation : InvocationId} (servicePath : String) (fields : GVariant)
    {result : List (String × GVariant)}
    (returned : state.handler invocation servicePath fields = .returned result) :
    ∃ service call, state.stage invocation = .built service call result := by
  unfold handler at returned
  split at returned
  · rename_i service call own built
    cases returned
    exact ⟨service, call, built⟩
  · cases returned

theorem Agrees.before {function : RequestInputHandler} (agrees : Agrees function next)
    (stepped : state.step? event = some next) : Agrees function state :=
  fun invocation service call result built =>
    agrees invocation service call result (stage_of_step stepped built)

variable {noop : CallbackId} {unused : RequestInputHandler} {events : List InputEvent}
  {guard : InputState → InputEvent → Prop}

/-- What the agent does in a run, it does with every function that has the results of the
threads. -/
theorem exists_agent_run (run : machine.Run guard (start noop unused) events state)
    {function : RequestInputHandler} (agrees : Agrees function state) :
    ∃ agentEvents, Agent.machine.Run Machine.anyStep {} agentEvents
      (state.agent.withHandler function) := by
  induction run with
  | refl =>
      refine ⟨[.setRequestInputHandler (some function),
        .setReportErrorHandler (start noop unused).agent.reportErrorCb], ?_⟩
      exact (Machine.Run.single trivial rfl).tail trivial rfl
  | @tail events middle finish event before allowed stepped ih =>
      obtain ⟨agentEvents, agentRun⟩ := ih (agrees.before stepped)
      cases event with
      | list event =>
          obtain ⟨manager, -, rfl⟩ := Option.map_eq_some_iff.mp stepped
          exact ⟨agentEvents, agentRun⟩
      | methodCall call =>
          obtain ⟨agent, dispatched, rfl⟩ := Option.map_eq_some_iff.mp stepped
          refine ⟨agentEvents ++ [.methodCall call], agentRun.tail trivial ?_⟩
          exact (Agent.dispatchMethodCall_withHandler call).trans (by rw [dispatched]; rfl)
      | advance index =>
          have effect : Effect middle (.advance index) finish := effect_of_step stepped
          cases effect with
          | finish running stage =>
              refine ⟨agentEvents ++ [.workerEnds index], agentRun.tail trivial ?_⟩
              exact Agent.endWorker_withHandler running (agrees _ _ _ _ stage _ _)
          | lookUp | enter | skip | leave => exact ⟨agentEvents, agentRun⟩
      | prompt event =>
          obtain ⟨prompts, -, rfl⟩ := Option.map_eq_some_iff.mp stepped
          exact ⟨agentEvents, agentRun⟩
      | runQueued index =>
          obtain ⟨agent, ran, rfl⟩ := Option.map_eq_some_iff.mp stepped
          refine ⟨agentEvents ++ [.runQueued index], agentRun.tail trivial ?_⟩
          exact (Agent.runQueued_withHandler index).trans (by rw [ran]; rfl)

theorem accounted_of_run (run : machine.Run guard (start noop unused) events state) :
    (state.agent.withHandler state.handler).Accounted := by
  obtain ⟨agentEvents, agentRun⟩ := exists_agent_run run (agrees_handler state)
  exact Agent.accounted_run agentRun

/-! ## The prompt -/

/-- The guard on a step as one on what happens at the prompt. -/
def AtPrompt (guard : PromptState → PromptEvent → Prop) (state : InputState) :
    InputEvent → Prop
  | .prompt event => guard state.prompts event
  | _ => True

instance (guard : PromptState → PromptEvent → Prop)
    [∀ prompts event, Decidable (guard prompts event)] (state : InputState) :
    (event : InputEvent) → Decidable (AtPrompt guard state event)
  | .prompt event => inferInstanceAs (Decidable (guard state.prompts event))
  | .list _ | .methodCall _ | .advance _ | .runQueued _ => .isTrue trivial

/-- What happens at the prompt in a run is a run of the prompt. -/
theorem exists_prompt_run {promptGuard : PromptState → PromptEvent → Prop}
    (arrivals : ∀ prompts name, promptGuard prompts (.arrive name))
    (run : machine.Run (AtPrompt promptGuard) (start noop unused) events state) :
    ∃ promptEvents, PromptState.machine.Run promptGuard {} promptEvents state.prompts := by
  induction run with
  | refl => exact ⟨[], .refl⟩
  | @tail events middle finish event before allowed stepped ih =>
      obtain ⟨promptEvents, promptRun⟩ := ih
      have effect : Effect middle event finish := effect_of_step stepped
      cases effect with
      | enter running stage wants =>
          exact ⟨promptEvents ++ [.arrive _], promptRun.tail (arrivals _ _) rfl⟩
      | @prompt event prompts happened =>
          exact ⟨promptEvents ++ [event], promptRun.tail allowed happened⟩
      | list | work | answer | lookUp | skip | leave | finish | runQueued =>
          exact ⟨promptEvents, promptRun⟩

/-- A later state of the prompt: names stay, and no reply is taken back. -/
structure PromptGrows (prompts later : PromptState) : Prop where
  names : ∀ {id : WorkerId} {name : String}, prompts.workers[id]?.map Worker.name = some name →
    later.workers[id]?.map Worker.name = some name
  replies : prompts.replies ⊆ later.replies

theorem promptGrows_of_step {prompts later : PromptState} {event : PromptEvent}
    (stepped : prompts.step? event = some later) : PromptGrows prompts later where
  names := PromptState.name_of_step stepped
  replies := by
    cases PromptState.effect_of_step stepped with
    | reply found phase lowered => exact List.subset_append_left _ _
    | arrive | ask | wake | wait | hook | enter | take | close | command | quit | fail | store =>
        exact List.Subset.refl _

/-- What a thread records is so. -/
def Justified (received : List Received) (prompts : PromptState) (invocation : InvocationId) :
    HandlerStage → Prop
  | .started | .found _ => True
  | .asking _ call =>
      Agent.Recorded received invocation (fun record => ∃ job, record.job? = some job ∧
        wantsPassphrase job.fields = true) ∧
      prompts.workers[call.worker]?.map Worker.name = some call.name
  | .built service none result =>
      Agent.Recorded received invocation (fun record => ∃ job, record.job? = some job ∧
        (service = none ∨ wantsPassphrase job.fields = false)) ∧
      result = []
  | .built service (some call) result =>
      Agent.Recorded received invocation (fun record => ∃ job, record.job? = some job ∧
        wantsPassphrase job.fields = true) ∧
      prompts.workers[call.worker]?.map Worker.name = some call.name ∧
      service.isSome = true ∧
      ∃ reply ∈ prompts.replies, reply.worker = call.worker ∧
        result = passphraseReply reply.passphrase

theorem Justified.grow {received : List Received} {prompts : PromptState}
    {invocation : InvocationId} {stage : HandlerStage}
    (justified : Justified received prompts invocation stage) {later : PromptState}
    (grows : PromptGrows prompts later) (more : List Received) :
    Justified (received ++ more) later invocation stage := by
  cases stage with
  | started => trivial
  | found service => trivial
  | asking service call => exact ⟨justified.1.append more, grows.names justified.2⟩
  | built service call result =>
      cases call with
      | none => exact ⟨justified.1.append more, justified.2⟩
      | some call =>
          obtain ⟨recorded, named, listed, reply, given, rest⟩ := justified
          exact ⟨recorded.append more, grows.names named, listed, reply, grows.replies given, rest⟩

/-- The thread that has made a call of the callback knows its name. -/
theorem Justified.named {received : List Received} {prompts : PromptState}
    {invocation : InvocationId} {stage : HandlerStage}
    (justified : Justified received prompts invocation stage) {call : PromptCall}
    (made : stage.call? = some call) :
    prompts.workers[call.worker]?.map Worker.name = some call.name := by
  cases stage with
  | started => cases made
  | found service => cases made
  | asking service own =>
      cases made
      exact justified.2
  | built service own result =>
      cases made
      exact justified.2.1

/-- The threads work on the calls they were started for, and do not share a call of the
callback. -/
structure Kept (state : InputState) : Prop where
  working : ∀ worker ∈ state.agent.workers,
    Agent.Recorded state.agent.received worker.invocation fun record =>
      record.job? = some worker.job
  stages : ∀ invocation,
    Justified state.agent.received state.prompts invocation (state.stage invocation)
  apart : ∀ {first second : InvocationId} {call other : PromptCall},
    (state.stage first).call? = some call → (state.stage second).call? = some other →
      call.worker = other.worker → first = second

theorem kept_start : Kept (start noop unused) := ⟨nofun, fun _ => trivial, nofun⟩

theorem PromptGrows.refl (prompts : PromptState) : PromptGrows prompts prompts := ⟨id, fun _ => id⟩

/-- A thread goes on to a stage it can justify.  A call it makes is new. -/
theorem Kept.goTo (kept : Kept state) {invocation : InvocationId} {stage : HandlerStage}
    (justified : Justified state.agent.received state.prompts invocation stage)
    (own : ∀ {other call mine}, other ≠ invocation → (state.stage other).call? = some call →
      stage.call? = some mine → call.worker ≠ mine.worker) :
    Kept (state.goTo invocation stage) where
  working := kept.working
  stages other := by
    by_cases same : other = invocation
    · subst same
      simpa [InputState.goTo] using justified
    · simpa [InputState.goTo, Function.update_of_ne same] using kept.stages other
  apart := by
    intro first second call other made madeToo same
    by_cases here : first = invocation
    · by_cases there : second = invocation
      · rw [here, there]
      · simp only [InputState.goTo, here, Function.update_self] at made
        simp only [InputState.goTo, Function.update_of_ne there] at madeToo
        exact absurd same.symm (own there madeToo made)
    · simp only [InputState.goTo, Function.update_of_ne here] at made
      by_cases there : second = invocation
      · simp only [InputState.goTo, there, Function.update_self] at madeToo
        exact absurd same (own here made madeToo)
      · simp only [InputState.goTo, Function.update_of_ne there] at madeToo
        exact kept.apart made madeToo same

/-- Something happens at the prompt. -/
theorem Kept.prompt (kept : Kept state) {prompts : PromptState}
    (grows : PromptGrows state.prompts prompts) : Kept { state with prompts } where
  working := kept.working
  stages invocation := by
    simpa using (kept.stages invocation).grow grows []
  apart := kept.apart

/-- What the call of a thread wants, recorded with the call. -/
theorem Kept.recorded (kept : Kept state) {index : Nat} {worker : InputWorker}
    (running : state.agent.workers[index]? = some worker) {pred : InputJob → Prop}
    (holds : pred worker.job) :
    Agent.Recorded state.agent.received worker.invocation fun record =>
      ∃ job, record.job? = some job ∧ pred job := by
  obtain ⟨record, stored, taken⟩ := kept.working worker (List.mem_of_getElem? running)
  exact ⟨record, stored, worker.job, taken, holds⟩

theorem Kept.step (kept : Kept state) (stepped : state.step? event = some next) : Kept next := by
  cases effect_of_step stepped with
  | list handled => exact ⟨kept.working, kept.stages, kept.apart⟩
  | @work call job handed =>
      refine ⟨fun worker member => ?_, fun invocation =>
        (kept.stages invocation).grow (.refl _) _, kept.apart⟩
      rcases List.mem_append.mp member with before | last
      · exact (kept.working worker before).append _
      · rw [List.mem_singleton.mp last]
        exact Agent.recorded_last state.agent.received handed
  | answer answer =>
      exact ⟨fun worker member => (kept.working worker member).append _, fun invocation =>
        (kept.stages invocation).grow (.refl _) _, kept.apart⟩
  | lookUp running stage => exact kept.goTo trivial nofun
  | @enter index worker service running stage wants =>
      have arrived : state.prompts.step? (.arrive (state.nameOf service)) = some _ := rfl
      have here : (state.prompts.workers ++ [({ name := state.nameOf service } : Worker)])[
          state.prompts.workers.length]?.map Worker.name = some (state.nameOf service) := by
        simp
      refine (kept.prompt (promptGrows_of_step arrived)).goTo
        ⟨kept.recorded running wants, here⟩ ?_
      intro other call mine _ made new same
      cases new
      -- every other call is one the prompt knows of
      have known := (kept.stages other).named made
      rw [same, List.getElem?_eq_none (Nat.le_refl _)] at known
      cases known
  | skip running stage plain => exact kept.goTo ⟨kept.recorded running plain, rfl⟩ nofun
  | @leave index worker service call reply running stage given own =>
      have asked := kept.stages worker.invocation
      rw [stage] at asked
      refine kept.goTo ⟨asked.1, asked.2, rfl, reply, given, own, rfl⟩ ?_
      intro other theirs mine different made same shared
      cases same
      exact different (kept.apart made (by rw [stage]; rfl) shared)
  | finish running stage =>
      exact ⟨fun worker member => kept.working worker (List.mem_of_mem_eraseIdx member),
        kept.stages, kept.apart⟩
  | prompt happened => exact kept.prompt (promptGrows_of_step happened)
  | runQueued ran =>
      obtain ⟨completion, -, rfl⟩ := Option.map_eq_some_iff.mp ran
      exact ⟨kept.working, kept.stages, kept.apart⟩

theorem kept_of_run (run : machine.Run guard (start noop unused) events state) : Kept state :=
  run.invariant (fun _ _ _ kept _ stepped => kept.step stepped) kept_start

/-! ## What connman is told -/

/-- What a call for input is answered with. -/
inductive Relayed (state : InputState) (invocation : InvocationId) (fields : GVariant) :
    Connman.Reply → Prop where
  /-- The service was not listed, or no passphrase was wanted. -/
  | nothing {service : Option Ref} (built : state.stage invocation = .built service none [])
      (plain : service = none ∨ wantsPassphrase fields = false) :
      Relayed state invocation fields (.ofResult [])
  /-- A line that was taken for a passphrase after the call had asked for one. -/
  | passphrase {service : Ref} {call : PromptCall} {reply : Reply}
      (built : state.stage invocation =
        .built (some service) (some call) (passphraseReply reply.passphrase))
      (wants : wantsPassphrase fields = true)
      (named : state.prompts.workers[call.worker]?.map Worker.name = some call.name)
      (given : reply ∈ state.prompts.replies) (own : reply.worker = call.worker)
      (handsOver : PromptState.HandsOver state.prompts.answers reply) :
      Relayed state invocation fields (.ofResult (passphraseReply reply.passphrase))

/-- The stages come to what the handler does at once, on every manager that has the service
the thread has found under the path, with a callback that returns the passphrase. -/
theorem Relayed.eq_requestInput {invocation : InvocationId} {fields : GVariant}
    {answer : Connman.Reply} (relayed : Relayed state invocation fields answer) :
    ∃ service call result passphrase, state.stage invocation = .built service call result ∧
      ∀ (manager : Manager) (servicePath : String),
        lookup manager.services servicePath = service →
          answer = .value (some (.tuple
            [({ manager with requestInputCb := clientCallbacks passphrase }).requestInput
              servicePath fields])) := by
  cases relayed with
  | nothing built plain =>
      refine ⟨_, none, [], "", built, fun manager servicePath found => ?_⟩
      rw [requestInput_clientCallbacks, found, if_neg]
      · rfl
      · rintro ⟨listed, wants⟩
        rcases plain with absent | other
        · rw [absent] at listed
          cases listed
        · rw [other] at wants
          cases wants
  | @passphrase service call reply built wants named given own handsOver =>
      refine ⟨_, some call, _, reply.passphrase, built, fun manager servicePath found => ?_⟩
      rw [requestInput_clientCallbacks, found, if_pos ⟨rfl, wants⟩]
      rfl

/-- The answer to a call that a thread took is what the thread has built. -/
theorem exists_built (accounted : (state.agent.withHandler state.handler).Accounted)
    {invocation : InvocationId} {record : Received} {job : InputJob}
    (stored : state.agent.received[invocation]? = some record) (taken : record.job? = some job)
    {answer : Connman.Reply} (sent : (invocation, answer) ∈ state.agent.replies) :
    ∃ service call result, state.stage invocation = .built service call result ∧
      answer = .ofResult result := by
  obtain ⟨other, storedToo, accepts⟩ := accounted.answered (invocation, answer) sent
  obtain ⟨before, found, rfl⟩ := Option.map_eq_some_iff.mp
    ((List.getElem?_map ..).symm.trans storedToo)
  rw [stored] at found
  cases found
  obtain ⟨result, returned, rfl⟩ := accepts { job with callback := state.handler } (by
    rw [Received.job?_withHandler, taken]
    rfl)
  obtain ⟨service, call, built⟩ := built_of_handler job.service job.fields returned
  exact ⟨service, call, result, built, rfl⟩

/-- What the thread has built is what the call is to be answered with. -/
theorem Kept.relayed (kept : Kept state) (handed : PromptState.Handed state.prompts)
    {invocation : InvocationId} {record : Received} {job : InputJob}
    (stored : state.agent.received[invocation]? = some record) (taken : record.job? = some job)
    {service : Option Ref} {call : Option PromptCall} {result : List (String × GVariant)}
    (built : state.stage invocation = .built service call result) :
    Relayed state invocation job.fields (.ofResult result) := by
  have justified := kept.stages invocation
  rw [built] at justified
  cases call with
  | none =>
      obtain ⟨⟨other, storedToo, its, takenToo, plain⟩, rfl⟩ := justified
      rw [stored] at storedToo
      cases storedToo
      rw [taken] at takenToo
      cases takenToo
      exact .nothing built plain
  | some call =>
      obtain ⟨⟨other, storedToo, its, takenToo, wants⟩, named, listed, reply, given, own, rfl⟩ :=
        justified
      rw [stored] at storedToo
      cases storedToo
      rw [taken] at takenToo
      cases takenToo
      obtain ⟨service, rfl⟩ := Option.isSome_iff_exists.mp listed
      exact .passphrase built wants named given own (handed.replies reply given)

theorem mem_repliesTo {agent : Agent} {invocation : InvocationId} {answer : Connman.Reply} :
    answer ∈ agent.repliesTo invocation ↔ (invocation, answer) ∈ agent.replies := by
  simp [Agent.repliesTo]

variable {promptGuard : PromptState → PromptEvent → Prop} {invocation : InvocationId}
  {record : Received} {job : InputJob}

theorem length_repliesTo_le (accounted : (state.agent.withHandler state.handler).Accounted) :
    (state.agent.repliesTo invocation).length ≤ 1 := by
  by_cases sent : invocation ∈ (state.agent.withHandler state.handler).replies.map Prod.fst
  · obtain ⟨answer, member, rfl⟩ := List.mem_map.mp sent
    exact Nat.le_of_eq (congrArg List.length (Agent.repliesTo_of_sent accounted member))
  · exact (congrArg List.length (Agent.repliesTo_of_unsent sent)).trans_le (Nat.zero_le 1)

theorem relayed_of_run (arrivals : ∀ prompts name, promptGuard prompts (.arrive name))
    (run : machine.Run (AtPrompt promptGuard) (start noop unused) events state)
    (stored : state.agent.received[invocation]? = some record) (taken : record.job? = some job)
    {answer : Connman.Reply} (replied : answer ∈ state.agent.repliesTo invocation) :
    Relayed state invocation job.fields answer := by
  obtain ⟨promptEvents, promptRun⟩ := exists_prompt_run arrivals run
  obtain ⟨service, call, result, built, rfl⟩ :=
    exists_built (accounted_of_run run) stored taken (mem_repliesTo.mp replied)
  exact (kept_of_run run).relayed (PromptState.handed_of_run promptRun) stored taken built

/-- In every run, connman gets at most one answer to a call for input: nothing, if the
service was not listed when the thread looked it up or no passphrase was wanted; otherwise
the passphrase alone, which is a line that was taken for one after the call had asked, and
for this call exactly if no other has asked in the meantime. -/
theorem passphrases_relayed
    (run : machine.Run Machine.anyStep (start noop unused) events state)
    (stored : state.agent.received[invocation]? = some record) (taken : record.job? = some job) :
    (state.agent.repliesTo invocation).length ≤ 1 ∧
      ∀ answer ∈ state.agent.repliesTo invocation,
        Relayed state invocation job.fields answer := by
  have prompting : machine.Run (AtPrompt Machine.anyStep) (start noop unused) events state :=
    run.mono fun _ event _ => by cases event <;> trivial
  exact ⟨length_repliesTo_le (accounted_of_run run), fun answer replied =>
    relayed_of_run (fun _ _ => trivial) prompting stored taken replied⟩

/-- connman asks for the passphrase of a service. -/
def passphraseCallFor (servicePath : String) : AgentCall where
  methodName := "RequestInput"
  parameters := .tuple [.objectPath servicePath, .dictionary
    [("Passphrase", .dictionary [("Requirement", .string "mandatory")])]]
  typed := rfl

/-- Two services are listed, and connman asks for both passphrases. -/
def bothAsked : List InputEvent :=
  [.list (.getServicesReply (some
      [("/home", [("Name", .string "Home")]), ("/guest", [("Name", .string "Guest")])])),
    .methodCall (passphraseCallFor "/home"), .methodCall (passphraseCallFor "/guest"),
    .advance 0, .advance 0, .advance 1, .advance 1]

/-- The user enters a line at the prompt for one of the calls of the callback. -/
def answeredAt (worker : WorkerId) (line : String) : List InputEvent :=
  [.prompt .hook, .prompt (.enter line), .prompt .look, .prompt .store, .prompt (.recheck worker)]

/-- When both ask before the user answers, connman gets one line with both calls. -/
theorem passphrases_relayed_both :
    ∃ (state : InputState) (job : InputJob), job.service = "/home" ∧
      state.prompts.entered = [(some "Guest", "secret")] ∧
      (state.agent.repliesTo 0).length = 1 ∧
      ∀ answer ∈ state.agent.repliesTo 0, Relayed state 0 job.fields answer := by
  have executes : (machine.exec? Machine.anyStep (start 0 fun _ _ _ => .threw)
      (bothAsked ++ [.prompt (.ask 0), .prompt (.ask 1)] ++ answeredAt 0 "secret" ++
        [.advance 0, .advance 0, .runQueued 0])).any
      (fun state => state.prompts.entered = [(some "Guest", "secret")] ∧
        (state.agent.repliesTo 0).length = 1 ∧
        state.agent.received[0]?.any fun record =>
          record.job?.any fun job => job.service = "/home") = true := by
    decide
  obtain ⟨state, run, passes⟩ := Machine.Run.exists_of_exec executes
  obtain ⟨entered, answered, recorded⟩ := of_decide_eq_true passes
  obtain ⟨record, stored, named⟩ := (Option.any_eq_true _ _).mp recorded
  obtain ⟨job, taken, service⟩ := (Option.any_eq_true _ _).mp named
  exact ⟨state, job, of_decide_eq_true service, entered, answered,
    (passphrases_relayed run stored taken).2⟩

/-! ## One call after the other -/

/-- In every run in which no call asks while another one waits, connman gets with each call
that asks the line that was taken for this very call, under the name that its service had
when it asked. -/
theorem relayed_in_turn
    (run : machine.Run (AtPrompt PromptState.Alone) (start noop unused) events state)
    (stored : state.agent.received[invocation]? = some record) (taken : record.job? = some job)
    {answer : Connman.Reply} (replied : answer ∈ state.agent.repliesTo invocation) :
    (state.stage invocation).call? = none ∧ answer = .ofResult [] ∨
      ∃ call given, (state.stage invocation).call? = some call ∧
        given ∈ state.prompts.answers ∧ given.asker = call.worker ∧ given.name = call.name ∧
        answer = .ofResult (passphraseReply given.line) ∧
        ∀ other theirs, (state.stage other).call? = some theirs →
          given.asker = theirs.worker → other = invocation := by
  obtain ⟨promptEvents, promptRun⟩ := exists_prompt_run (fun _ _ => trivial) run
  have inTurn := PromptState.keptInTurn_of_run promptRun
  cases relayed_of_run (fun _ _ => trivial) run stored taken replied with
  | nothing built plain => exact .inl ⟨by rw [built]; rfl, rfl⟩
  | @passphrase service call reply built wants named given own handsOver =>
      have made : (state.stage invocation).call? = some call := by
        rw [built]
        rfl
      have returned : (reply.worker, reply.passphrase) ∈ PromptState.replied state.prompts :=
        List.mem_map_of_mem given
      obtain ⟨answer, taken, same⟩ := List.mem_map.mp (inTurn.inTurn.replied_prefix.subset returned)
      obtain ⟨asker, line⟩ := Prod.mk.inj same
      have name := inTurn.named.answers answer taken
      rw [asker, own, named] at name
      refine .inr ⟨call, answer, made, taken, asker.trans own, (Option.some.inj name).symm, ?_, ?_⟩
      · rw [line]
      · intro other theirs madeToo shared
        exact (kept_of_run run).apart madeToo made (shared.symm.trans (asker.trans own))

/-- When the second asks after the first has its answer, each gets its own. -/
theorem relayed_in_turn_both :
    ∃ state : InputState,
      state.prompts.entered = [(some "Home", "home123"), (some "Guest", "guest456")] ∧
      ∃ answer ∈ state.agent.repliesTo 1,
        (state.stage 1).call? = none ∧ answer = .ofResult [] ∨
          ∃ call given, (state.stage 1).call? = some call ∧
            given ∈ state.prompts.answers ∧ given.asker = call.worker ∧ given.name = call.name ∧
            answer = .ofResult (passphraseReply given.line) ∧
            ∀ other theirs, (state.stage other).call? = some theirs →
              given.asker = theirs.worker → other = 1 := by
  have executes : (machine.exec? (AtPrompt PromptState.Alone) (start 0 fun _ _ _ => .threw)
      (bothAsked ++ [.prompt (.ask 0)] ++ answeredAt 0 "home123" ++ [.prompt (.ask 1)] ++
        answeredAt 1 "guest456" ++ [.advance 1, .advance 1, .runQueued 0])).any
      (fun state =>
        state.prompts.entered = [(some "Home", "home123"), (some "Guest", "guest456")] ∧
        0 < (state.agent.repliesTo 1).length ∧
        state.agent.received[1]?.any fun record => record.job?.isSome) = true := by
    decide
  obtain ⟨state, run, passes⟩ := Machine.Run.exists_of_exec executes
  obtain ⟨entered, answered, recorded⟩ := of_decide_eq_true passes
  obtain ⟨record, stored, taken⟩ := (Option.any_eq_true _ _).mp recorded
  obtain ⟨job, taken⟩ := Option.isSome_iff_exists.mp taken
  obtain ⟨answer, replied⟩ := List.exists_mem_of_length_pos answered
  exact ⟨state, entered, answer, replied, relayed_in_turn run stored taken replied⟩

end InputState

end GConnman.Connmanctl
