import GConnman.GLib.Variant
import GConnman.Foundation.Census
import GConnman.Foundation.TransitionSystem

/-!
# The agent and its invocations

Method calls on the agent are dispatched on the loop thread.  A RequestInput call
is handed to a worker thread, which runs the handler and passes its result back
to the loop in a closure; every other call is answered at once.  Invocations are
numbered in the order they arrive.  Handlers may do anything that depends on the
invocation they run for, including to throw.
-/

namespace GConnman.Connman

open GConnman.GLib GConnman.Foundation

/-- The number of an invocation in the order of arrival. -/
abbrev InvocationId := Nat

/-- How a handler ends. -/
inductive HandlerOutcome (Value : Type) where
  | returned (value : Value)
  | threw

namespace HandlerOutcome

variable {Value : Type}

def isThrown : HandlerOutcome Value → Bool
  | returned _ => false
  | threw => true

end HandlerOutcome

/-- A handler of RequestInput builds a dictionary from a service path and fields. -/
abbrev RequestInputHandler :=
  InvocationId → String → GVariant → HandlerOutcome (List (String × GVariant))

abbrev ReportErrorHandler := InvocationId → String → String → HandlerOutcome Bool

/-- The handlers of Cancel and Release. -/
abbrev PlainHandler := InvocationId → HandlerOutcome Unit

/-- The signature check GDBus makes against the introspection data before it
calls the agent. -/
def signatureMatches (methodName : String) (parameters : GVariant) : Bool :=
  if methodName = "RequestInput" then
    match parameters with
    | .tuple [.objectPath _, .array (.dictEntry .string .variant) _] => true
    | _ => false
  else if methodName = "ReportError" then
    match parameters with
    | .tuple [.objectPath _, .string _] => true
    | _ => false
  else true

theorem requestInput_parameters {parameters : GVariant}
    (typed : signatureMatches "RequestInput" parameters = true) :
    ∃ service items, parameters =
      .tuple [.objectPath service, .array (.dictEntry .string .variant) items] := by
  unfold signatureMatches at typed
  rw [if_pos rfl] at typed
  split at typed
  · exact ⟨_, _, rfl⟩
  · cases typed

theorem reportError_parameters {parameters : GVariant}
    (typed : signatureMatches "ReportError" parameters = true) :
    ∃ service error, parameters = .tuple [.objectPath service, .string error] := by
  unfold signatureMatches at typed
  rw [if_neg (by decide), if_pos rfl] at typed
  split at typed
  · exact ⟨_, _, rfl⟩
  · cases typed

/-- A method call whose parameters passed the signature check. -/
structure AgentCall where
  methodName : String
  parameters : GVariant
  typed : signatureMatches methodName parameters = true

/-- What a worker thread captures: a copy of the handler, and its arguments. -/
structure InputJob where
  callback : RequestInputHandler
  service : String
  fields : GVariant

def InputJob.run (job : InputJob) (invocation : InvocationId) :
    HandlerOutcome (List (String × GVariant)) :=
  job.callback invocation job.service job.fields

/-- A call with the request-input handler in force when it arrived. -/
structure Received where
  call : AgentCall
  requestInputCb : Option RequestInputHandler

namespace Received

/-- What the call hands to a worker, if it does. -/
def job? (received : Received) : Option InputJob :=
  if received.call.methodName = "RequestInput" then
    received.requestInputCb.bind fun callback =>
      ((received.call.parameters.getChildValue 0).bind GVariant.getString).bind fun service =>
        (received.call.parameters.getChildValue 1).map fun fields => ⟨callback, service, fields⟩
  else none

/-- The handler of RequestInput takes the call and throws on it. -/
def handlerThrows (received : Received) (invocation : InvocationId) : Bool :=
  received.job?.any fun job => (job.run invocation).isThrown

end Received

inductive Reply where
  /-- The values of a normal reply; `none` is the empty body. -/
  | value (parameters : Option GVariant)
  | dbusError (name message : String)
  /-- `G_IO_ERROR_NOT_SUPPORTED`. -/
  | notSupported (message : String)

/-- The reply the closure of a worker sends. -/
def Reply.ofResult (result : List (String × GVariant)) : Reply :=
  .value (some (.tuple [.dictionary result]))

structure InputWorker where
  invocation : InvocationId
  job : InputJob

/-- A closure on the loop that completes an invocation. -/
structure InputResult where
  invocation : InvocationId
  result : List (String × GVariant)

/-- The agent, its worker threads, the closures queued on the loop and everything
that has been sent.  `abandoned` keeps the invocations whose handler has thrown. -/
structure Agent where
  requestInputCb : Option RequestInputHandler := none
  cancelCb : Option PlainHandler := none
  releaseCb : Option PlainHandler := none
  reportErrorCb : Option ReportErrorHandler := none
  received : List Received := []
  workers : List InputWorker := []
  queued : List InputResult := []
  replies : List (InvocationId × Reply) := []
  abandoned : List InvocationId := []

namespace Agent

/-- The next call arrives. -/
def receive (agent : Agent) (call : AgentCall) : Agent :=
  { agent with received := agent.received ++ [⟨call, agent.requestInputCb⟩] }

def reply (agent : Agent) (invocation : InvocationId) (answer : Reply) : Agent :=
  { agent with replies := agent.replies ++ [(invocation, answer)] }

/-- Cancel and Release: an exception of the handler is not caught and ends the program. -/
def replyAfter (agent : Agent) (invocation : InvocationId) (callback : Option PlainHandler) :
    Option Agent :=
  match callback.map fun handler => handler invocation with
  | some HandlerOutcome.threw => none
  | _ => some (agent.reply invocation (.value none))

/-- `dispatch_method_call`.  A null string ends the program. -/
def dispatchMethodCall (agent : Agent) (call : AgentCall) : Option Agent :=
  let invocation := agent.received.length
  if call.methodName = "RequestInput" ∧ agent.requestInputCb.isSome then
    (Received.mk call agent.requestInputCb).job?.map fun job =>
      { agent.receive call with workers := agent.workers ++ [⟨invocation, job⟩] }
  else if call.methodName = "Cancel" then
    (agent.receive call).replyAfter invocation agent.cancelCb
  else if call.methodName = "Release" then
    (agent.receive call).replyAfter invocation agent.releaseCb
  else if call.methodName = "ReportError" then
    ((call.parameters.getChildValue 0).bind GVariant.getString).bind fun service =>
      ((call.parameters.getChildValue 1).bind GVariant.getString).map fun error =>
        let retry :=
          match agent.reportErrorCb.map fun callback => callback invocation service error with
          | some (HandlerOutcome.returned retry) => retry
          | _ => false
        (agent.receive call).reply invocation
          (if retry then .dbusError "net.connman.Agent.Error.Retry" "Retry" else .value none)
  else some ((agent.receive call).reply invocation (.notSupported "Unknown method"))

/-- A worker thread ends: its result is queued, or the exception is logged. -/
def endWorker (agent : Agent) (index : Nat) : Option Agent :=
  agent.workers[index]?.map fun worker =>
    let rest := { agent with workers := agent.workers.eraseIdx index }
    match worker.job.run worker.invocation with
    | .returned result => { rest with queued := agent.queued ++ [⟨worker.invocation, result⟩] }
    | .threw => { rest with abandoned := agent.abandoned ++ [worker.invocation] }

/-- The loop runs a queued closure. -/
def runQueued (agent : Agent) (index : Nat) : Option Agent :=
  agent.queued[index]?.map fun completion =>
    { agent with queued := agent.queued.eraseIdx index }.reply completion.invocation
      (.ofResult completion.result)

end Agent

inductive AgentEvent where
  | setRequestInputHandler (callback : Option RequestInputHandler)
  | setReportErrorHandler (callback : Option ReportErrorHandler)
  | methodCall (call : AgentCall)
  | workerEnds (index : Nat)
  | runQueued (index : Nat)

namespace Agent

def step? (agent : Agent) : AgentEvent → Option Agent
  | .setRequestInputHandler callback => some { agent with requestInputCb := callback }
  | .setReportErrorHandler callback => some { agent with reportErrorCb := callback }
  | .methodCall call => agent.dispatchMethodCall call
  | .workerEnds index => agent.endWorker index
  | .runQueued index => agent.runQueued index

def machine : Machine Agent AgentEvent := ⟨step?⟩

/-- The replies an invocation has got. -/
def repliesTo (agent : Agent) (invocation : InvocationId) : List Reply :=
  (agent.replies.filter fun sent => sent.1 = invocation).map Prod.snd

/-- No worker runs for the invocation and no closure is queued for it. -/
def Finished (agent : Agent) (invocation : InvocationId) : Prop :=
  (∀ worker ∈ agent.workers, worker.invocation ≠ invocation) ∧
    ∀ completion ∈ agent.queued, completion.invocation ≠ invocation

instance (agent : Agent) (invocation : InvocationId) : Decidable (agent.Finished invocation) :=
  inferInstanceAs (Decidable (_ ∧ _))

end Agent

namespace Agent

/-! ## Dispatching -/

theorem job?_of_untaken {call : AgentCall} {requestInputCb : Option RequestInputHandler}
    (untaken : ¬ (call.methodName = "RequestInput" ∧ requestInputCb.isSome)) :
    (Received.mk call requestInputCb).job? = none := by
  unfold Received.job?
  split
  · rename_i named
    cases requestInputCb with
    | none => rfl
    | some callback => exact absurd ⟨named, rfl⟩ untaken
  · rfl

/-- What dispatching a call does: it goes to a worker, or it is answered at once. -/
theorem dispatchMethodCall_cases {agent next : Agent} {call : AgentCall}
    (dispatched : agent.dispatchMethodCall call = some next) :
    (∃ job, (Received.mk call agent.requestInputCb).job? = some job ∧
      next = { agent.receive call with
        workers := agent.workers ++ [⟨agent.received.length, job⟩] }) ∨
    ((Received.mk call agent.requestInputCb).job? = none ∧
      ∃ answer, next = (agent.receive call).reply agent.received.length answer) := by
  unfold dispatchMethodCall at dispatched
  by_cases taken : call.methodName = "RequestInput" ∧ agent.requestInputCb.isSome
  · rw [if_pos taken] at dispatched
    obtain ⟨job, handed, rfl⟩ := Option.map_eq_some_iff.mp dispatched
    exact .inl ⟨job, handed, rfl⟩
  · rw [if_neg taken] at dispatched
    refine .inr ⟨job?_of_untaken taken, ?_⟩
    have plainReply : ∀ callback,
        (agent.receive call).replyAfter agent.received.length callback = some next →
          ∃ answer, next = (agent.receive call).reply agent.received.length answer := by
      intro callback replied
      unfold replyAfter at replied
      split at replied
      · cases replied
      · cases replied
        exact ⟨_, rfl⟩
    split at dispatched
    · exact plainReply _ dispatched
    split at dispatched
    · exact plainReply _ dispatched
    split at dispatched
    · obtain ⟨service, -, answered⟩ := Option.bind_eq_some_iff.mp dispatched
      obtain ⟨error, -, rfl⟩ := Option.map_eq_some_iff.mp answered
      exact ⟨_, rfl⟩
    · cases dispatched
      exact ⟨_, rfl⟩

/-- The parameters of a RequestInput call can be read. -/
theorem job?_isSome {call : AgentCall} {requestInputCb : Option RequestInputHandler}
    (taken : call.methodName = "RequestInput" ∧ requestInputCb.isSome) :
    (Received.mk call requestInputCb).job?.isSome := by
  obtain ⟨named, installed⟩ := taken
  obtain ⟨callback, rfl⟩ := Option.isSome_iff_exists.mp installed
  obtain ⟨methodName, parameters, typed⟩ := call
  cases named
  obtain ⟨service, items, rfl⟩ := requestInput_parameters typed
  rfl

/-- No call ends the program while no handler of Cancel and Release is installed. -/
theorem dispatchMethodCall_isSome {agent : Agent}
    (plain : agent.cancelCb = none ∧ agent.releaseCb = none) (call : AgentCall) :
    (agent.dispatchMethodCall call).isSome := by
  unfold dispatchMethodCall
  rw [plain.1, plain.2]
  split
  · rename_i taken
    rw [Option.isSome_map]
    exact job?_isSome taken
  split
  · rfl
  split
  · rfl
  split
  · rename_i named
    obtain ⟨methodName, parameters, typed⟩ := call
    cases named
    obtain ⟨service, error, rfl⟩ := reportError_parameters typed
    rfl
  · rfl

end Agent

end GConnman.Connman
