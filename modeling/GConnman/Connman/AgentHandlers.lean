import GConnman.Connman.AgentReplies

/-!
# Handlers that take their time

The agent has a function for the handler of RequestInput, which a thread runs in one
step.  A thread that takes many steps comes to a result of its own.  It is the result of
the function that has it at this invocation, and until then the agent does not depend on
the function.
-/

namespace GConnman.Connman

open GConnman.GLib GConnman.Foundation

/-- A thread of the agent has come to a result. -/
def Agent.finishWorker (agent : Agent) (index : Nat) (worker : InputWorker)
    (result : List (String × GVariant)) : Agent :=
  { agent with
    workers := agent.workers.eraseIdx index
    queued := agent.queued ++ [⟨worker.invocation, result⟩] }

/-- The call with another function for the handler. -/
def Received.withHandler (handler : RequestInputHandler) (received : Received) : Received :=
  { received with requestInputCb := received.requestInputCb.map fun _ => handler }

def InputWorker.withHandler (handler : RequestInputHandler) (worker : InputWorker) :
    InputWorker :=
  { worker with job := { worker.job with callback := handler } }

/-- The agent with another function for the handler of its calls and threads. -/
def Agent.withHandler (handler : RequestInputHandler) (agent : Agent) : Agent :=
  { agent with
    requestInputCb := agent.requestInputCb.map fun _ => handler
    received := agent.received.map (Received.withHandler handler)
    workers := agent.workers.map (InputWorker.withHandler handler) }

variable {handler : RequestInputHandler} {agent next : Agent}

theorem Received.job?_withHandler (received : Received) :
    (received.withHandler handler).job? =
      received.job?.map fun job => { job with callback := handler } := by
  obtain ⟨call, requestInputCb⟩ := received
  unfold withHandler job?
  split
  · cases requestInputCb with
    | none => rfl
    | some callback =>
        simp only [Option.map_some, Option.bind_some, Option.map_bind, Function.comp_def,
          Option.map_map]
  · rfl

namespace Agent

theorem receive_withHandler (call : AgentCall) :
    (agent.withHandler handler).receive call = (agent.receive call).withHandler handler := by
  simp [withHandler, receive, Received.withHandler]

theorem replyAfter_withHandler (invocation : InvocationId) (callback : Option PlainHandler) :
    (agent.withHandler handler).replyAfter invocation callback =
      (agent.replyAfter invocation callback).map (withHandler handler) := by
  unfold replyAfter
  split <;> rfl

theorem dispatchMethodCall_withHandler (call : AgentCall) :
    (agent.withHandler handler).dispatchMethodCall call =
      (agent.dispatchMethodCall call).map (withHandler handler) := by
  have arrived : (agent.withHandler handler).received.length = agent.received.length :=
    List.length_map _
  have installed : (agent.withHandler handler).requestInputCb.isSome =
      agent.requestInputCb.isSome := Option.isSome_map
  have taken : (Received.mk call (agent.withHandler handler).requestInputCb).job? =
      (Received.mk call agent.requestInputCb).job?.map fun job =>
        { job with callback := handler } :=
    Received.job?_withHandler ⟨call, agent.requestInputCb⟩
  unfold dispatchMethodCall
  simp only [arrived, installed, taken, receive_withHandler]
  split_ifs
  · rw [Option.map_map, Option.map_map]
    congr 1
    funext job
    simp [withHandler, receive, InputWorker.withHandler]
  · exact replyAfter_withHandler _ _
  · exact replyAfter_withHandler _ _
  · rw [Option.map_bind]
    congr 1
    funext service
    simp only [Function.comp_def, Option.map_map]
    rfl
  · rfl

theorem runQueued_withHandler (index : Nat) :
    (agent.withHandler handler).runQueued index =
      (agent.runQueued index).map (withHandler handler) := by
  unfold runQueued
  rw [Option.map_map]
  rfl

theorem endWorker_withHandler {index : Nat} {worker : InputWorker}
    {result : List (String × GVariant)} (running : agent.workers[index]? = some worker)
    (returns : handler worker.invocation worker.job.service worker.job.fields =
      .returned result) :
    (agent.withHandler handler).endWorker index =
      some ((agent.finishWorker index worker result).withHandler handler) := by
  have here : (agent.withHandler handler).workers[index]? = some (worker.withHandler handler) := by
    simp [withHandler, running]
  have ends : (worker.withHandler handler).job.run (worker.withHandler handler).invocation =
      .returned result := returns
  rw [endWorker, here, Option.map_some]
  simp only [ends]
  simp [withHandler, finishWorker, List.eraseIdx_map, InputWorker.withHandler]

end Agent

end GConnman.Connman
