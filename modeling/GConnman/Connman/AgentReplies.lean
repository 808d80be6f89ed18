import GConnman.Connman.Agent

/-!
# Replies to agent invocations

At every moment an invocation is in exactly one place: its worker runs, its
result is queued on the loop, it has been answered, or its handler has thrown.
Nothing moves it out of the last place, so an invocation ends with exactly one
reply unless a request-input handler throws on it.
-/

namespace GConnman.Connman

open GConnman.GLib GConnman.Foundation

/-- A reply to a call a worker took carries the result computed for that call. -/
def Received.Accepts (received : Received) (invocation : InvocationId) (answer : Reply) : Prop :=
  ∀ job, received.job? = some job →
    ∃ result, job.run invocation = .returned result ∧ answer = .ofResult result

namespace Agent

/-- The numbers of all invocations, place by place. -/
def places (agent : Agent) : List InvocationId :=
  agent.workers.map InputWorker.invocation ++
    (agent.queued.map InputResult.invocation ++
      (agent.replies.map Prod.fst ++ agent.abandoned))

/-- The call with this number arrived and satisfies a predicate. -/
def Recorded (received : List Received) (invocation : InvocationId) (pred : Received → Prop) :
    Prop :=
  ∃ record, received[invocation]? = some record ∧ pred record

theorem Recorded.append {received : List Received} {invocation : InvocationId}
    {pred : Received → Prop} (recorded : Recorded received invocation pred)
    (later : List Received) : Recorded (received ++ later) invocation pred := by
  obtain ⟨record, stored, holds⟩ := recorded
  obtain ⟨inside, -⟩ := List.getElem?_eq_some_iff.mp stored
  exact ⟨record, by rw [List.getElem?_append_left inside, stored], holds⟩

theorem recorded_last (received : List Received) {record : Received} {pred : Received → Prop}
    (holds : pred record) : Recorded (received ++ [record]) received.length pred :=
  ⟨record, List.getElem?_concat_length, holds⟩

/-- Every invocation is in one place, for a reason its call gives. -/
structure Accounted (agent : Agent) : Prop where
  census : Census agent.received.length agent.places
  working : ∀ worker ∈ agent.workers, Recorded agent.received worker.invocation fun received =>
    received.job? = some worker.job
  computed : ∀ completion ∈ agent.queued,
    Recorded agent.received completion.invocation fun received =>
      ∃ job, received.job? = some job ∧
        job.run completion.invocation = .returned completion.result
  answered : ∀ sent ∈ agent.replies, Recorded agent.received sent.1 fun received =>
    received.Accepts sent.1 sent.2
  failed : ∀ invocation ∈ agent.abandoned, Recorded agent.received invocation fun received =>
    received.handlerThrows invocation = true
  plain : agent.cancelCb = none ∧ agent.releaseCb = none

/-! ## One step -/

theorem accounted_start : Accounted {} where
  census := Census.empty
  working := List.forall_mem_nil _
  computed := List.forall_mem_nil _
  answered := List.forall_mem_nil _
  failed := List.forall_mem_nil _
  plain := ⟨rfl, rfl⟩

/-- A call that goes to a worker. -/
theorem accounted_work {agent : Agent} (accounted : Accounted agent) {call : AgentCall}
    {job : InputJob} (handed : (Received.mk call agent.requestInputCb).job? = some job) :
    Accounted { agent.receive call with
      workers := agent.workers ++ [⟨agent.received.length, job⟩] } where
  census := by
    change Census (agent.received ++ [_]).length _
    rw [List.length_append, List.length_singleton]
    refine accounted.census.add fun id => ?_
    simp only [places, receive, List.map_append, List.map_cons, List.map_nil, List.count_append]
    omega
  working := by
    intro worker member
    rcases List.mem_append.mp member with running | started
    · exact (accounted.working worker running).append _
    · rw [List.mem_singleton.mp started]
      exact recorded_last agent.received handed
  computed := fun completion member => (accounted.computed completion member).append _
  answered := fun sent member => (accounted.answered sent member).append _
  failed := fun invocation member => (accounted.failed invocation member).append _
  plain := accounted.plain

/-- A call that is answered at once. -/
theorem accounted_reply {agent : Agent} (accounted : Accounted agent) {call : AgentCall}
    (untaken : (Received.mk call agent.requestInputCb).job? = none) (answer : Reply) :
    Accounted ((agent.receive call).reply agent.received.length answer) where
  census := by
    change Census (agent.received ++ [_]).length _
    rw [List.length_append, List.length_singleton]
    refine accounted.census.add fun id => ?_
    simp only [places, receive, reply, List.map_append, List.map_cons, List.map_nil,
      List.count_append]
    omega
  working := fun worker member => (accounted.working worker member).append _
  computed := fun completion member => (accounted.computed completion member).append _
  answered := by
    intro sent member
    rcases List.mem_append.mp member with earlier | last
    · exact (accounted.answered sent earlier).append _
    · rw [List.mem_singleton.mp last]
      refine recorded_last agent.received fun job taken => ?_
      rw [untaken] at taken
      cases taken
  failed := fun invocation member => (accounted.failed invocation member).append _
  plain := accounted.plain

/-- A worker that ends. -/
theorem accounted_endWorker {agent next : Agent} (accounted : Accounted agent) {index : Nat}
    (ended : agent.endWorker index = some next) : Accounted next := by
  obtain ⟨worker, found, rfl⟩ := Option.map_eq_some_iff.mp ended
  have member := List.mem_of_getElem? found
  have removed := count_map_eraseIdx InputWorker.invocation found
  obtain ⟨record, stored, taken⟩ := accounted.working worker member
  dsimp only
  cases outcome : worker.job.run worker.invocation with
  | returned result =>
      dsimp only
      exact {
        census := by
          refine accounted.census.move fun id => ?_
          have once := removed id
          simp only [places, List.map_append, List.map_cons, List.map_nil, List.count_append]
          omega
        working := fun other running =>
          accounted.working other (List.mem_of_mem_eraseIdx running)
        computed := by
          intro completion isQueued
          rcases List.mem_append.mp isQueued with earlier | last
          · exact accounted.computed completion earlier
          · rw [List.mem_singleton.mp last]
            exact ⟨record, stored, worker.job, taken, outcome⟩
        answered := accounted.answered
        failed := accounted.failed
        plain := accounted.plain }
  | threw =>
      dsimp only
      exact {
        census := by
          refine accounted.census.move fun id => ?_
          have once := removed id
          simp only [places, List.count_append]
          omega
        working := fun other running =>
          accounted.working other (List.mem_of_mem_eraseIdx running)
        computed := accounted.computed
        answered := accounted.answered
        failed := by
          intro invocation isAbandoned
          rcases List.mem_append.mp isAbandoned with earlier | last
          · exact accounted.failed invocation earlier
          · rw [List.mem_singleton.mp last]
            refine ⟨record, stored, ?_⟩
            change (record.job?.any fun job => (job.run worker.invocation).isThrown) = true
            rw [taken, Option.any_some, outcome]
            rfl
        plain := accounted.plain }

/-- A closure that the loop runs. -/
theorem accounted_runQueued {agent next : Agent} (accounted : Accounted agent) {index : Nat}
    (ran : agent.runQueued index = some next) : Accounted next := by
  obtain ⟨completion, found, rfl⟩ := Option.map_eq_some_iff.mp ran
  have member := List.mem_of_getElem? found
  have removed := count_map_eraseIdx InputResult.invocation found
  obtain ⟨record, stored, job, taken, outcome⟩ := accounted.computed completion member
  exact {
    census := by
      refine accounted.census.move fun id => ?_
      have once := removed id
      simp only [places, reply, List.map_append, List.map_cons, List.map_nil, List.count_append]
      omega
    working := accounted.working
    computed := fun other isQueued => accounted.computed other (List.mem_of_mem_eraseIdx isQueued)
    answered := by
      intro sent isSent
      rcases List.mem_append.mp isSent with earlier | last
      · exact accounted.answered sent earlier
      · rw [List.mem_singleton.mp last]
        refine ⟨record, stored, fun other handed => ?_⟩
        rw [taken] at handed
        cases handed
        exact ⟨completion.result, outcome, rfl⟩
    failed := accounted.failed
    plain := accounted.plain }

theorem accounted_step {agent next : Agent} {event : AgentEvent} (accounted : Accounted agent)
    (stepped : step? agent event = some next) : Accounted next := by
  cases event with
  | setRequestInputHandler callback =>
      cases stepped
      exact { accounted with }
  | setReportErrorHandler callback =>
      cases stepped
      exact { accounted with }
  | methodCall call =>
      rcases dispatchMethodCall_cases stepped with ⟨job, handed, rfl⟩ | ⟨untaken, answer, rfl⟩
      · exact accounted_work accounted handed
      · exact accounted_reply accounted untaken answer
  | workerEnds index => exact accounted_endWorker accounted stepped
  | runQueued index => exact accounted_runQueued accounted stepped

theorem accounted_run {events : List AgentEvent} {agent : Agent}
    (run : machine.Run Machine.anyStep {} events agent) : Accounted agent :=
  run.invariant (fun _ _ _ accounted _ stepped => accounted_step accounted stepped)
    accounted_start

/-! ## Replies -/

/-- With every invocation in one place, an invocation has a reply exactly once or
not at all. -/
theorem repliesTo_of_sent {agent : Agent} (accounted : Accounted agent)
    {sent : InvocationId × Reply} (member : sent ∈ agent.replies) :
    agent.repliesTo sent.1 = [sent.2] := by
  have distinct : (agent.replies.map Prod.fst).Nodup := by
    have nodup := accounted.census.nodup
    unfold places at nodup
    exact nodup.of_append_right.of_append_right.of_append_left
  unfold repliesTo
  generalize agent.replies = replies at distinct member
  induction replies with
  | nil => cases member
  | cons first rest ih =>
      obtain ⟨fresh, remaining⟩ := List.nodup_cons.mp distinct
      rcases List.mem_cons.mp member with rfl | later
      · have none : rest.filter (fun other => decide (other.1 = sent.1)) = [] := by
          refine List.filter_eq_nil_iff.mpr fun other inRest same => fresh ?_
          exact List.mem_map.mpr ⟨other, inRest, of_decide_eq_true same⟩
        rw [List.filter_cons_of_pos (by simp), none]
        rfl
      · have different : first.1 ≠ sent.1 :=
          fun same => fresh (List.mem_map.mpr ⟨sent, later, same.symm⟩)
        rw [List.filter_cons_of_neg (by simpa using different)]
        exact ih remaining later

theorem repliesTo_of_unsent {agent : Agent} {invocation : InvocationId}
    (unsent : invocation ∉ agent.replies.map Prod.fst) : agent.repliesTo invocation = [] := by
  unfold repliesTo
  rw [List.map_eq_nil_iff, List.filter_eq_nil_iff]
  exact fun sent member same =>
    unsent (List.mem_map.mpr ⟨sent, member, of_decide_eq_true same⟩)

/-- A reply excludes that the handler threw. -/
theorem not_handlerThrows_of_accepts {received : Received} {invocation : InvocationId}
    {answer : Reply} (accepts : received.Accepts invocation answer) :
    received.handlerThrows invocation = false := by
  unfold Received.handlerThrows
  cases taken : received.job? with
  | none => rfl
  | some job =>
      obtain ⟨result, returned, -⟩ := accepts job taken
      rw [Option.any_some, returned]
      rfl

/-- An invocation that is finished has been answered or abandoned. -/
theorem sent_or_abandoned {agent : Agent} (accounted : Accounted agent)
    {invocation : InvocationId} (arrived : invocation < agent.received.length)
    (finished : agent.Finished invocation) :
    invocation ∈ agent.replies.map Prod.fst ∨ invocation ∈ agent.abandoned := by
  have somewhere := accounted.census.mem_iff.mpr arrived
  unfold places at somewhere
  rcases List.mem_append.mp somewhere with running | elsewhere
  · obtain ⟨worker, member, same⟩ := List.mem_map.mp running
    exact absurd same (finished.1 worker member)
  · rcases List.mem_append.mp elsewhere with isQueued | done
    · obtain ⟨completion, member, same⟩ := List.mem_map.mp isQueued
      exact absurd same (finished.2 completion member)
    · exact List.mem_append.mp done

/-- In every state of every run, every call can be dispatched, no invocation has
two replies, a reply to a call that a worker took carries the result of the
handler for the arguments of that very call, and an invocation that is finished
has its one reply exactly when no request-input handler has thrown on it. -/
theorem invocation_answered_iff {events : List AgentEvent} {agent : Agent}
    (run : machine.Run Machine.anyStep {} events agent) :
    (∀ call, (agent.dispatchMethodCall call).isSome) ∧
      ∀ invocation received, agent.received[invocation]? = some received →
        (agent.repliesTo invocation).length ≤ 1 ∧
          (∀ answer ∈ agent.repliesTo invocation, received.Accepts invocation answer) ∧
          (agent.Finished invocation →
            ((agent.repliesTo invocation).length = 1 ↔
              received.handlerThrows invocation = false)) := by
  have accounted := accounted_run run
  refine ⟨dispatchMethodCall_isSome accounted.plain, ?_⟩
  intro invocation received stored
  obtain ⟨arrived, -⟩ := List.getElem?_eq_some_iff.mp stored
  by_cases sent : invocation ∈ agent.replies.map Prod.fst
  · obtain ⟨answer, member, rfl⟩ := List.mem_map.mp sent
    obtain ⟨record, storedAgain, accepts⟩ := accounted.answered answer member
    rw [stored] at storedAgain
    cases storedAgain
    rw [repliesTo_of_sent accounted member]
    refine ⟨Nat.le_refl 1, List.forall_mem_singleton.mpr accepts, fun _ => ?_⟩
    exact iff_of_true rfl (not_handlerThrows_of_accepts accepts)
  · rw [repliesTo_of_unsent sent]
    refine ⟨Nat.zero_le 1, List.forall_mem_nil _, fun finished => ?_⟩
    have abandoned := (sent_or_abandoned accounted arrived finished).resolve_left sent
    obtain ⟨record, storedAgain, threw⟩ := accounted.failed invocation abandoned
    rw [stored] at storedAgain
    cases storedAgain
    refine iff_of_false Nat.zero_ne_one ?_
    rw [threw]
    decide

/-- A request for a passphrase. -/
def passphraseCall : AgentCall where
  methodName := "RequestInput"
  parameters := .tuple [.objectPath "/wifi", .dictionary
    [("Passphrase", .dictionary [("Requirement", .string "mandatory")])]]
  typed := rfl

/-- A handler that answers in the loop gives the request its one reply. -/
theorem passphraseCall_answered :
    ∃ agent, machine.Run Machine.anyStep {}
        [.setRequestInputHandler (some fun _ _ _ => .returned [("Passphrase", .string "secret")]),
          .methodCall passphraseCall, .workerEnds 0, .runQueued 0] agent ∧
      (agent.repliesTo 0).length = 1 := by
  have executes : (machine.exec? Machine.anyStep {}
      [.setRequestInputHandler (some fun _ _ _ => .returned [("Passphrase", .string "secret")]),
        .methodCall passphraseCall, .workerEnds 0, .runQueued 0]).any
      (fun agent => agent.Finished 0 ∧
        agent.received[0]?.any fun received => !received.handlerThrows 0) = true := by
    decide
  obtain ⟨agent, run, passes⟩ := Machine.Run.exists_of_exec executes
  obtain ⟨finished, recorded⟩ := of_decide_eq_true passes
  obtain ⟨received, stored, normal⟩ := (Option.any_eq_true _ _).mp recorded
  have answered := (invocation_answered_iff run).2 0 received stored
  exact ⟨agent, run, (answered.2.2 finished).mpr (by simpa using normal)⟩

/-- A handler that throws leaves the request without a reply. -/
theorem throwing_handler_unanswered :
    ¬ ∀ (events : List AgentEvent) (agent : Agent),
      machine.Run Machine.anyStep {} events agent →
        ∀ invocation < agent.received.length, agent.Finished invocation →
          (agent.repliesTo invocation).length = 1 := by
  intro claim
  have executes : (machine.exec? Machine.anyStep {}
      [.setRequestInputHandler (some fun _ _ _ => .threw), .methodCall passphraseCall,
        .workerEnds 0]).any
      (fun agent => 0 < agent.received.length ∧ agent.Finished 0 ∧
        (agent.repliesTo 0).length = 0) = true := by
    decide
  obtain ⟨agent, run, passes⟩ := Machine.Run.exists_of_exec executes
  obtain ⟨arrived, finished, unanswered⟩ := of_decide_eq_true passes
  rw [claim _ agent run 0 arrived finished] at unanswered
  cases unanswered

end Agent

end GConnman.Connman
