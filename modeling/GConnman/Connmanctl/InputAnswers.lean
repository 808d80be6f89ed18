import Mathlib.Algebra.Order.BigOperators.Group.List
import Mathlib.Algebra.Order.Ring.Nat
import GConnman.Connmanctl.InputCalls

/-!
# Every call for input is answered

As long as the main thread stays in its loop and the user enters a line when there is a
prompt for one, the threads of all calls come to an end, and the loop answers every call,
in whatever order they go on.
-/

namespace GConnman.Connmanctl

open GConnman.Connman GConnman.DBus GConnman.GLib GConnman.Foundation

/-! ## What has returned has replied -/

namespace PromptState

variable {state next : PromptState} {event : PromptEvent}

/-- The callback of a worker that has returned has left its reply. -/
def Returned (state : PromptState) : Prop :=
  ∀ id worker, state.workers[id]? = some worker → worker.phase = .returned →
    ∃ reply ∈ state.replies, reply.worker = id

/-- The worker comes to another phase. -/
theorem Returned.set (returned : Returned state) {id : WorkerId} {changed : Worker}
    {replies : List Reply} (more : state.replies ⊆ replies)
    (own : changed.phase = .returned → ∃ reply ∈ replies, reply.worker = id)
    (next : PromptState) (workers : next.workers = state.workers.set id changed)
    (replied : next.replies = replies) : Returned next := by
  intro other worker found phase
  rw [workers, List.getElem?_set] at found
  rw [replied]
  split at found
  · rename_i same
    split at found
    · cases found
      rw [← same]
      exact own phase
    · cases found
  · obtain ⟨reply, given, its⟩ := returned other worker found phase
    exact ⟨reply, more given, its⟩

theorem Returned.step (returned : Returned state) (stepped : state.step? event = some next) :
    Returned next := by
  cases effect_of_step stepped with
  | arrive name =>
      intro id worker found phase
      rcases getElem?_concat_eq_some_iff.mp found with before | ⟨-, rfl⟩
      · exact returned id worker before phase
      · cases phase
  | ask found phase =>
      exact returned.set (List.Subset.refl _) (fun same => by cases same) _ rfl rfl
  | wake found phase =>
      exact returned.set (List.Subset.refl _) (fun same => by cases same) _ rfl rfl
  | wait found phase raised =>
      exact returned.set (List.Subset.refl _) (fun same => by cases same) _ rfl rfl
  | reply found phase lowered =>
      exact returned.set (List.subset_append_left _ _)
        (fun _ => ⟨_, List.mem_append_right _ List.mem_cons_self, rfl⟩) _ rfl rfl
  | store stores =>
      intro id worker found phase
      obtain ⟨before, here, rfl⟩ := Option.map_eq_some_iff.mp
        ((List.getElem?_map ..).symm.trans found)
      refine returned id before here ?_
      unfold Worker.notify at phase
      split at phase
      · cases phase
      · exact phase
  | hook | enter | take | close | command | quit | fail => exact returned

theorem returned_of_run {guard : PromptState → PromptEvent → Prop} {events : List PromptEvent}
    (run : machine.Run guard {} events state) : Returned state :=
  run.invariant (fun _ _ _ returned _ stepped => returned.step stepped) nofun

/-! ## Calls that are still to come to the prompt -/

/-- What is left to do at the prompt when so many more calls will come to it. -/
def leftWith (coming : Nat) (state : PromptState) : Nat :=
  (turns state + 2 * coming) * (state.workers.length + coming + 3) + within state

theorem leftWith_mono {coming more : Nat} (le : coming ≤ more) :
    leftWith coming state ≤ leftWith more state :=
  Nat.add_le_add_right (Nat.mul_le_mul (by omega) (by omega)) _

/-- A call that comes has been counted. -/
theorem leftWith_arrive (coming : Nat) (name : String) :
    leftWith coming { state with workers := state.workers ++ [{ name }] } =
      leftWith (coming + 1) state := by
  simp only [leftWith, turns, within, countIn, mainLeft, List.countP_append, List.length_append]
  simp
  congr 1 <;> omega

theorem leftWith_lt (raised : Raised state) (answering : Answering state event)
    (stepped : state.step? event = some next) (coming : Nat) :
    leftWith coming next < leftWith coming state := by
  obtain ⟨length, lowers⟩ := lowers_of_step raised answering stepped
  have bounded := within_le next
  unfold leftWith
  rw [length] at bounded ⊢
  rcases lowers with fewer | ⟨same, less⟩
  · exact left_lt_of_turns (by omega) (by omega)
  · rw [same]
    exact Nat.add_lt_add_left less _

end PromptState

/-! ## Threads that go on -/

namespace HandlerStage

/-- The callback may still be entered. -/
@[simp] def coming : HandlerStage → Nat
  | started | found _ => 1
  | asking _ _ | built _ _ _ => 0

/-- The steps to the answer, those at the prompt apart. -/
@[simp] def ahead : HandlerStage → Nat
  | started => 5
  | found _ => 4
  | asking _ _ => 3
  | built _ _ _ => 2

end HandlerStage

namespace InputState

variable {state next : InputState} {event : InputEvent} {noop : CallbackId}
  {unused : RequestInputHandler} {events : List InputEvent}

/-- A weight of the stages, over all threads. -/
def total (weight : HandlerStage → Nat) (state : InputState) : Nat :=
  (state.agent.workers.map fun worker => weight (state.stage worker.invocation)).sum

variable {weight : HandlerStage → Nat} {index : Nat} {worker : InputWorker}
  {stage : HandlerStage}

theorem weight_goTo_le (le : weight stage ≤ weight (state.stage worker.invocation))
    (other : InputWorker) :
    weight ((state.goTo worker.invocation stage).stage other.invocation) ≤
      weight (state.stage other.invocation) := by
  by_cases same : other.invocation = worker.invocation
  · simpa [goTo, same] using le
  · simp [goTo, Function.update_of_ne same]

theorem total_goTo_le (le : weight stage ≤ weight (state.stage worker.invocation)) :
    total weight (state.goTo worker.invocation stage) ≤ total weight state :=
  List.sum_le_sum fun other _ => weight_goTo_le le other

theorem total_goTo_lt (running : state.agent.workers[index]? = some worker)
    (less : weight stage < weight (state.stage worker.invocation)) :
    total weight (state.goTo worker.invocation stage) < total weight state :=
  List.sum_lt_sum _ _ (fun other _ => weight_goTo_le less.le other)
    ⟨worker, List.mem_of_getElem? running, by simpa [goTo] using less⟩

theorem total_finish (running : state.agent.workers[index]? = some worker)
    (result : List (String × GVariant)) :
    total weight (state.finish index worker result) + weight (state.stage worker.invocation) =
      total weight state := by
  obtain ⟨inside, rfl⟩ := List.getElem?_eq_some_iff.mp running
  have perm := (List.getElem_cons_eraseIdx_perm inside).map fun worker =>
    weight (state.stage worker.invocation)
  rw [List.map_cons] at perm
  have sums := perm.sum_eq
  rw [List.sum_cons] at sums
  exact (Nat.add_comm _ _).trans sums

/-- What is left to do until every call is answered. -/
def left (state : InputState) : Nat :=
  PromptState.leftWith (total HandlerStage.coming state) state.prompts +
    (total HandlerStage.ahead state + state.agent.queued.length)

/-- No call arrives, the list stays, nobody wakes for nothing, and the user enters a line
only when somebody asks for one and leaves the input open. -/
def Answering (state : InputState) : InputEvent → Prop
  | .advance _ | .runQueued _ => True
  | .prompt event => PromptState.Answering state.prompts event
  | .list _ | .methodCall _ => False

theorem left_lt (raised : PromptState.Raised state.prompts) (answering : Answering state event)
    (stepped : state.step? event = some next) : left next < left state := by
  -- a thread that goes on leaves the prompt as it is, and no more calls will come to it
  have goesOn : ∀ {index : Nat} {worker : InputWorker} {stage : HandlerStage},
      state.agent.workers[index]? = some worker →
      stage.coming ≤ (state.stage worker.invocation).coming →
      stage.ahead < (state.stage worker.invocation).ahead →
        left (state.goTo worker.invocation stage) < left state := by
    intro index worker stage running coming ahead
    exact Nat.add_lt_add_of_le_of_lt (PromptState.leftWith_mono (total_goTo_le coming))
      (Nat.add_lt_add_right (total_goTo_lt running ahead) _)
  cases effect_of_step stepped with
  | list handled => cases answering
  | work handed => cases answering
  | answer answer => cases answering
  | lookUp running stage => exact goesOn running (by simp [stage]) (by simp [stage])
  | @enter index worker service running stage wants =>
      have enters : ∀ weight : HandlerStage → Nat,
          weight (.asking service ⟨state.nameOf service, state.prompts.workers.length⟩) <
            weight (.found (some service)) →
          total weight (state.enterCallback worker.invocation service) < total weight state :=
        fun weight less => total_goTo_lt running (by rw [stage]; exact less)
      refine Nat.add_lt_add_of_le_of_lt ?_ (Nat.add_lt_add_right (enters _ (by simp)) _)
      change PromptState.leftWith _ { state.prompts with
        workers := state.prompts.workers ++ [({ name := state.nameOf service } : Worker)] } ≤ _
      rw [PromptState.leftWith_arrive]
      exact PromptState.leftWith_mono (enters _ (by simp))
  | skip running stage plain => exact goesOn running (by simp [stage]) (by simp [stage])
  | leave running stage given own =>
      exact goesOn running (by simp [stage]) (by simp [stage])
  | @finish index worker service call result running stage =>
      have comes : total HandlerStage.coming (state.finish index worker result) +
          (state.stage worker.invocation).coming = total HandlerStage.coming state :=
        total_finish running result
      have goes : total HandlerStage.ahead (state.finish index worker result) +
          (state.stage worker.invocation).ahead = total HandlerStage.ahead state :=
        total_finish running result
      rw [stage] at comes goes
      refine Nat.add_lt_add_of_le_of_lt (PromptState.leftWith_mono (Nat.le_of_eq comes)) ?_
      change _ + (state.agent.queued ++ [_]).length < _
      rw [← goes, List.length_append, List.length_singleton, HandlerStage.ahead]
      omega
  | prompt happened =>
      exact Nat.add_lt_add_right (PromptState.leftWith_lt raised answering happened _) _
  | runQueued ran =>
      obtain ⟨completion, found, rfl⟩ := Option.map_eq_some_iff.mp ran
      have inside := (List.getElem?_eq_some_iff.mp found).1
      refine Nat.add_lt_add_left (Nat.add_lt_add_left ?_ _) _
      change (state.agent.queued.eraseIdx _).length < _
      rw [List.length_eraseIdx_of_lt inside]
      omega

/-! ## Until every call is answered -/

/-- No thread throws: the callback of the client does not. -/
theorem abandoned_of_step (stepped : state.step? event = some next) :
    next.agent.abandoned = state.agent.abandoned := by
  cases effect_of_step stepped with
  | runQueued ran =>
      obtain ⟨completion, -, rfl⟩ := Option.map_eq_some_iff.mp ran
      rfl
  | list | work | answer | lookUp | enter | skip | leave | finish | prompt => rfl

theorem abandoned_of_run {guard : InputState → InputEvent → Prop}
    (run : machine.Run guard (start noop unused) events state) : state.agent.abandoned = [] := by
  induction run with
  | refl => rfl
  | tail before allowed stepped ih => exact (abandoned_of_step stepped).trans ih

/-- What holds in every run. -/
structure Reached (state : InputState) : Prop where
  accounted : (state.agent.withHandler state.handler).Accounted
  kept : Kept state
  raised : PromptState.Raised state.prompts
  returned : PromptState.Returned state.prompts
  abandoned : state.agent.abandoned = []

theorem reached_of_run (run : machine.Run Machine.anyStep (start noop unused) events state) :
    Reached state := by
  have prompting : machine.Run (AtPrompt Machine.anyStep) (start noop unused) events state :=
    run.mono fun _ event _ => by cases event <;> trivial
  obtain ⟨promptEvents, promptRun⟩ := exists_prompt_run (fun _ _ => trivial) prompting
  exact ⟨accounted_of_run run, kept_of_run run, PromptState.raised_of_run promptRun,
    PromptState.returned_of_run promptRun, abandoned_of_run run⟩

/-- Every call has its answer. -/
def AllAnswered (state : InputState) : Prop :=
  ∀ invocation < state.agent.received.length, (state.agent.repliesTo invocation).length = 1

/-- When no thread runs and nothing is queued, every call has been answered. -/
theorem Reached.allAnswered (reached : Reached state) (idle : state.agent.workers = [])
    (empty : state.agent.queued = []) : AllAnswered state := by
  intro invocation arrived
  have finished : (state.agent.withHandler state.handler).Finished invocation :=
    ⟨by simp [Agent.withHandler, idle], by simp [Agent.withHandler, empty]⟩
  have arrivedToo : invocation < (state.agent.withHandler state.handler).received.length := by
    simpa [Agent.withHandler] using arrived
  rcases Agent.sent_or_abandoned reached.accounted arrivedToo finished with sent | failed
  · obtain ⟨answer, member, rfl⟩ := List.mem_map.mp sent
    exact congrArg List.length (Agent.repliesTo_of_sent reached.accounted member)
  · change invocation ∈ state.agent.abandoned at failed
    rw [reached.abandoned] at failed
    cases failed

/-- A thread can go on, or somebody at the prompt can. -/
theorem Reached.exists_step_of_thread (reached : Reached state)
    (stays : state.prompts.main ≠ .exited) {index : Nat} {worker : InputWorker}
    (running : state.agent.workers[index]? = some worker) :
    ∃ event next, Answering state event ∧ state.step? event = some next := by
  have advances : (state.advance index worker).isSome →
      ∃ event next, Answering state event ∧ state.step? event = some next := by
    intro possible
    obtain ⟨next, advanced⟩ := Option.isSome_iff_exists.mp possible
    exact ⟨.advance index, next, trivial, Option.bind_eq_some_iff.mpr ⟨worker, running, advanced⟩⟩
  cases stage : state.stage worker.invocation with
  | started => exact advances (by simp [advance, stage])
  | found service =>
      cases service with
      | none => exact advances (by simp [advance, stage])
      | some service =>
          refine advances ?_
          simp only [advance, stage]
          split <;> rfl
  | built service call result => exact advances (by simp [advance, stage])
  | asking service call =>
      by_cases replied : ∃ reply ∈ state.prompts.replies, reply.worker = call.worker
      · refine advances ?_
        simp only [advance, stage, Option.isSome_map]
        exact List.find?_isSome.mpr (by simpa using replied)
      · -- its callback has not returned, so somebody can go on at the prompt
        have named := (reached.kept.stages worker.invocation).named (by rw [stage]; rfl)
        obtain ⟨own, here, -⟩ := Option.map_eq_some_iff.mp named
        have waiting : ¬ PromptState.AllReturned state.prompts := by
          intro all
          exact replied (reached.returned _ own here (all own (List.mem_of_getElem? here)))
        obtain ⟨event, prompts, answering, stepped⟩ :=
          PromptState.exists_step reached.raised stays waiting
        refine ⟨.prompt event, { state with prompts }, answering, ?_⟩
        refine Option.map_eq_some_iff.mpr ⟨prompts, ?_, rfl⟩
        cases event with
        | arrive name => cases answering
        | ask | wake | recheck | hook | enter | close | look | fail | store => exact stepped

/-- As long as the main thread is in its loop and a call has no answer, somebody can go
on. -/
theorem Reached.exists_step (reached : Reached state) (stays : state.prompts.main ≠ .exited)
    (unanswered : ¬ AllAnswered state) :
    ∃ event next, Answering state event ∧ state.step? event = some next := by
  cases workers : state.agent.workers with
  | cons worker rest =>
      have running : state.agent.workers[0]? = some worker := by rw [workers]; rfl
      exact reached.exists_step_of_thread stays running
  | nil =>
      cases queued : state.agent.queued with
      | nil => exact absurd (reached.allAnswered workers queued) unanswered
      | cons completion rest =>
          have runs : (state.agent.runQueued 0).isSome := by simp [Agent.runQueued, queued]
          obtain ⟨agent, ran⟩ := Option.isSome_iff_exists.mp runs
          exact ⟨.runQueued 0, { state with agent }, trivial,
            Option.map_eq_some_iff.mpr ⟨agent, ran, rfl⟩⟩

/-- The main thread still takes lines for passphrases. -/
theorem attentive_of_step (attentive : PromptState.Attentive state.prompts)
    (answering : Answering state event) (stepped : state.step? event = some next) :
    PromptState.Attentive next.prompts := by
  cases effect_of_step stepped with
  | list handled => cases answering
  | work handed => cases answering
  | answer answer => cases answering
  | prompt happened => exact attentive.step answering happened
  | enter running stage wants => exact attentive.of_main rfl id
  | lookUp | skip | leave | finish | runQueued => exact attentive

/-- A run has come to the state. -/
def Reachable (noop : CallbackId) (unused : RequestInputHandler) (state : InputState) : Prop :=
  ∃ events, machine.Run Machine.anyStep (start noop unused) events state

theorem Reachable.step (reachable : Reachable noop unused state)
    (stepped : state.step? event = some next) : Reachable noop unused next := by
  obtain ⟨events, run⟩ := reachable
  exact ⟨events ++ [event], run.tail trivial stepped⟩

theorem Reachable.reached (reachable : Reachable noop unused state) : Reached state := by
  obtain ⟨events, run⟩ := reachable
  exact reached_of_run run

/-- The steps that bring the answers, in a run. -/
theorem progress : machine.Progress Answering (Reachable noop unused)
    (fun state => state.prompts.main = .exited ∨ AllAnswered state) left where
  preserved reachable _ stepped := reachable.step stepped
  lowers reachable answering stepped := left_lt reachable.reached.raised answering stepped
  enabled reachable unanswered :=
    reachable.reached.exists_step (fun exited => unanswered (.inl exited))
      fun all => unanswered (.inr all)

theorem progress_attentive : machine.Progress Answering
    (fun state => Reachable noop unused state ∧ PromptState.Attentive state.prompts)
    AllAnswered left :=
  progress.avoiding attentive_of_step PromptState.Attentive.ne_exited

/-- From wherever a run has come to, if no more calls arrive and the user enters a line
whenever somebody asks for one and does not close the input, then in whatever order the
threads, the loop and the user go on, every call for input gets its one answer or the main
thread leaves its loop.  It does not leave it where it is in it and has no line in hand
that was entered for a command. -/
theorem calls_answered (run : machine.Run Machine.anyStep (start noop unused) events state) :
    machine.Attains Answering
        (fun state => state.prompts.main = .exited ∨ AllAnswered state) state ∧
      (PromptState.Attentive state.prompts → machine.Attains Answering AllAnswered state) :=
  ⟨progress.attains ⟨events, run⟩,
    fun attentive => progress_attentive.attains ⟨⟨events, run⟩, attentive⟩⟩

/-- Both calls are answered, also when both have asked before the user enters a line. -/
theorem calls_answered_both :
    ∃ state : InputState, state.agent.received.length = 2 ∧
      state.prompts.workers.map Worker.phase = [.blocked, .blocked] ∧
      ∃ later finish, machine.Run Answering state later finish ∧ AllAnswered finish := by
  have executes : (machine.exec? Machine.anyStep (start 0 fun _ _ _ => .threw)
      (bothAsked ++ [.prompt (.ask 0), .prompt (.ask 1)])).any
      (fun state => state.agent.received.length = 2 ∧
        state.prompts.workers.map Worker.phase = [.blocked, .blocked] ∧
        state.prompts.main = .reading) = true := by
    decide
  obtain ⟨state, run, passes⟩ := Machine.Run.exists_of_exec executes
  obtain ⟨received, phases, reads⟩ := of_decide_eq_true passes
  have attentive : PromptState.Attentive state.prompts := by
    rw [PromptState.Attentive, reads]
    trivial
  exact ⟨state, received, phases, ((calls_answered run).2 attentive).exists_run⟩

end InputState

end GConnman.Connmanctl
