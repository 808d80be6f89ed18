import Mathlib.Data.List.Forall2
import GConnman.Connmanctl.Commands
import GConnman.Foundation.Progress

/-!
# Passphrase prompts

The client asks for a passphrase on the thread of the request, and the user answers at
the prompt of the main thread.  A request leaves the name of its service, raises
`connecting` and waits; the main thread takes the next line it looks at for the
passphrase, lowers `connecting` and wakes everybody.  Nothing says for which request a
line was meant, so requests that overlap share a line or get each other's.

The critical sections on `cin_mutex` are one step each.  The main thread looks at
`connecting` without the mutex.  It leaves its loop when the input is closed, and with a
command that is `quit` or raises; from then on nobody takes down `connecting`.
-/

namespace GConnman.Connmanctl

open GConnman.Foundation

/-- The index of a request among all. -/
abbrev WorkerId := Nat

inductive WorkerPhase where
  /-- The name has been read. -/
  | arrived
  | blocked
  /-- It waits for the mutex to look at `connecting` again. -/
  | woken
  | returned
  deriving DecidableEq, Repr

/-- The callback for one request.  `asked` records how many answers had been given when
it asked. -/
structure Worker where
  name : String
  phase : WorkerPhase := .arrived
  asked : Nat := 0
  deriving DecidableEq, Repr

inductive MainPhase where
  | reading
  /-- `readline` has returned a line. -/
  | looking (line : String)
  /-- The line is a passphrase, and the mutex is still to be locked. -/
  | storing (line : String)
  /-- The loop has ended. -/
  | exited
  deriving DecidableEq, Repr

/-- The lines that have been entered and not yet used. -/
def MainPhase.pending : MainPhase → List String
  | .reading | .exited => []
  | .looking line => [line]
  | .storing line => [line]

/-- A line that was taken for a passphrase, with the last worker that had asked. -/
structure Answer where
  asker : WorkerId
  name : String
  line : String
  deriving DecidableEq, Repr

/-- What becomes of a line. -/
inductive Use where
  | command (line : String)
  | answer (given : Answer)
  deriving DecidableEq, Repr

def Use.line : Use → String
  | .command line => line
  | .answer given => given.line

def Use.answer? : Use → Option Answer
  | .command _ => none
  | .answer given => some given

/-- What a callback returns.  `answer` records how many answers had been given before
the last one, `asked` how many when the worker asked, and `overtaken` whether another
worker has asked after it. -/
structure Reply where
  worker : WorkerId
  passphrase : String
  asked : Nat
  answer : Nat
  overtaken : Bool
  deriving DecidableEq, Repr

/-- The globals of the client, the requests and the main thread.  `entered` records the
lines with the prompts they were entered at, `uses` what has become of them. -/
structure PromptState where
  connecting : Bool := false
  connectingName : String := ""
  passphrase : String := ""
  /-- The name in the prompt for a passphrase; `none` at the prompt for a command. -/
  prompt : Option String := none
  workers : List Worker := []
  main : MainPhase := .reading
  asker : WorkerId := 0
  entered : List (Option String × String) := []
  uses : List Use := []
  replies : List Reply := []
  deriving DecidableEq, Repr

inductive PromptEvent where
  | arrive (name : String)
  | ask (worker : WorkerId)
  /-- A worker wakes without being notified. -/
  | wake (worker : WorkerId)
  | recheck (worker : WorkerId)
  | hook
  | enter (line : String)
  /-- The input is closed. -/
  | close
  | look
  /-- The line is a command, and an exception leaves it. -/
  | fail
  | store
  deriving DecidableEq, Repr

/-- A notified worker. -/
def Worker.notify (worker : Worker) : Worker :=
  match worker.phase with
  | .blocked => { worker with phase := .woken }
  | _ => worker

/-- The worker waits in the callback. -/
def Worker.waits (worker : Worker) : Bool :=
  match worker.phase with
  | .blocked | .woken => true
  | .arrived | .returned => false

namespace PromptState

variable (state : PromptState)

/-- The answers given so far. -/
def answers : List Answer := state.uses.filterMap Use.answer?

/-- The callback up to the wait; it finds `connecting` as it has set it. -/
def ask (id : WorkerId) (worker : Worker) : PromptState :=
  { state with
    connecting := true
    connectingName := worker.name
    asker := id
    workers := state.workers.set id
      { worker with phase := .blocked, asked := state.answers.length } }

/-- The wait after a wake-up. -/
def recheck (id : WorkerId) (worker : Worker) : PromptState :=
  if state.connecting then
    { state with workers := state.workers.set id { worker with phase := .blocked } }
  else
    { state with
      workers := state.workers.set id { worker with phase := .returned }
      replies := state.replies ++ [{
        worker := id
        passphrase := state.passphrase
        asked := worker.asked
        answer := state.answers.length - 1
        overtaken := state.asker ≠ id }] }

/-- The line is a command, which leaves the main thread there. -/
def command (line : String) (main : MainPhase) : PromptState :=
  { state with main, uses := state.uses ++ [.command line] }

/-- The critical section of the main thread. -/
def store (line : String) : PromptState :=
  { state with
    passphrase := line
    connecting := false
    prompt := none
    workers := state.workers.map Worker.notify
    main := .reading
    uses := state.uses ++ [.answer ⟨state.asker, state.connectingName, line⟩] }

/-- The worker in a phase. -/
def inPhase (id : WorkerId) (phase : WorkerPhase) : Option Worker :=
  state.workers[id]?.filter fun worker => worker.phase = phase

def step? : PromptEvent → Option PromptState
  | .arrive name => some { state with workers := state.workers ++ [{ name }] }
  | .ask id => (state.inPhase id .arrived).map (state.ask id)
  | .wake id =>
      (state.inPhase id .blocked).map fun worker =>
        { state with workers := state.workers.set id { worker with phase := .woken } }
  | .recheck id => (state.inPhase id .woken).map (state.recheck id)
  | .hook =>
      if state.main = .reading ∧ state.connecting then
        some { state with prompt := some state.connectingName }
      else none
  | .enter line =>
      if state.main = .reading then
        some { state with
          main := .looking line
          entered := state.entered ++ [(state.prompt, line)] }
      else none
  | .close => if state.main = .reading then some { state with main := .exited } else none
  | .look =>
      match state.main with
      | .looking line =>
          if state.connecting then some { state with main := .storing line }
          else some (state.command line (if quits line then .exited else .reading))
      | _ => none
  | .fail =>
      match state.main with
      | .looking line => if state.connecting then none else some (state.command line .exited)
      | _ => none
  | .store =>
      match state.main with
      | .storing line => some (state.store line)
      | _ => none

def machine : Machine PromptState PromptEvent := ⟨step?⟩

/-! ## What each event does -/

variable {state} {next : PromptState} {event : PromptEvent}

/-- The effect of an event. -/
inductive Effect (state : PromptState) : PromptEvent → PromptState → Prop where
  | arrive (name : String) :
      Effect state (.arrive name) { state with workers := state.workers ++ [{ name }] }
  | ask {id : WorkerId} {worker : Worker} (found : state.workers[id]? = some worker)
      (phase : worker.phase = .arrived) : Effect state (.ask id) (state.ask id worker)
  | wake {id : WorkerId} {worker : Worker} (found : state.workers[id]? = some worker)
      (phase : worker.phase = .blocked) :
      Effect state (.wake id)
        { state with workers := state.workers.set id { worker with phase := .woken } }
  | wait {id : WorkerId} {worker : Worker} (found : state.workers[id]? = some worker)
      (phase : worker.phase = .woken) (raised : state.connecting = true) :
      Effect state (.recheck id)
        { state with workers := state.workers.set id { worker with phase := .blocked } }
  | reply {id : WorkerId} {worker : Worker} (found : state.workers[id]? = some worker)
      (phase : worker.phase = .woken) (lowered : state.connecting = false) :
      Effect state (.recheck id)
        { state with
          workers := state.workers.set id { worker with phase := .returned }
          replies := state.replies ++ [{
            worker := id
            passphrase := state.passphrase
            asked := worker.asked
            answer := state.answers.length - 1
            overtaken := state.asker ≠ id }] }
  | hook (reads : state.main = .reading) (raised : state.connecting = true) :
      Effect state .hook { state with prompt := some state.connectingName }
  | enter {line : String} (reads : state.main = .reading) :
      Effect state (.enter line)
        { state with
          main := .looking line
          entered := state.entered ++ [(state.prompt, line)] }
  | take {line : String} (looks : state.main = .looking line) (raised : state.connecting = true) :
      Effect state .look { state with main := .storing line }
  | close (reads : state.main = .reading) : Effect state .close { state with main := .exited }
  | command {line : String} (looks : state.main = .looking line)
      (lowered : state.connecting = false) (goesOn : quits line = false) :
      Effect state .look (state.command line .reading)
  | quit {line : String} (looks : state.main = .looking line)
      (lowered : state.connecting = false) (ends : quits line = true) :
      Effect state .look (state.command line .exited)
  | fail {line : String} (looks : state.main = .looking line)
      (lowered : state.connecting = false) : Effect state .fail (state.command line .exited)
  | store {line : String} (stores : state.main = .storing line) :
      Effect state .store (state.store line)

theorem inPhase_eq_some {id : WorkerId} {phase : WorkerPhase} {worker : Worker} :
    state.inPhase id phase = some worker ↔
      state.workers[id]? = some worker ∧ worker.phase = phase := by
  rw [inPhase, Option.filter_eq_some_iff, decide_eq_true_iff]

theorem effect_of_step (stepped : state.step? event = some next) : Effect state event next := by
  cases event with
  | arrive name =>
      cases stepped
      exact .arrive name
  | ask id =>
      obtain ⟨worker, here, rfl⟩ := Option.map_eq_some_iff.mp stepped
      obtain ⟨found, phase⟩ := inPhase_eq_some.mp here
      exact .ask found phase
  | wake id =>
      obtain ⟨worker, here, rfl⟩ := Option.map_eq_some_iff.mp stepped
      obtain ⟨found, phase⟩ := inPhase_eq_some.mp here
      exact .wake found phase
  | recheck id =>
      obtain ⟨worker, here, rfl⟩ := Option.map_eq_some_iff.mp stepped
      obtain ⟨found, phase⟩ := inPhase_eq_some.mp here
      unfold recheck
      by_cases raised : state.connecting = true
      · rw [if_pos raised]
        exact .wait found phase raised
      · rw [if_neg raised]
        exact .reply found phase (Bool.eq_false_iff.mpr raised)
  | hook =>
      obtain ⟨⟨reads, raised⟩, ⟨⟩⟩ := Option.ite_none_right_eq_some.mp stepped
      exact .hook reads raised
  | enter line =>
      obtain ⟨reads, ⟨⟩⟩ := Option.ite_none_right_eq_some.mp stepped
      exact .enter reads
  | look =>
      unfold step? at stepped
      cases looks : state.main with
      | looking line =>
          simp only [looks] at stepped
          by_cases raised : state.connecting = true
          · rw [if_pos raised, Option.some.injEq] at stepped
            rw [← stepped]
            exact .take looks raised
          · rw [if_neg raised, Option.some.injEq] at stepped
            rw [← stepped]
            have lowered := Bool.eq_false_iff.mpr raised
            cases ends : quits line with
            | true => exact .quit looks lowered ends
            | false => exact .command looks lowered ends
      | reading | storing _ | exited => simp [looks] at stepped
  | close =>
      obtain ⟨reads, ⟨⟩⟩ := Option.ite_none_right_eq_some.mp stepped
      exact .close reads
  | fail =>
      unfold step? at stepped
      cases looks : state.main with
      | looking line =>
          simp only [looks] at stepped
          obtain ⟨lowered, ⟨⟩⟩ := Option.ite_none_left_eq_some.mp stepped
          exact .fail looks (Bool.eq_false_iff.mpr lowered)
      | reading | storing _ | exited => simp [looks] at stepped
  | store =>
      unfold step? at stepped
      cases stores : state.main with
      | storing line =>
          simp only [stores, Option.some.injEq] at stepped
          rw [← stepped]
          exact .store stores
      | reading | looking _ | exited => simp [stores] at stepped

/-! ## While `connecting` is raised -/

/-- What waits for an answer, or shows the prompt for one, finds `connecting` raised. -/
structure Raised (state : PromptState) : Prop where
  storing : ∀ line, state.main = .storing line → state.connecting = true
  prompted : ∀ name, state.prompt = some name → state.connecting = true
  blocked : ∀ worker ∈ state.workers, worker.phase = .blocked → state.connecting = true

theorem raised_start : Raised {} where
  storing := nofun
  prompted := nofun
  blocked := nofun

@[simp] theorem notify_phase_ne_blocked (worker : Worker) : worker.notify.phase ≠ .blocked := by
  unfold Worker.notify
  cases phase : worker.phase <;> simp [phase]

theorem Raised.step (raised : Raised state) (stepped : state.step? event = some next) :
    Raised next := by
  obtain ⟨storing, prompted, blocked⟩ := raised
  cases effect_of_step stepped with
  | arrive name =>
      refine ⟨storing, prompted, fun worker member phase => ?_⟩
      rcases List.mem_append.mp member with before | last
      · exact blocked worker before phase
      · cases List.mem_singleton.mp last
        cases phase
  | ask found phase => exact ⟨fun _ _ => rfl, fun _ _ => rfl, fun _ _ _ => rfl⟩
  | wake found phase =>
      refine ⟨storing, prompted, fun worker member phase => ?_⟩
      rcases List.mem_or_eq_of_mem_set member with before | same
      · exact blocked worker before phase
      · rw [same] at phase
        cases phase
  | wait found phase raised => exact ⟨fun _ _ => raised, fun _ _ => raised, fun _ _ _ => raised⟩
  | reply found phase lowered =>
      refine ⟨storing, prompted, fun worker member phase => ?_⟩
      rcases List.mem_or_eq_of_mem_set member with before | same
      · exact blocked worker before phase
      · rw [same] at phase
        cases phase
  | hook reads raised => exact ⟨fun _ _ => raised, fun _ _ => raised, fun _ _ _ => raised⟩
  | enter reads => exact ⟨nofun, prompted, blocked⟩
  | take looks raised => exact ⟨fun _ _ => raised, fun _ _ => raised, fun _ _ _ => raised⟩
  | close reads => exact ⟨nofun, prompted, blocked⟩
  | command looks lowered goesOn => exact ⟨nofun, prompted, blocked⟩
  | quit looks lowered ends => exact ⟨nofun, prompted, blocked⟩
  | fail looks lowered => exact ⟨nofun, prompted, blocked⟩
  | store stores =>
      refine ⟨nofun, nofun, fun worker member phase => ?_⟩
      obtain ⟨before, -, rfl⟩ := List.mem_map.mp member
      exact absurd phase (notify_phase_ne_blocked before)

/-! ## What becomes of the lines -/

/-- The line is used, and as an answer if it was entered at the prompt for one. -/
def UsedAs (entry : Option String × String) (use : Use) : Prop :=
  use.line = entry.2 ∧ (entry.1.isSome = true → use.answer?.isSome = true)

/-- Every line is used once, in order; the last one may still be on its way. -/
def Used (state : PromptState) : Prop :=
  ∃ done pending, state.entered = done ++ pending ∧ List.Forall₂ UsedAs done state.uses ∧
    pending.map Prod.snd = state.main.pending ∧
    ∀ entry ∈ pending, entry.1.isSome = true → state.connecting = true

theorem used_start : Used {} := ⟨[], [], rfl, .nil, rfl, nofun⟩

/-- Nothing else has changed for the lines, and `connecting` has not been lowered. -/
theorem Used.of_same (used : Used state) (entered : next.entered = state.entered)
    (uses : next.uses = state.uses) (main : next.main.pending = state.main.pending)
    (raised : state.connecting = true → next.connecting = true) : Used next := by
  obtain ⟨done, pending, split, matched, lines, prompted⟩ := used
  refine ⟨done, pending, entered.trans split, ?_, lines.trans main.symm, ?_⟩
  · rw [uses]
    exact matched
  · exact fun entry member shown => raised (prompted entry member shown)

/-- A command was entered at the prompt for a command. -/
theorem Used.command (used : Used state) {line : String} (looks : state.main = .looking line)
    (lowered : state.connecting = false) {main : MainPhase} (free : main.pending = []) :
    Used (state.command line main) := by
  obtain ⟨done, pending, split, matched, lines, prompted⟩ := used
  rw [looks] at lines
  obtain ⟨entry, rfl, rfl⟩ := List.map_eq_singleton_iff.mp lines
  refine ⟨done ++ [entry], [], by rw [List.append_nil]; exact split, ?_, free.symm, nofun⟩
  refine List.rel_append matched (.cons ⟨rfl, fun shown => ?_⟩ .nil)
  rw [prompted entry List.mem_cons_self shown] at lowered
  cases lowered

theorem Used.step (used : Used state) (raised : Raised state)
    (stepped : state.step? event = some next) : Used next := by
  cases effect_of_step stepped with
  | arrive name => exact used.of_same rfl rfl rfl id
  | ask found phase => exact used.of_same rfl rfl rfl fun _ => rfl
  | wake found phase => exact used.of_same rfl rfl rfl id
  | wait found phase raised => exact used.of_same rfl rfl rfl id
  | reply found phase lowered => exact used.of_same rfl rfl rfl id
  | hook reads raised => exact used.of_same rfl rfl rfl id
  | take looks raised => exact used.of_same rfl rfl (by rw [looks]; rfl) id
  | @enter line reads =>
      obtain ⟨done, pending, split, matched, lines, prompted⟩ := used
      rw [reads] at lines
      have none : pending = [] := List.map_eq_nil_iff.mp lines
      rw [none, List.append_nil] at split
      refine ⟨done, [(state.prompt, line)], by rw [split], matched, rfl, ?_⟩
      intro entry member shown
      cases List.mem_singleton.mp member
      obtain ⟨name, named⟩ := Option.isSome_iff_exists.mp shown
      exact raised.prompted name named
  | close reads => exact used.of_same rfl rfl (by rw [reads]; rfl) id
  | command looks lowered goesOn => exact used.command looks lowered rfl
  | quit looks lowered ends => exact used.command looks lowered rfl
  | fail looks lowered => exact used.command looks lowered rfl
  | @store line stores =>
      obtain ⟨done, pending, split, matched, lines, prompted⟩ := used
      rw [stores] at lines
      obtain ⟨entry, rfl, rfl⟩ := List.map_eq_singleton_iff.mp lines
      refine ⟨done ++ [entry], [], by rw [List.append_nil]; exact split, ?_, rfl, nofun⟩
      exact List.rel_append matched (.cons ⟨rfl, fun _ => rfl⟩ .nil)

/-! ## What the callbacks return -/

@[simp] theorem answers_command (line : String) (main : MainPhase) :
    (state.command line main).answers = state.answers := by
  simp [answers, command, Use.answer?]

theorem answers_store (line : String) :
    (state.store line).answers =
      state.answers ++ [⟨state.asker, state.connectingName, line⟩] := by
  simp [answers, store, Use.answer?]

/-- The reply hands over an answer that was given after the worker had asked, and for
the worker itself exactly if nobody has overtaken it. -/
def HandsOver (answers : List Answer) (reply : Reply) : Prop :=
  ∃ answer, answers[reply.answer]? = some answer ∧ reply.passphrase = answer.line ∧
    reply.asked ≤ reply.answer ∧ (answer.asker = reply.worker ↔ reply.overtaken = false)

theorem HandsOver.append {answers : List Answer} {reply : Reply}
    (handsOver : HandsOver answers reply) (more : List Answer) :
    HandsOver (answers ++ more) reply := by
  obtain ⟨answer, found, rest⟩ := handsOver
  exact ⟨answer, List.getElem?_append_left (List.getElem?_eq_some_iff.mp found).1 ▸ found, rest⟩

/-- When `connecting` is lowered, the globals are those of the last answer, and it was
given after everybody who waits had asked. -/
structure Handed (state : PromptState) : Prop where
  last : state.connecting = false → (∃ worker ∈ state.workers, worker.phase ≠ .arrived) →
    state.answers.getLast? = some ⟨state.asker, state.connectingName, state.passphrase⟩
  asked : ∀ worker ∈ state.workers, worker.waits = true →
    worker.asked ≤ state.answers.length ∧
      (state.connecting = false → worker.asked < state.answers.length)
  replies : ∀ reply ∈ state.replies, HandsOver state.answers reply

/-- A command is no answer. -/
theorem Handed.command (handed : Handed state) (line : String) (main : MainPhase) :
    Handed (state.command line main) := by
  obtain ⟨last, asked, replies⟩ := handed
  refine ⟨?_, ?_, ?_⟩
  · rw [answers_command]
    exact last
  · rw [answers_command]
    exact asked
  · rw [answers_command]
    exact replies

theorem handed_start : Handed {} where
  last _ someone := by
    obtain ⟨worker, member, -⟩ := someone
    cases member
  asked := nofun
  replies := nofun

theorem notify_asked (worker : Worker) : worker.notify.asked = worker.asked := by
  unfold Worker.notify
  cases worker.phase <;> rfl

theorem notify_waits (worker : Worker) : worker.notify.waits = worker.waits := by
  unfold Worker.notify
  cases phase : worker.phase <;> simp [Worker.waits, phase]

theorem Handed.step (handed : Handed state) (stepped : state.step? event = some next) :
    Handed next := by
  obtain ⟨last, asked, replies⟩ := handed
  cases effect_of_step stepped with
  | arrive name =>
      refine ⟨fun lowered someone => last lowered ?_, fun worker member waits => ?_, replies⟩
      · obtain ⟨worker, member, phase⟩ := someone
        rcases List.mem_append.mp member with before | new
        · exact ⟨worker, before, phase⟩
        · cases List.mem_singleton.mp new
          exact absurd rfl phase
      · rcases List.mem_append.mp member with before | new
        · exact asked worker before waits
        · cases List.mem_singleton.mp new
          cases waits
  | ask found phase =>
      refine ⟨nofun, fun worker member waits => ⟨?_, nofun⟩, replies⟩
      rcases List.mem_or_eq_of_mem_set member with before | same
      · exact (asked worker before waits).1
      · rw [same]
        exact Nat.le_refl _
  | @wake id woken found phase =>
      have member := List.mem_of_getElem? found
      have waits : woken.waits = true := by rw [Worker.waits, phase]
      refine ⟨fun lowered _ => last lowered ⟨woken, member, by rw [phase]; nofun⟩,
        fun worker member' waits' => ?_, replies⟩
      rcases List.mem_or_eq_of_mem_set member' with before | same
      · exact asked worker before waits'
      · rw [same]
        exact asked woken member waits
  | @wait id woken found phase raised =>
      have member := List.mem_of_getElem? found
      have waits : woken.waits = true := by rw [Worker.waits, phase]
      refine ⟨fun lowered _ => last lowered ⟨woken, member, by rw [phase]; nofun⟩,
        fun worker member' waits' => ?_, replies⟩
      rcases List.mem_or_eq_of_mem_set member' with before | same
      · exact asked worker before waits'
      · rw [same]
        exact asked woken member waits
  | @reply id woken found phase lowered =>
      have member := List.mem_of_getElem? found
      have waits : woken.waits = true := by rw [Worker.waits, phase]
      have final := last lowered ⟨woken, member, by rw [phase]; nofun⟩
      have after := (asked woken member waits).2 lowered
      refine ⟨fun _ _ => final, fun worker member' waits' => ?_, fun reply given => ?_⟩
      · rcases List.mem_or_eq_of_mem_set member' with before | same
        · exact asked worker before waits'
        · rw [same] at waits'
          cases waits'
      · rcases List.mem_append.mp given with before | new
        · exact replies reply before
        · cases List.mem_singleton.mp new
          rw [List.getLast?_eq_getElem?] at final
          exact ⟨_, final, rfl, Nat.le_sub_one_of_lt after, by simp⟩
  | hook reads raised => exact ⟨last, asked, replies⟩
  | enter reads => exact ⟨last, asked, replies⟩
  | take looks raised => exact ⟨last, asked, replies⟩
  | close reads => exact ⟨last, asked, replies⟩
  | command looks lowered goesOn => exact Handed.command ⟨last, asked, replies⟩ _ _
  | quit looks lowered ends => exact Handed.command ⟨last, asked, replies⟩ _ _
  | fail looks lowered => exact Handed.command ⟨last, asked, replies⟩ _ _
  | @store line stores =>
      refine ⟨fun _ _ => ?_, fun worker member waits => ?_, fun reply given => ?_⟩
      · rw [answers_store]
        simp [store]
      · obtain ⟨before, old, rfl⟩ := List.mem_map.mp member
        rw [notify_waits] at waits
        have early := (asked before old waits).1
        rw [notify_asked, answers_store, List.length_append, List.length_singleton]
        exact ⟨Nat.le_succ_of_le early, fun _ => Nat.lt_succ_of_le early⟩
      · rw [answers_store]
        exact (replies reply given).append _

theorem handed_of_run {guard : PromptState → PromptEvent → Prop} {events : List PromptEvent}
    (run : machine.Run guard {} events state) : Handed state :=
  run.invariant (fun _ _ _ handed _ stepped => handed.step stepped) handed_start

theorem raised_of_run {guard : PromptState → PromptEvent → Prop} {events : List PromptEvent}
    (run : machine.Run guard {} events state) : Raised state :=
  run.invariant (fun _ _ _ raised _ stepped => raised.step stepped) raised_start

/-- The invariant of the lines needs the one of the flag. -/
def Kept (state : PromptState) : Prop := Raised state ∧ Used state

theorem kept_of_run {guard : PromptState → PromptEvent → Prop} {events : List PromptEvent}
    (run : machine.Run guard {} events state) : Kept state :=
  run.invariant
    (fun _ _ _ kept _ stepped => And.intro (kept.1.step stepped) (kept.2.step kept.1 stepped))
    (show Kept {} from ⟨raised_start, used_start⟩)

/-- In every run, every line is used once and in order, one that is entered at the prompt
for a passphrase as a passphrase.  A callback returns the last line that was taken for
one, which was after it had asked; it was taken for this request exactly if no other has
asked in the meantime. -/
theorem lines_used {events : List PromptEvent}
    (run : machine.Run Machine.anyStep {} events state) :
    Used state ∧ ∀ reply ∈ state.replies, HandsOver state.answers reply :=
  ⟨(kept_of_run run).2, (handed_of_run run).replies⟩

/-- A command that is entered before the request asks and looked at after it is taken for
the passphrase. -/
theorem lines_used_late_command :
    ∃ state : PromptState, state.replies.map Reply.passphrase = ["services"] ∧
      state.uses.map Use.line = state.entered.map Prod.snd ∧
      ∀ reply ∈ state.replies, HandsOver state.answers reply := by
  have executes : (machine.exec? Machine.anyStep {}
      [.arrive "Home", .enter "services", .ask 0, .look, .store, .recheck 0]).any
      (fun state => state.replies.map Reply.passphrase = ["services"] ∧
        state.uses.map Use.line = state.entered.map Prod.snd) = true := by
    decide
  obtain ⟨state, run, passes⟩ := Machine.Run.exists_of_exec executes
  obtain ⟨returned, lines⟩ := of_decide_eq_true passes
  exact ⟨state, returned, lines, (lines_used run).2⟩

end PromptState

end GConnman.Connmanctl
