import GConnman.Connmanctl.Passphrases

/-!
# Answering every request

Every request for a passphrase is answered as long as the main thread is in its loop and
the user enters a line when there is a prompt for one, also when requests overlap.  When
they do not, each gets what was entered for it.
-/

namespace GConnman.Connmanctl

open GConnman.Foundation

namespace PromptState

variable {state next : PromptState} {event : PromptEvent}

/-! ## Everybody gets an answer -/

/-- No request arrives, nobody wakes for nothing, and the user enters a line only when
somebody asks for one and does not close the input. -/
def Answering (state : PromptState) : PromptEvent → Prop
  | .ask _ | .recheck _ | .look | .fail | .store => True
  | .enter _ => state.connecting = true
  | .arrive _ | .wake _ | .hook | .close => False

/-- The main thread is in its loop, and will take a line that it has in hand for a
passphrase. -/
def Attentive (state : PromptState) : Prop :=
  match state.main with
  | .reading | .storing _ => True
  | .looking _ => state.connecting = true
  | .exited => False

/-- Every callback has returned. -/
def AllReturned (state : PromptState) : Prop :=
  ∀ worker ∈ state.workers, worker.phase = .returned

/-- How many workers are in a phase. -/
def countIn (phase : WorkerPhase) (state : PromptState) : Nat :=
  state.workers.countP fun worker => worker.phase = phase

/-- How often `connecting` is still raised and lowered. -/
def turns (state : PromptState) : Nat :=
  2 * countIn .arrived state + if state.connecting then 1 else 0

/-- What the main thread does before it lowers `connecting`. -/
def mainLeft (state : PromptState) : Nat :=
  match state.main with
  | .reading => if state.connecting then 2 else 0
  | .looking _ => 1
  | .storing _ | .exited => 0

def left (state : PromptState) : Nat :=
  turns state * (state.workers.length + 3) + (countIn .woken state + mainLeft state)

theorem countIn_set {id : WorkerId} {worker : Worker} (found : state.workers[id]? = some worker)
    (changed : Worker) (phase : WorkerPhase) :
    (state.workers.set id changed).countP (fun worker => worker.phase = phase) +
        (if worker.phase = phase then 1 else 0) =
      countIn phase state + if changed.phase = phase then 1 else 0 := by
  obtain ⟨inside, rfl⟩ := List.getElem?_eq_some_iff.mp found
  have positive : (if (state.workers[id]).phase = phase then 1 else 0) ≤
      countIn phase state := by
    split
    · rename_i here
      exact List.countP_pos_iff.mpr ⟨_, List.getElem_mem inside, decide_eq_true here⟩
    · exact Nat.zero_le _
  rw [List.countP_set inside]
  unfold countIn at positive ⊢
  simp only [decide_eq_true_eq]
  omega

/-- What is still to be done before the next turn. -/
def within (state : PromptState) : Nat := countIn .woken state + mainLeft state

theorem within_le (state : PromptState) : within state ≤ state.workers.length + 2 := by
  have woken : countIn .woken state ≤ state.workers.length := List.countP_le_length
  have main : mainLeft state ≤ 2 := by
    unfold mainLeft
    cases state.main with
    | reading => simp only; split <;> omega
    | looking _ | storing _ | exited => simp
  exact Nat.add_le_add woken main

/-- A turn outweighs all that is done within one. -/
theorem left_lt_of_turns {turns turns' width within within' : Nat} (fewer : turns' < turns)
    (bounded : within' < width) : turns' * width + within' < turns * width + within :=
  calc
    turns' * width + within' < turns' * width + width := Nat.add_lt_add_left bounded _
    _ = (turns' + 1) * width := (Nat.succ_mul _ _).symm
    _ ≤ turns * width := Nat.mul_le_mul_right _ fewer
    _ ≤ turns * width + within := Nat.le_add_right _ _

/-- What a step uses up. -/
structure Lowers (state next : PromptState) : Prop where
  length : next.workers.length = state.workers.length
  lowers : turns next < turns state ∨ turns next = turns state ∧ within next < within state

/-- A worker that was woken looks at `connecting` and goes on or waits again. -/
theorem lowers_recheck {id : WorkerId} {worker changed : Worker} {replies : List Reply}
    (found : state.workers[id]? = some worker) (phase : worker.phase = .woken)
    (arrived : changed.phase ≠ .arrived) (woken : changed.phase ≠ .woken) :
    Lowers state { state with workers := state.workers.set id changed, replies } := by
  have fewer := countIn_set found changed .woken
  rw [if_pos phase, if_neg woken] at fewer
  have same := countIn_set found changed .arrived
  rw [phase, if_neg nofun, if_neg arrived] at same
  refine ⟨List.length_set, .inr ⟨congrArg (2 * · + _) same, ?_⟩⟩
  change (state.workers.set id changed).countP _ + mainLeft state < _
  unfold within
  omega

theorem lowers_of_step (raised : Raised state) (answering : Answering state event)
    (stepped : state.step? event = some next) : Lowers state next := by
  cases effect_of_step stepped with
  | arrive name => cases answering
  | hook reads raised => cases answering
  | close reads => cases answering
  | wake found phase => cases answering
  | @ask id worker found phase =>
      refine ⟨List.length_set, .inl ?_⟩
      have fewer := countIn_set found
        { worker with phase := .blocked, asked := state.answers.length } .arrived
      rw [if_pos phase, if_neg nofun] at fewer
      unfold turns
      change 2 * (state.workers.set id _).countP _ + (if true = true then 1 else 0) < _
      rw [if_pos rfl]
      omega
  | wait found phase raised => exact lowers_recheck found phase nofun nofun
  | reply found phase lowered => exact lowers_recheck found phase nofun nofun
  | enter reads =>
      have asks : state.connecting = true := answering
      exact ⟨rfl, .inr ⟨rfl, by simp [within, mainLeft, reads, asks, countIn]⟩⟩
  | take looks raised =>
      exact ⟨rfl, .inr ⟨rfl, by simp [within, mainLeft, looks, countIn]⟩⟩
  | command looks lowered goesOn =>
      exact ⟨rfl, .inr ⟨rfl, by simp [within, mainLeft, command, looks, lowered, countIn]⟩⟩
  | quit looks lowered ends =>
      exact ⟨rfl, .inr ⟨rfl, by simp [within, mainLeft, command, looks, countIn]⟩⟩
  | fail looks lowered =>
      exact ⟨rfl, .inr ⟨rfl, by simp [within, mainLeft, command, looks, countIn]⟩⟩
  | @store line stores =>
      refine ⟨List.length_map _, .inl ?_⟩
      have same : countIn .arrived (state.store line) = countIn .arrived state := by
        unfold countIn
        rw [store, List.countP_map]
        refine List.countP_congr fun worker _ => ?_
        unfold Worker.notify
        cases phase : worker.phase <;> simp [phase]
      unfold turns
      rw [same, raised.storing line stores]
      simp [store]

theorem left_lt (raised : Raised state) (answering : Answering state event)
    (stepped : state.step? event = some next) : left next < left state := by
  obtain ⟨length, lowers⟩ := lowers_of_step raised answering stepped
  have bounded := within_le next
  change turns next * _ + within next < turns state * _ + within state
  rw [length] at bounded ⊢
  rcases lowers with fewer | ⟨same, less⟩
  · exact left_lt_of_turns fewer (by omega)
  · rw [same]
    exact Nat.add_lt_add_left less _

/-- As long as the main thread is in its loop and somebody has no answer, somebody can go
on. -/
theorem exists_step (raised : Raised state) (stays : state.main ≠ .exited)
    (unanswered : ¬ AllReturned state) :
    ∃ event next, Answering state event ∧ state.step? event = some next := by
  simp only [AllReturned, not_forall] at unanswered
  obtain ⟨worker, member, open'⟩ := unanswered
  obtain ⟨id, found⟩ := List.getElem?_of_mem member
  cases phase : worker.phase with
  | returned => exact absurd phase open'
  | arrived =>
      have here := inPhase_eq_some.mpr ⟨found, phase⟩
      exact ⟨.ask id, _, trivial, Option.map_eq_some_iff.mpr ⟨worker, here, rfl⟩⟩
  | woken =>
      have here := inPhase_eq_some.mpr ⟨found, phase⟩
      exact ⟨.recheck id, _, trivial, Option.map_eq_some_iff.mpr ⟨worker, here, rfl⟩⟩
  | blocked =>
      -- it waits for the main thread
      have asks := raised.blocked worker member phase
      cases main : state.main with
      | reading => exact ⟨.enter "", _, asks, if_pos main⟩
      | looking line =>
          refine ⟨.look, { state with main := .storing line }, trivial, ?_⟩
          simp [step?, main, asks]
      | storing line =>
          refine ⟨.store, state.store line, trivial, ?_⟩
          simp [step?, main]
      | exited => exact absurd main stays

theorem progress :
    machine.Progress Answering Raised (fun state => state.main = .exited ∨ AllReturned state)
      left where
  preserved raised _ stepped := raised.step stepped
  lowers raised answering stepped := left_lt raised answering stepped
  enabled raised unanswered :=
    exists_step raised (fun exited => unanswered (.inl exited)) fun all => unanswered (.inr all)

theorem Attentive.ne_exited (attentive : Attentive state) : state.main ≠ .exited := by
  intro exited
  rw [Attentive, exited] at attentive
  exact attentive

theorem Attentive.raised (attentive : Attentive state) {line : String}
    (looks : state.main = .looking line) : state.connecting = true := by
  rw [Attentive, looks] at attentive
  exact attentive

theorem Attentive.of_main (attentive : Attentive state) (main : next.main = state.main)
    (raised : state.connecting = true → next.connecting = true) : Attentive next := by
  unfold Attentive at attentive ⊢
  rw [main]
  cases phase : state.main with
  | reading | storing _ => trivial
  | looking line =>
      rw [phase] at attentive
      exact raised attentive
  | exited =>
      rw [phase] at attentive
      exact attentive

/-- A line is entered for a passphrase, and the main thread stays in its loop. -/
theorem Attentive.step (attentive : Attentive state) (answering : Answering state event)
    (stepped : state.step? event = some next) : Attentive next := by
  have noCommand : ∀ {line : String}, state.main = .looking line → state.connecting ≠ false := by
    intro line looks lowered
    rw [attentive.raised looks] at lowered
    cases lowered
  cases effect_of_step stepped with
  | arrive name => cases answering
  | wake found phase => cases answering
  | hook reads raised => cases answering
  | close reads => cases answering
  | ask found phase => exact attentive.of_main rfl fun _ => rfl
  | wait found phase raised => exact attentive.of_main rfl id
  | reply found phase lowered => exact attentive.of_main rfl id
  | enter reads => exact answering
  | take looks raised => trivial
  | command looks lowered goesOn => exact absurd lowered (noCommand looks)
  | quit looks lowered ends => exact absurd lowered (noCommand looks)
  | fail looks lowered => exact absurd lowered (noCommand looks)
  | store stores => trivial

theorem progress_attentive :
    machine.Progress Answering (fun state => Raised state ∧ Attentive state) AllReturned left :=
  progress.avoiding Attentive.step Attentive.ne_exited

/-- From wherever a run has come to, if no more requests arrive and the user enters a line
whenever somebody asks for one and does not close the input, then in whatever order the
threads go on, every callback returns or the main thread leaves its loop.  It does not
leave it where it is in it and has no line in hand that was entered for a command. -/
theorem everybody_answered {events : List PromptEvent}
    (run : machine.Run Machine.anyStep {} events state) :
    machine.Attains Answering (fun state => state.main = .exited ∨ AllReturned state) state ∧
      (Attentive state → machine.Attains Answering AllReturned state) :=
  ⟨progress.attains (raised_of_run run),
    fun attentive => progress_attentive.attains ⟨raised_of_run run, attentive⟩⟩

/-- Two requests that overlap, of which the second asks when the first has been answered,
both come to an end. -/
theorem everybody_answered_overlapping :
    ∃ start : PromptState, start.workers.map Worker.phase = [.woken, .blocked] ∧
      ∃ events finish, machine.Run Answering start events finish ∧ AllReturned finish := by
  have executes : (machine.exec? Machine.anyStep {}
      [.arrive "Home", .arrive "Guest", .enter "services", .look, .ask 0, .enter "home123",
        .look, .store, .ask 1]).any
      (fun state => state.workers.map Worker.phase = [.woken, .blocked] ∧
        state.main = .reading) = true := by
    decide
  obtain ⟨start, run, passes⟩ := Machine.Run.exists_of_exec executes
  obtain ⟨phases, reads⟩ := of_decide_eq_true passes
  have attentive : Attentive start := by rw [Attentive, reads]; trivial
  exact ⟨start, phases, ((everybody_answered run).2 attentive).exists_run⟩

/-- A request that asks after `quit` is never answered. -/
example : (machine.exec? Machine.anyStep {} [.arrive "Home", .enter "quit", .look, .ask 0]).any
    (fun state => state.main = .exited ∧ state.connecting = true ∧
      state.workers.map Worker.phase = [.blocked]) = true := by
  decide

/-! ## Requests one after the other -/

/-- Nobody asks while another one waits. -/
def Alone (state : PromptState) : PromptEvent → Prop
  | .ask _ => ∀ worker ∈ state.workers, worker.waits = false
  | _ => True

instance (state : PromptState) : (event : PromptEvent) → Decidable (Alone state event)
  | .ask _ => inferInstanceAs (Decidable (∀ worker ∈ state.workers, worker.waits = false))
  | .arrive _ | .wake _ | .recheck _ | .hook | .enter _ | .close | .look | .fail | .store =>
      .isTrue trivial

/-- Every answer bears the name of the request it was given for, and so does the prompt
while `connecting` is raised. -/
structure Named (state : PromptState) : Prop where
  answers : ∀ answer ∈ state.answers,
    state.workers[answer.asker]?.map Worker.name = some answer.name
  prompt : state.connecting = true →
    state.workers[state.asker]?.map Worker.name = some state.connectingName

/-- The passphrases that were returned, with the workers. -/
def replied (state : PromptState) : List (WorkerId × String) :=
  state.replies.map fun reply => (reply.worker, reply.passphrase)

/-- The passphrases that were given, with the workers that had asked. -/
def answered (state : PromptState) : List (WorkerId × String) :=
  state.answers.map fun answer => (answer.asker, answer.line)

/-- The worker waits. -/
def Waiting (state : PromptState) (id : WorkerId) : Prop :=
  ∃ worker, state.workers[id]? = some worker ∧ worker.waits = true

/-- One worker waits, for the answer or with it. -/
structure Asking (state : PromptState) (id : WorkerId) : Prop where
  asker : state.asker = id
  waits : Waiting state id
  only : ∀ other, Waiting state other → other = id
  answered : answered state = replied state ++
    if state.connecting then [] else [(id, state.passphrase)]

/-- No worker waits, and what was answered has been returned. -/
structure Settled (state : PromptState) : Prop where
  nobody : ∀ id, ¬ Waiting state id
  lowered : state.connecting = false
  answered : answered state = replied state

/-- The requests are answered one after the other. -/
def InTurn (state : PromptState) : Prop := Settled state ∨ ∃ id, Asking state id

theorem inTurn_start : InTurn {} := by
  refine .inl ⟨fun id waiting => ?_, rfl, rfl⟩
  obtain ⟨worker, found, -⟩ := waiting
  cases found

/-- A step that changes neither the records nor who waits. -/
theorem InTurn.of_same (inTurn : InTurn state) (connecting : next.connecting = state.connecting)
    (asker : next.asker = state.asker) (passphrase : next.passphrase = state.passphrase)
    (replies : next.replies = state.replies) (answers : next.answers = state.answers)
    (waits : ∀ id, Waiting next id ↔ Waiting state id) : InTurn next := by
  have answeredSame : PromptState.answered next = PromptState.answered state := by
    rw [PromptState.answered, answers, PromptState.answered]
  have repliedSame : replied next = replied state := by rw [replied, replies, replied]
  rcases inTurn with ⟨nobody, lowered, returned⟩ | ⟨id, asks, waiting, only, returned⟩
  · refine .inl ⟨fun id waiting => nobody id ((waits id).mp waiting), connecting.trans lowered, ?_⟩
    rw [answeredSame, repliedSame, returned]
  · refine .inr ⟨id, asker.trans asks, (waits id).mpr waiting,
      fun other waiting => only other ((waits other).mp waiting), ?_⟩
    rw [answeredSame, repliedSame, connecting, passphrase, returned]

/-- Another worker waits as before, and this one as its new phase says. -/
theorem waiting_set {id other : WorkerId} {worker changed : Worker}
    (found : state.workers[id]? = some worker) {next : PromptState}
    (workers : next.workers = state.workers.set id changed) :
    Waiting next other ↔ if other = id then changed.waits = true else Waiting state other := by
  have inside := (List.getElem?_eq_some_iff.mp found).1
  unfold Waiting
  rw [workers]
  by_cases same : other = id
  · subst same
    rw [if_pos rfl, List.getElem?_set_self inside]
    simp
  · rw [if_neg same, List.getElem?_set_ne (Ne.symm same)]

/-- A worker that waits goes on waiting. -/
theorem waiting_set_of_waits {id : WorkerId} {worker changed : Worker}
    (found : state.workers[id]? = some worker) (waits : worker.waits = true)
    (still : changed.waits = true) {next : PromptState}
    (workers : next.workers = state.workers.set id changed) (other : WorkerId) :
    Waiting next other ↔ Waiting state other := by
  rw [waiting_set found workers]
  split
  · rename_i same
    subst same
    exact ⟨fun _ => ⟨worker, found, waits⟩, fun _ => still⟩
  · rfl

theorem waiting_arrive {name : String} {next : PromptState}
    (workers : next.workers = state.workers ++ [({ name } : Worker)]) (id : WorkerId) :
    Waiting next id ↔ Waiting state id := by
  unfold Waiting
  rw [workers]
  by_cases inside : id < state.workers.length
  · rw [List.getElem?_append_left inside]
  · have absent : state.workers[id]? = none :=
      List.getElem?_eq_none_iff.mpr (Nat.le_of_not_lt inside)
    rw [List.getElem?_append_right (Nat.le_of_not_lt inside), absent]
    constructor
    · rintro ⟨worker, found, waits⟩
      cases List.mem_singleton.mp (List.mem_of_getElem? found)
      cases waits
    · rintro ⟨worker, found, -⟩
      cases found

theorem waiting_store (line : String) (id : WorkerId) :
    Waiting (state.store line) id ↔ Waiting state id := by
  unfold Waiting
  rw [store, List.getElem?_map]
  cases found : state.workers[id]? with
  | none => simp
  | some worker => simp [notify_waits]

theorem InTurn.step (inTurn : InTurn state) (raised : Raised state) (alone : Alone state event)
    (stepped : state.step? event = some next) : InTurn next := by
  cases effect_of_step stepped with
  | arrive name => exact inTurn.of_same rfl rfl rfl rfl rfl (waiting_arrive rfl)
  | @ask id worker found phase =>
      have nobody : ∀ other, ¬ Waiting state other := by
        rintro other ⟨another, here, waits⟩
        rw [alone another (List.mem_of_getElem? here)] at waits
        cases waits
      have returned : PromptState.answered state = replied state := by
        rcases inTurn with settled | ⟨other, asking⟩
        · exact settled.answered
        · exact absurd asking.waits (nobody other)
      refine .inr ⟨id, rfl, (waiting_set found rfl).mpr (by rw [if_pos rfl]; rfl), ?_, ?_⟩
      · intro other waits
        rw [waiting_set found rfl] at waits
        by_contra different
        rw [if_neg different] at waits
        exact nobody other waits
      · exact returned.trans (List.append_nil _).symm
  | @wake id worker found phase =>
      have waits : worker.waits = true := by rw [Worker.waits, phase]
      exact inTurn.of_same rfl rfl rfl rfl rfl (waiting_set_of_waits found waits rfl rfl)
  | @wait id worker found phase raised =>
      have waits : worker.waits = true := by rw [Worker.waits, phase]
      exact inTurn.of_same rfl rfl rfl rfl rfl (waiting_set_of_waits found waits rfl rfl)
  | @reply id worker found phase lowered =>
      have waits : worker.waits = true := by rw [Worker.waits, phase]
      rcases inTurn with settled | ⟨asker, asking⟩
      · exact absurd ⟨worker, found, waits⟩ (settled.nobody id)
      · -- it is the one that had asked
        obtain rfl := asking.only id ⟨worker, found, waits⟩
        refine .inl ⟨fun other waiting => ?_, lowered, ?_⟩
        · rw [waiting_set found rfl] at waiting
          split at waiting
          · cases waiting
          · rename_i different
            exact different (asking.only other waiting)
        · have returned := asking.answered
          rw [lowered] at returned
          refine returned.trans ?_
          rw [replied, replied, List.map_append]
          rfl
  | hook reads raised => exact inTurn.of_same rfl rfl rfl rfl rfl fun _ => Iff.rfl
  | enter reads => exact inTurn.of_same rfl rfl rfl rfl rfl fun _ => Iff.rfl
  | take looks raised => exact inTurn.of_same rfl rfl rfl rfl rfl fun _ => Iff.rfl
  | close reads => exact inTurn.of_same rfl rfl rfl rfl rfl fun _ => Iff.rfl
  | command looks lowered goesOn =>
      exact inTurn.of_same rfl rfl rfl rfl (answers_command _ _) fun _ => Iff.rfl
  | quit looks lowered ends =>
      exact inTurn.of_same rfl rfl rfl rfl (answers_command _ _) fun _ => Iff.rfl
  | fail looks lowered =>
      exact inTurn.of_same rfl rfl rfl rfl (answers_command _ _) fun _ => Iff.rfl
  | @store line stores =>
      have asks := raised.storing line stores
      rcases inTurn with settled | ⟨id, asking⟩
      · rw [settled.lowered] at asks
        cases asks
      · have returned := asking.answered
        rw [asks] at returned
        refine .inr ⟨id, asking.asker, (waiting_store line id).mpr asking.waits,
          fun other waiting => asking.only other ((waiting_store line other).mp waiting), ?_⟩
        rw [PromptState.answered, answers_store, List.map_append, asking.asker]
        change PromptState.answered state ++ [(id, line)] = replied state ++ [(id, line)]
        rw [returned]
        simp

/-- The name of a worker never changes. -/
theorem name_of_step (stepped : state.step? event = some next) {id : WorkerId} {name : String}
    (named : state.workers[id]?.map Worker.name = some name) :
    next.workers[id]?.map Worker.name = some name := by
  have set : ∀ {other : WorkerId} {worker changed : Worker},
      state.workers[other]? = some worker → changed.name = worker.name →
      (state.workers.set other changed)[id]?.map Worker.name = some name := by
    intro other worker changed found same
    by_cases here : other = id
    · subst here
      rw [found] at named
      rw [List.getElem?_set_self (List.getElem?_eq_some_iff.mp found).1, Option.map_some, same]
      exact named
    · rw [List.getElem?_set_ne here]
      exact named
  cases effect_of_step stepped with
  | arrive other =>
      obtain ⟨worker, found, rfl⟩ := Option.map_eq_some_iff.mp named
      change (state.workers ++ [_])[id]?.map _ = _
      rw [List.getElem?_append_left (List.getElem?_eq_some_iff.mp found).1, found]
      rfl
  | ask found phase => exact set found rfl
  | wake found phase => exact set found rfl
  | wait found phase raised => exact set found rfl
  | reply found phase lowered => exact set found rfl
  | hook reads raised => exact named
  | enter reads => exact named
  | take looks raised => exact named
  | close reads => exact named
  | command looks lowered goesOn => exact named
  | quit looks lowered ends => exact named
  | fail looks lowered => exact named
  | @store line stores =>
      have same : Worker.name ∘ Worker.notify = Worker.name := by
        funext worker
        unfold Function.comp Worker.notify
        cases worker.phase <;> rfl
      rw [store, List.getElem?_map, Option.map_map, same]
      exact named

theorem named_start : Named {} := ⟨nofun, nofun⟩

theorem Named.step (named : Named state) (raised : Raised state)
    (stepped : state.step? event = some next) : Named next := by
  have old : ∀ answer ∈ state.answers,
      next.workers[answer.asker]?.map Worker.name = some answer.name :=
    fun answer given => name_of_step stepped (named.answers answer given)
  have prompt : state.connecting = true →
      next.workers[state.asker]?.map Worker.name = some state.connectingName :=
    fun asks => name_of_step stepped (named.prompt asks)
  cases effect_of_step stepped with
  | arrive name => exact ⟨old, prompt⟩
  | @ask id worker found phase =>
      refine ⟨old, fun _ => ?_⟩
      change (state.workers.set id _)[id]?.map _ = some worker.name
      rw [List.getElem?_set_self (List.getElem?_eq_some_iff.mp found).1]
      rfl
  | wake found phase => exact ⟨old, prompt⟩
  | wait found phase raised => exact ⟨old, prompt⟩
  | reply found phase lowered => exact ⟨old, prompt⟩
  | hook reads raised => exact ⟨old, prompt⟩
  | enter reads => exact ⟨old, prompt⟩
  | take looks raised => exact ⟨old, prompt⟩
  | close reads => exact ⟨old, prompt⟩
  | command looks lowered goesOn =>
      exact ⟨fun answer given => old answer (by rwa [answers_command] at given), prompt⟩
  | quit looks lowered ends =>
      exact ⟨fun answer given => old answer (by rwa [answers_command] at given), prompt⟩
  | fail looks lowered =>
      exact ⟨fun answer given => old answer (by rwa [answers_command] at given), prompt⟩
  | @store line stores =>
      refine ⟨fun answer given => ?_, fun asks => Bool.noConfusion asks⟩
      rw [answers_store] at given
      rcases List.mem_append.mp given with before | new
      · exact old answer before
      · cases List.mem_singleton.mp new
        exact prompt (raised.storing line stores)

/-- What holds of the runs in which the requests do not overlap. -/
structure KeptInTurn (state : PromptState) : Prop where
  raised : Raised state
  inTurn : InTurn state
  named : Named state

theorem keptInTurn_of_run {events : List PromptEvent} (run : machine.Run Alone {} events state) :
    KeptInTurn state :=
  run.invariant
    (fun _ _ _ kept alone stepped =>
      ⟨kept.raised.step stepped, kept.inTurn.step kept.raised alone stepped,
        kept.named.step kept.raised stepped⟩)
    ⟨raised_start, inTurn_start, named_start⟩

/-- What has been returned is what was answered first. -/
theorem InTurn.replied_prefix (inTurn : InTurn state) : replied state <+: answered state := by
  rcases inTurn with settled | ⟨id, asking⟩
  · exact ⟨[], by rw [List.append_nil, settled.answered]⟩
  · rw [asking.answered]
    exact List.prefix_append _ _

/-- When nobody asks while another one waits, the callbacks return the passphrases in the
order in which they are taken, each to the request that it was taken for, under the name
of its service; at most the last one is still to be returned. -/
theorem answered_in_turn {events : List PromptEvent} (run : machine.Run Alone {} events state) :
    replied state <+: answered state ∧
      (answered state).length ≤ (replied state).length + 1 ∧
      ∀ answer ∈ state.answers,
        state.workers[answer.asker]?.map Worker.name = some answer.name := by
  obtain ⟨-, inTurn, named⟩ := keptInTurn_of_run run
  refine ⟨inTurn.replied_prefix, ?_, named.answers⟩
  · rcases inTurn with settled | ⟨id, asking⟩
    · rw [settled.answered]
      exact Nat.le_succ _
    · rw [asking.answered, List.length_append]
      split <;> simp

/-- Two requests one after the other, with a command in between. -/
theorem answered_in_turn_twice :
    ∃ state : PromptState, replied state = [(0, "home123"), (1, "guest456")] ∧
      replied state <+: answered state := by
  have executes : (machine.exec? Alone {}
      [.arrive "Home", .arrive "Guest", .ask 0, .hook, .enter "home123", .look, .store,
        .recheck 0, .enter "services", .look, .ask 1, .wake 1, .recheck 1, .enter "guest456",
        .look, .store, .recheck 1]).any
      (fun state => replied state = [(0, "home123"), (1, "guest456")]) = true := by
    decide
  obtain ⟨state, run, passes⟩ := Machine.Run.exists_of_exec executes
  exact ⟨state, of_decide_eq_true passes, (answered_in_turn run).1⟩

/-- Two requests that overlap both get the passphrase that is entered for the second. -/
example : (machine.exec? Machine.anyStep {}
    [.arrive "Home", .arrive "Guest", .ask 0, .ask 1, .hook, .enter "guest456", .look, .store,
      .recheck 0, .recheck 1]).any
    (fun state => replied state = [(0, "guest456"), (1, "guest456")] ∧
      answered state = [(1, "guest456")]) = true := by
  decide

end PromptState

end GConnman.Connmanctl
