import GConnman.Connmanctl.Reports
import GConnman.Connmanctl.Sessions

/-!
# What the user is told

The requests of a session go to connman, which answers each of them when it likes; the
loop hands the answers to the callbacks in the order in which they come, and what the
callbacks report goes to the terminal, as long as the main thread is in its loop.  So the
terminal shows for every request that reports one text, that of connman's answer.
-/

namespace GConnman.Connmanctl

open GConnman.Connman GConnman.Foundation

/-- A request with the report of its callback. -/
abbrev Asked (kind : Endpoint → Interface) := ObjectRequest kind × Option Report

/-- A request of a thread. -/
abbrev AskedBy (kind : Endpoint → Interface) := UserThread × Asked kind

variable {kind : Endpoint → Interface}

/-- The requests among some actions, with their reports. -/
def askedOf (actions : List (Action kind)) : List (Asked kind) :=
  actions.filterMap fun action =>
    match action with
    | .print _ => none
    | .request request report => some (request, report)

def lineAsked (entry : Client kind × String) : List (Asked kind) :=
  match entry.1.interpret entry.2 with
  | none => []
  | some interpretation => askedOf interpretation.state

/-- The requests of a session with their reports, in order. -/
def sessionAsked (session : Session kind) : List (Asked kind) :=
  (carriedOut session).flatMap lineAsked

/-- The callback that an answer is handed to, with the success. -/
def reportOf (reply : AskedBy kind × Bool) : Option (Report × Bool) :=
  reply.1.2.2.map fun report => (report, reply.2)

/-- What the user is told of an answer. -/
def toldOf (reply : AskedBy kind × Bool) : List String :=
  match reportOf reply with
  | none => []
  | some call => call.1.told call.2

/-- `answered` only records. -/
structure Dialogue (kind : Endpoint → Interface) where
  queue : CallQueue UserThread (Asked kind) := {}
  /-- The calls that connman has taken and not answered. -/
  pending : List (AskedBy kind) := []
  /-- The answers on their way. -/
  replies : List (AskedBy kind × Bool) := []
  answered : List (AskedBy kind × Bool) := []
  mailbox : Mailbox (Report × Bool) String := {}
  /-- The main thread is in its loop. -/
  reading : Bool := true

inductive DialogueEvent (kind : Endpoint → Interface) where
  | call (thread : UserThread) (asked : Asked kind)
  | send
  | take
  /-- connman answers one of the calls, or the bus gives it up. -/
  | answer (index : Nat) (success : Bool)
  /-- The loop hands the first answer to its callback. -/
  | dispatch
  /-- A callback gets on. -/
  | callback (id : Nat)
  /-- `event_hook` gets on. -/
  | hook
  /-- The main thread leaves its loop, at the end of the input or with a line that ends it. -/
  | leave

namespace Dialogue

def step? (loop : UserThread) (state : Dialogue kind) : DialogueEvent kind → Option (Dialogue kind)
  | .call thread asked => some { state with queue := state.queue.make loop thread asked }
  | .send => state.queue.send.map fun queue => { state with queue }
  | .take =>
      state.queue.take.map fun taken =>
        { state with queue := taken.2, pending := state.pending ++ [taken.1] }
  | .answer index success =>
      state.pending[index]?.map fun asked =>
        { state with
          pending := state.pending.eraseIdx index
          replies := state.replies ++ [(asked, success)]
          answered := state.answered ++ [(asked, success)] }
  | .dispatch =>
      match state.replies with
      | [] => none
      | reply :: rest =>
          match reportOf reply with
          | none => some { state with replies := rest }
          | some call =>
              (state.mailbox.step? callbackOf (.call call)).map fun mailbox =>
                { state with replies := rest, mailbox }
  | .callback id => (state.mailbox.step? callbackOf (.post id)).map fun mailbox =>
      { state with mailbox }
  | .hook =>
      if state.reading then
        (state.mailbox.step? callbackOf .read).map fun mailbox => { state with mailbox }
      else none
  | .leave => some { state with reading := false }

/-- The system whose loop runs on this thread. -/
def machine (loop : UserThread) : Machine (Dialogue kind) (DialogueEvent kind) :=
  ⟨fun state => state.step? loop⟩

/-- What an event does. -/
inductive Effect (loop : UserThread) (state : Dialogue kind) :
    DialogueEvent kind → Dialogue kind → Prop where
  | call (thread : UserThread) (asked : Asked kind) :
      Effect loop state (.call thread asked)
        { state with queue := state.queue.make loop thread asked }
  | send {queue : CallQueue UserThread (Asked kind)} (sends : state.queue.send = some queue) :
      Effect loop state .send { state with queue }
  | take {asked : AskedBy kind} {queue : CallQueue UserThread (Asked kind)}
      (takes : state.queue.take = some (asked, queue)) :
      Effect loop state .take { state with queue, pending := state.pending ++ [asked] }
  | answer {index : Nat} {asked : AskedBy kind} (success : Bool)
      (waits : state.pending[index]? = some asked) :
      Effect loop state (.answer index success)
        { state with
          pending := state.pending.eraseIdx index
          replies := state.replies ++ [(asked, success)]
          answered := state.answered ++ [(asked, success)] }
  | silent {reply : AskedBy kind × Bool} {rest : List (AskedBy kind × Bool)}
      (first : state.replies = reply :: rest) (unreported : reportOf reply = none) :
      Effect loop state .dispatch { state with replies := rest }
  | dispatch {reply : AskedBy kind × Bool} {rest : List (AskedBy kind × Bool)}
      {call : Report × Bool} {mailbox : Mailbox (Report × Bool) String}
      (first : state.replies = reply :: rest) (reported : reportOf reply = some call)
      (begins : state.mailbox.Effect callbackOf (.call call) mailbox) :
      Effect loop state .dispatch { state with replies := rest, mailbox }
  | callback {id : Nat} {mailbox : Mailbox (Report × Bool) String}
      (gets : state.mailbox.Effect callbackOf (.post id) mailbox) :
      Effect loop state (.callback id) { state with mailbox }
  | hook {mailbox : Mailbox (Report × Bool) String} (reads : state.reading = true)
      (gets : state.mailbox.Effect callbackOf .read mailbox) :
      Effect loop state .hook { state with mailbox }
  | leave : Effect loop state .leave { state with reading := false }

variable {loop : UserThread} {state next : Dialogue kind} {event : DialogueEvent kind}

theorem effect_of_step (stepped : state.step? loop event = some next) :
    Effect loop state event next := by
  cases event with
  | call thread asked =>
      cases stepped
      exact .call thread asked
  | send =>
      obtain ⟨queue, sends, rfl⟩ := Option.map_eq_some_iff.mp stepped
      exact .send sends
  | take =>
      obtain ⟨⟨asked, queue⟩, takes, rfl⟩ := Option.map_eq_some_iff.mp stepped
      exact .take takes
  | answer index success =>
      obtain ⟨asked, waits, rfl⟩ := Option.map_eq_some_iff.mp stepped
      exact .answer success waits
  | dispatch =>
      simp only [step?] at stepped
      split at stepped
      · cases stepped
      · rename_i reply rest first
        split at stepped
        · rename_i unreported
          cases stepped
          exact .silent first unreported
        · rename_i call reported
          obtain ⟨mailbox, begins, rfl⟩ := Option.map_eq_some_iff.mp stepped
          exact .dispatch first reported (Mailbox.effect_of_step begins)
  | callback id =>
      obtain ⟨mailbox, gets, rfl⟩ := Option.map_eq_some_iff.mp stepped
      exact .callback (Mailbox.effect_of_step gets)
  | hook =>
      obtain ⟨reads, happened⟩ := Option.ite_none_right_eq_some.mp stepped
      obtain ⟨mailbox, gets, rfl⟩ := Option.map_eq_some_iff.mp happened
      exact .hook reads (Mailbox.effect_of_step gets)
  | leave =>
      cases stepped
      exact .leave

/-! ## Nothing is lost on the way -/

/-- Every request is on its way, with connman, or answered, and every answer is on its
way or has been handed to its callback. -/
structure Sound (state : Dialogue kind) : Prop where
  whole : state.queue.inTurn.Perm state.queue.made
  taken : state.queue.taken.Perm (state.pending ++ state.answered.map Prod.fst)
  calledBack : state.mailbox.calls ++ state.replies.filterMap reportOf =
    state.answered.filterMap reportOf
  reports : state.mailbox.Sound callbackOf

theorem sound_start : Sound ({} : Dialogue kind) where
  whole := .refl _
  taken := .refl _
  calledBack := rfl
  reports := Mailbox.sound_start

/-- Only a call is a new one. -/
theorem calls_eq {before after : Mailbox (Report × Bool) String}
    {happens : MailboxEvent (Report × Bool)}
    (effect : before.Effect callbackOf happens after) (old : ∀ call, happens ≠ .call call) :
    after.calls = before.calls := by
  cases effect with
  | call call => exact absurd rfl (old call)
  | _ => rfl

theorem Sound.step (sound : state.Sound) (effect : Effect loop state event next) : next.Sound := by
  obtain ⟨whole, taken, calledBack, reports⟩ := sound
  cases effect with
  | call thread asked =>
      refine ⟨CallQueue.perm_make whole, ?_, calledBack, reports⟩
      rw [CallQueue.taken_make]
      exact taken
  | send sends =>
      obtain ⟨made, same⟩ := CallQueue.records_of_send sends
      refine ⟨?_, ?_, calledBack, reports⟩
      · rw [CallQueue.inTurn_send sends, made]
        exact whole
      · rw [same]
        exact taken
  | @take asked queue takes =>
      obtain ⟨-, made, more⟩ := CallQueue.records_of_take takes
      refine ⟨?_, ?_, calledBack, reports⟩
      · rw [CallQueue.inTurn_take takes, made]
        exact whole
      · rw [more]
        refine (taken.append_right [asked]).trans ?_
        simp only [List.append_assoc]
        exact List.perm_append_comm.append_left state.pending
  | @answer index asked success waits =>
      refine ⟨whole, taken.trans ?_, ?_, reports⟩
      · obtain ⟨inside, rfl⟩ := List.getElem?_eq_some_iff.mp waits
        rw [List.map_append, ← List.append_assoc]
        refine ((List.getElem_cons_eraseIdx_perm inside).symm.append_right _).trans ?_
        exact (List.perm_append_singleton _ _).symm
      · rw [List.filterMap_append, List.filterMap_append, ← calledBack, List.append_assoc]
  | silent first unreported =>
      refine ⟨whole, taken, ?_, reports⟩
      rw [first, List.filterMap_cons_none unreported] at calledBack
      exact calledBack
  | dispatch first reported begins =>
      refine ⟨whole, taken, ?_, reports.step callbackOf_proper begins⟩
      rw [first, List.filterMap_cons_some reported] at calledBack
      cases begins
      rw [← calledBack, List.append_assoc]
      rfl
  | callback gets =>
      refine ⟨whole, taken, ?_, reports.step callbackOf_proper gets⟩
      rw [calls_eq gets nofun]
      exact calledBack
  | hook reads gets =>
      refine ⟨whole, taken, ?_, reports.step callbackOf_proper gets⟩
      rw [calls_eq gets nofun]
      exact calledBack
  | leave => exact ⟨whole, taken, calledBack, reports⟩

/-! ## Everything gets to the terminal -/

section Progress

variable (state)

/-- Nothing new is asked, the main thread stays in its loop, and the hook comes by when it
has something to do. -/
def Proceeds : DialogueEvent kind → Prop
  | .call _ _ | .leave => False
  | .hook => state.mailbox.Proceeds .read
  | _ => True

/-- Nothing is on its way, and everything that was to be reported has been. -/
structure Quiet : Prop where
  queue : state.queue.Quiet
  answered : state.pending = []
  handed : state.replies = []
  reports : state.mailbox.Quiet

/-- The steps that are left; a callback has at most four of its own. -/
def ahead : Nat :=
  28 * state.queue.waiting.length + 27 * state.queue.sent.length + 26 * state.pending.length +
    25 * state.replies.length + state.mailbox.ahead

end Progress

theorem callbackOf_length (call : Report × Bool) : (callbackOf call).length ≤ 4 := by
  obtain ⟨report, success⟩ := call
  cases report <;> cases success <;> simp [callbackOf, Report.callback]

theorem ahead_lt (sound : state.Sound) (proceeds : state.Proceeds event)
    (effect : Effect loop state event next) : next.ahead < state.ahead := by
  unfold ahead
  cases effect with
  | call thread asked => exact proceeds.elim
  | send sends =>
      unfold CallQueue.send at sends
      split at sends
      · cases sends
      · rename_i first rest waits
        cases sends
        simp only [waits, List.length_cons, List.length_append, List.length_nil]
        omega
  | take takes =>
      unfold CallQueue.take at takes
      split at takes
      · cases takes
      · rename_i first rest sent
        cases takes
        simp only [sent, List.length_cons, List.length_append, List.length_nil]
        omega
  | answer success waits =>
      have inside := (List.getElem?_eq_some_iff.mp waits).1
      simp only [List.length_eraseIdx_of_lt inside, List.length_append, List.length_singleton]
      omega
  | silent first unreported =>
      simp only [first, List.length_cons]
      omega
  | @dispatch reply rest call mailbox first reported begins =>
      have short := callbackOf_length call
      cases begins
      simp only [first, List.length_cons, Mailbox.ahead_call]
      omega
  | @callback id mailbox gets =>
      have goes : state.mailbox.Proceeds (.post id) := trivial
      have fewer := sound.reports.ahead_lt goes gets
      dsimp only
      omega
  | hook reads gets =>
      have goes : state.mailbox.Proceeds .read := proceeds
      have fewer := sound.reports.ahead_lt goes gets
      dsimp only
      omega
  | leave => exact proceeds.elim

/-- A request that has not been answered and handed on can go on. -/
theorem exists_move (unsettled : ¬ (state.queue.Quiet ∧ state.pending = [] ∧ state.replies = [])) :
    ∃ event next, state.Proceeds event ∧ state.step? loop event = some next := by
  by_contra stuck
  have none_of : ∀ event, state.Proceeds event → state.step? loop event = none := by
    intro event proceeds
    by_contra stepped
    obtain ⟨next, step⟩ := Option.ne_none_iff_exists'.mp stepped
    exact stuck ⟨event, next, proceeds, step⟩
  refine unsettled ⟨⟨?_, ?_⟩, ?_, ?_⟩
  · have sends := none_of .send trivial
    cases waiting : state.queue.waiting with
    | nil => rfl
    | cons first rest => simp [step?, CallQueue.send, waiting] at sends
  · have takes := none_of .take trivial
    cases sent : state.queue.sent with
    | nil => rfl
    | cons first rest => simp [step?, CallQueue.take, sent] at takes
  · have answers := none_of (.answer 0 true) trivial
    cases pending : state.pending with
    | nil => rfl
    | cons first rest => simp [step?, pending] at answers
  · have dispatches := none_of .dispatch trivial
    cases replies : state.replies with
    | nil => rfl
    | cons reply rest =>
        cases reported : reportOf reply <;>
          simp [step?, replies, reported, Mailbox.step?] at dispatches

theorem exists_step (sound : state.Sound) (reads : state.reading = true)
    (noisy : ¬ state.Quiet) :
    ∃ event next, state.Proceeds event ∧ state.step? loop event = some next := by
  by_cases settled : state.queue.Quiet ∧ state.pending = [] ∧ state.replies = []
  · -- only the callbacks and the hook are left
    have unfinished : ¬ state.mailbox.Quiet := fun quiet =>
      noisy ⟨settled.1, settled.2.1, settled.2.2, quiet⟩
    obtain ⟨happens, mailbox, proceeds, stepped⟩ := sound.reports.exists_step unfinished
    cases happens with
    | call call => exact proceeds.elim
    | post id =>
        exact ⟨.callback id, { state with mailbox }, trivial, by
          simp only [step?, stepped, Option.map_some]⟩
    | read =>
        exact ⟨.hook, { state with mailbox }, proceeds, by
          simp only [step?, if_pos reads, stepped, Option.map_some]⟩
  · exact exists_move settled

theorem reading_of_step (proceeds : state.Proceeds event)
    (effect : Effect loop state event next) : next.reading = state.reading := by
  cases effect with
  | leave => exact proceeds.elim
  | _ => rfl

theorem progress : Machine.Progress (machine loop : Machine (Dialogue kind) _) Proceeds
    (fun state => state.Sound ∧ state.reading = true) Quiet ahead where
  preserved kept proceeds stepped :=
    have effect := effect_of_step stepped
    ⟨kept.1.step effect, (reading_of_step proceeds effect).trans kept.2⟩
  lowers kept proceeds stepped := ahead_lt kept.1 proceeds (effect_of_step stepped)
  enabled kept noisy := exists_step kept.1 kept.2 noisy

variable {guard : Dialogue kind → DialogueEvent kind → Prop} {events : List (DialogueEvent kind)}
  {finish : Dialogue kind}

theorem sound_of_run (run : (machine loop).Run guard state events finish) (sound : state.Sound) :
    finish.Sound :=
  run.invariant (fun _ _ _ before _ stepped => before.step (effect_of_step stepped)) sound

theorem made_of_proceeds (run : (machine loop).Run Proceeds state events finish) :
    finish.queue.made = state.queue.made := by
  induction run with
  | refl => rfl
  | tail before proceeds stepped ih =>
      rw [← ih]
      cases effect_of_step stepped with
      | call thread asked => exact proceeds.elim
      | send sends => exact (CallQueue.records_of_send sends).1
      | take takes => exact (CallQueue.records_of_take takes).2.1
      | _ => rfl

/-- When it is quiet, every request has been answered, and once. -/
theorem Sound.perm_answered (sound : state.Sound) (quiet : state.Quiet) :
    (state.answered.map Prod.fst).Perm state.queue.made := by
  have taken := sound.taken
  have whole := sound.whole
  rw [quiet.answered, List.nil_append] at taken
  rw [CallQueue.inTurn, quiet.queue.1, quiet.queue.2, List.append_nil, List.append_nil] at whole
  exact taken.symm.trans whole

/-- Then the terminal shows what the user is told of each answer. -/
theorem Sound.perm_printed (sound : state.Sound) (quiet : state.Quiet) :
    (state.mailbox.taken.map Prod.snd).Perm (state.answered.flatMap toldOf) := by
  have reports := sound.reports
  have printed : (state.mailbox.taken.map Prod.snd).Perm
      (state.mailbox.calls.flatMap fun call => call.1.told call.2) := by
    refine Mailbox.perm_of_itemsOf (fun id call called => ?_) fun entry member => ?_
    · rw [reports.itemsOf_taken quiet.reports called]
      exact items_callbackOf call.1 call.2
    · rw [reports.kept.taken_eq quiet.reports] at member
      exact reports.told.known entry member
  have calledBack := sound.calledBack
  rw [quiet.handed, List.filterMap_nil, List.append_nil] at calledBack
  rw [calledBack] at printed
  have same : (state.answered.filterMap reportOf).flatMap (fun call => call.1.told call.2) =
      state.answered.flatMap toldOf := by
    induction state.answered with
    | nil => rfl
    | cons reply rest ih =>
        rw [List.flatMap_cons, ← ih, toldOf]
        cases reported : reportOf reply with
        | none => rw [List.filterMap_cons_none reported, List.nil_append]
        | some call => rw [List.filterMap_cons_some reported, List.flatMap_cons]
  rw [← same]
  exact printed

/-- The session is what this thread has made its requests for. -/
def Carries (thread : UserThread) (session : Session kind) (state : Dialogue kind) : Prop :=
  CallQueue.callsOf thread state.queue.made =
    (sessionAsked session).map fun asked => (thread, asked)

/-- After a session that has not ended the loop of the main thread, whatever other threads
ask, connman, the loop, the callbacks and the hook take only so many steps, and when none
is left connman has answered every request of the session once, and the terminal has shown
for every request, of the session and of the others, one text: that of its answer. -/
theorem session_told {thread : UserThread} {session : Session kind}
    (run : (machine loop).Run guard {} events state) (carries : Carries thread session state)
    (reads : state.reading = true) :
    (machine loop).Attains Proceeds (fun finish =>
      ((finish.answered.filter fun reply => reply.1.1 = thread).map fun reply => reply.1.2).Perm
          (sessionAsked session) ∧
        (finish.answered.map Prod.fst).Perm finish.queue.made ∧
        (finish.mailbox.taken.map Prod.snd).Perm (finish.answered.flatMap toldOf)) state := by
  have sound := sound_of_run run sound_start
  have attains : (machine loop).Attains Proceeds Quiet state := progress.attains ⟨sound, reads⟩
  refine ⟨attains.bounded, fun later finish more stuck => ?_⟩
  have quiet := attains.stops later finish more stuck
  have after := sound_of_run more sound
  have answered := after.perm_answered quiet
  refine ⟨?_, answered, after.perm_printed quiet⟩
  have own := answered.filter fun asked => asked.1 = thread
  rw [made_of_proceeds more] at own
  have made : (state.queue.made.filter fun asked => asked.1 = thread) =
      (sessionAsked session).map fun asked => (thread, asked) := carries
  rw [made, List.filter_map] at own
  have mapped := own.map Prod.snd
  rw [List.map_map, List.map_map] at mapped
  simpa [Function.comp_def] using mapped

/-- The first of two lines has been answered, and another thread's request is on its way. -/
theorem session_told_twice :
    ∃ (state finish : Dialogue managerAndWifi) (events : _), state.answered.length = 1 ∧
      (machine 0).Run Proceeds state events finish ∧
      ((finish.answered.filter fun reply => reply.1.1 = 1).map fun reply => reply.1.2).Perm
        [(⟨1, .scan⟩, some (.scan "")),
          (⟨0, .registerAgent internalAgentPath⟩, some (.agent "on"))] ∧
      (finish.mailbox.taken.map Prod.snd).Perm (finish.answered.flatMap toldOf) := by
  have executes : ((machine 0).exec? Machine.anyStep ({} : Dialogue managerAndWifi)
      [.call 1 (⟨1, .scan⟩, some (.scan "")), .send, .take,
        .call 2 (⟨1, .set (.setPowered true)⟩, none),
        .call 1 (⟨0, .registerAgent internalAgentPath⟩, some (.agent "on")), .send,
        .answer 0 false]).any
      (fun state => state.answered.length = 1 ∧ state.reading = true ∧
        CallQueue.callsOf 1 state.queue.made =
          (sessionAsked [(wifiClient, "scan wifi"), (wifiClient, "agent on")]).map
            fun asked => (1, asked)) = true := by
    decide
  obtain ⟨state, run, passes⟩ := Machine.Run.exists_of_exec executes
  obtain ⟨one, reads, carries⟩ := of_decide_eq_true passes
  obtain ⟨events, finish, more, own, -, printed⟩ := (session_told run carries reads).exists_run
  have asked : sessionAsked [(wifiClient, "scan wifi"), (wifiClient, "agent on")] =
      [(⟨1, .scan⟩, some (.scan "")),
        (⟨0, .registerAgent internalAgentPath⟩, some (.agent "on"))] := by decide
  rw [asked] at own
  exact ⟨state, finish, events, one, more, own, printed⟩

/-- After `quit` the report of a scan stays with the client. -/
example : sessionAsked [(wifiClient, "scan wifi"), (wifiClient, "quit"), (wifiClient, "agent on")] =
    [(⟨1, .scan⟩, some (.scan ""))] ∧
      (((machine 0).exec? Machine.anyStep ({} : Dialogue managerAndWifi)
        [.call 1 (⟨1, .scan⟩, some (.scan "")), .send, .take, .leave, .answer 0 true, .dispatch,
          .callback 0, .callback 0]).map fun state => (state.step? 0 .hook).isSome) =
        some false := by
  decide

end Dialogue

end GConnman.Connmanctl
