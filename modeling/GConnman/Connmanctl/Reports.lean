import GConnman.Connmanctl.Commands
import GConnman.Foundation.Mailbox

/-!
# Reports

The callbacks of the client's requests run on other threads than the one that writes to the
terminal.  Each leaves its text in `message`, under `message_mutex`, and then sets
`has_message`; `event_hook`, which readline calls again and again, prints and empties
`message` when it finds that set.

Some callbacks set it after they have unlocked the mutex and some before, and the one of
`agent` sets it without a text where it has failed.
-/

namespace GConnman.Connmanctl

open GConnman.Foundation

/-- What the callback of a request does. -/
def Report.callback (success : Bool) (report : Report) : List (PostStep String) :=
  match report with
  | .agent _ =>
      if success then [.lock, .write (report.message success), .unlock, .signal] else [.signal]
  | .connect _ _ => [.lock, .write (report.message success), .signal, .unlock]
  | _ => [.lock, .write (report.message success), .unlock, .signal]

/-- What the user is told. -/
def Report.told (success : Bool) (report : Report) : List String :=
  match report with
  | .agent _ => if success then [report.message success] else []
  | _ => [report.message success]

/-- The callback of a report, called with the success of its request. -/
def callbackOf (call : Report × Bool) : List (PostStep String) := call.1.callback call.2

/-- The callbacks with `event_hook`; the text that it has printed is what the reader has
taken. -/
def reports : Machine (Mailbox (Report × Bool) String) (MailboxEvent (Report × Bool)) :=
  Mailbox.machine callbackOf

/-- Every callback sets `has_message` after its text. -/
theorem callbackOf_proper (call : Report × Bool) :
    PostStep.proper false false (callbackOf call) = true := by
  obtain ⟨report, success⟩ := call
  cases report <;> cases success <;> rfl

theorem items_callbackOf (report : Report) (success : Bool) :
    PostStep.items (callbackOf (report, success)) = report.told success := by
  cases report <;> cases success <;> rfl

variable {state finish : Mailbox (Report × Bool) String}
  {guard : Mailbox (Report × Bool) String → MailboxEvent (Report × Bool) → Prop}
  {events : List (MailboxEvent (Report × Bool))}

theorem sound_of_reports (run : reports.Run guard {} events state) :
    state.Sound callbackOf :=
  Mailbox.sound_of_run callbackOf_proper run Mailbox.sound_start

/-- While nothing new is called back the calls stay the same. -/
theorem calls_of_proceeds (run : reports.Run Mailbox.Proceeds state events finish) :
    finish.calls = state.calls := by
  induction run with
  | refl => rfl
  | tail before proceeds stepped ih =>
      rw [← ih]
      cases Mailbox.effect_of_step stepped with
      | call call => exact proceeds.elim
      | _ => rfl

/-- The terminal shows the reports in the order in which the callbacks wrote them, and of
no callback more than its report.  If no more callbacks come, the hook and the callbacks
take only so many steps, and when none is left the report of every callback has been
printed once. -/
theorem reports_printed (run : reports.Run guard {} events state) :
    state.taken <+: state.written ∧
    (∀ entry ∈ state.written, entry.1 < state.calls.length) ∧
    (∀ id report success, state.calls[id]? = some (report, success) →
      Mailbox.itemsOf id state.written <+: report.told success) ∧
    reports.Attains Mailbox.Proceeds
      (fun finish => finish.taken = finish.written ∧ finish.calls = state.calls ∧
        ∀ id report success, state.calls[id]? = some (report, success) →
          Mailbox.itemsOf id finish.taken = report.told success) state := by
  have sound := sound_of_reports run
  have attains : reports.Attains Mailbox.Proceeds Mailbox.Quiet state :=
    (Mailbox.progress callbackOf_proper).attains sound
  refine ⟨sound.kept.taken_prefix, sound.told.known, ?_, attains.bounded, ?_⟩
  · intro id report success called
    rw [← items_callbackOf, ← sound.told.whole id _ called]
    exact List.prefix_append _ _
  · intro later finish more stuck
    have quiet := attains.stops later finish more stuck
    have after : finish.Sound callbackOf :=
      Mailbox.sound_of_run callbackOf_proper more sound
    have same := calls_of_proceeds more
    refine ⟨after.kept.taken_eq quiet, same, fun id report success called => ?_⟩
    rw [← same] at called
    rw [← items_callbackOf]
    exact after.itemsOf_taken quiet called

/-- One callback has not set the flag yet when the hook takes it down for another one. -/
theorem reports_printed_between :
    ∃ state events finish, state.taken = [] ∧ state.reader = .due ∧
      reports.Run Mailbox.Proceeds state events finish ∧
      Mailbox.itemsOf 0 finish.taken = ["Technology wifi scanned successfully.\n"] ∧
      Mailbox.itemsOf 1 finish.taken = ["Service home connected successfully.\n"] ∧
      Mailbox.itemsOf 2 finish.taken = [] := by
  have executes : (reports.exec? Machine.anyStep {}
      [.call (.scan "wifi", true), .call (.connect "home" true, true),
        .call (.agent "on", false), .post 0, .post 0, .post 0, .post 1, .post 1, .post 1,
        .read]).any
      (fun state => state.taken = [] ∧ state.reader = .due ∧
        state.calls = [(.scan "wifi", true), (.connect "home" true, true),
          (.agent "on", false)]) = true := by
    decide
  obtain ⟨state, run, passes⟩ := Machine.Run.exists_of_exec executes
  obtain ⟨nothing, due, called⟩ := of_decide_eq_true passes
  obtain ⟨events, finish, more, -, -, told⟩ := (reports_printed run).2.2.2.exists_run
  rw [called] at told
  exact ⟨state, events, finish, nothing, due, more, told 0 _ _ rfl, told 1 _ _ rfl,
    told 2 _ _ rfl⟩

end GConnman.Connmanctl
