import Mathlib.Data.Multiset.Replicate
import GConnman.Foundation.TransitionSystem
import GConnman.Foundation.Unwinding

/-!
# Construction of a Connman

A Connman is built of the bus, the clock and the manager, whose own parts are its
proxy and its agent.  Each of them can raise.  What is complete when a later part
raises is destroyed again, and so is the node info of an agent that cannot be
registered.  The constructor of the bus pushes its context on the stack of
thread-default contexts of the calling thread and pops it only when nothing has
raised in between.
-/

namespace GConnman.Connman

open GConnman.Foundation

/-- A `GMainContext`. -/
abbrev MainContext := Nat

/-- Where construction can raise. -/
inductive FailurePoint where
  /-- `Failed to connect to DBus`. -/
  | busConnection
  /-- `Failed to create proxy for bus name`. -/
  | introspectionProxy
  /-- `Failed to introspect object path or interface`. -/
  | introspectCall
  | clockProxy
  | managerProxy
  /-- `Failed to parse introspection XML`. -/
  | introspectionXml
  /-- `Failed to register agent`. -/
  | agentRegistration
  deriving DecidableEq, Repr

/-- The points in the constructor of the bus. -/
def FailurePoint.inDBus : FailurePoint → Bool
  | busConnection | introspectionProxy | introspectCall => true
  | _ => false

/-- What the constructors acquire. -/
structure Process where
  /-- The thread-default contexts of the calling thread, the current one first. -/
  threadDefault : List MainContext
  /-- The contexts that are referenced. -/
  contexts : Multiset MainContext := 0
  /-- The references to the connection of the system bus. -/
  connections : Nat := 0
  /-- The contexts whose loop threads run. -/
  loops : Multiset MainContext := 0
  /-- The `GDBusProxy` objects. -/
  proxies : Nat := 0
  nodeInfos : Nat := 0
  /-- The paths agents are registered at on the connection. -/
  exported : Multiset String := 0

/-- A `DBus` whose constructor has ended. -/
structure BusObject where
  ctx : MainContext
  /-- The loop thread has not been joined. -/
  joinable : Bool := true
  deriving DecidableEq, Repr

namespace Process

variable (process : Process)

/-- `g_main_context_push_thread_default`. -/
def pushThreadDefault (ctx : MainContext) : Process :=
  { process with threadDefault := ctx :: process.threadDefault }

/-- `g_main_context_pop_thread_default` refuses a context that is not the current one. -/
def popThreadDefault (ctx : MainContext) : Process :=
  match process.threadDefault with
  | current :: below => if current = ctx then { process with threadDefault := below } else process
  | [] => process

/-! ## The bus -/

/-- `DBus::start` returns when the loop runs. -/
def start (ctx : MainContext) : Process := { process with loops := ctx ::ₘ process.loops }

/-- `DBus::stop` returns when the loop thread has been joined. -/
def stop (bus : BusObject) : Process :=
  if bus.joinable then { process with loops := process.loops.erase bus.ctx } else process

/-- `DBus::DBus`.  The destructor of an object whose constructor raises does not run. -/
def constructDBus (ctx : MainContext) (fails : Option FailurePoint) :
    Outcome FailurePoint Process :=
  let process := { process with contexts := ctx ::ₘ process.contexts }
  let process := process.pushThreadDefault ctx
  if fails = some .busConnection then ⟨process, some .busConnection⟩
  else
    let process := { process with connections := process.connections + 1 }
    if fails = some .introspectionProxy then ⟨process, some .introspectionProxy⟩
    else
      let process := { process with proxies := process.proxies + 1 }
      -- The call has been answered; the proxy goes before the answer is looked at.
      let process := { process with proxies := process.proxies - 1 }
      if fails = some .introspectCall then ⟨process, some .introspectCall⟩
      else
        let process := process.popThreadDefault ctx
        .done (process.start ctx)

/-- `DBus::~DBus`. -/
def destroyDBus (bus : BusObject) : Process :=
  let process := process.stop bus
  let process := process.pushThreadDefault bus.ctx
  let process := { process with connections := process.connections - 1 }
  let process := process.popThreadDefault bus.ctx
  { process with contexts := process.contexts.erase bus.ctx }

/-! ## The clock and the manager -/

/-- `DBusProxy::DBusProxy`, which raises at a point of its own. -/
def constructProxy (point : FailurePoint) (fails : Option FailurePoint) (process : Process) :
    Outcome FailurePoint Process :=
  if fails = some point then ⟨process, some point⟩
  else .done { process with proxies := process.proxies + 1 }

/-- `DBusProxy::~DBusProxy`. -/
def destroyProxy : Process := { process with proxies := process.proxies - 1 }

/-- `Agent::Agent`.  A path can be registered once. -/
def constructAgent (path : String) (fails : Option FailurePoint) (process : Process) :
    Outcome FailurePoint Process :=
  if fails = some .introspectionXml then ⟨process, some .introspectionXml⟩
  else
    let process := { process with nodeInfos := process.nodeInfos + 1 }
    if fails = some .agentRegistration ∨ path ∈ process.exported then
      ⟨{ process with nodeInfos := process.nodeInfos - 1 }, some .agentRegistration⟩
    else .done { process with exported := path ::ₘ process.exported }

/-- `Agent::~Agent`. -/
def destroyAgent (path : String) (process : Process) : Process :=
  { process with
    exported := process.exported.erase path
    nodeInfos := process.nodeInfos - 1 }

/-- The path an agent has unless it is given one. -/
def agentPath : String := "/net/amarula/gconnman/agent"

/-- `Manager::Manager`.  What it does after it has built its agent does not raise. -/
def constructManager (fails : Option FailurePoint) : Process → Outcome FailurePoint Process :=
  Outcome.holding (constructProxy .managerProxy fails) destroyProxy (constructAgent agentPath fails)

/-- `Manager::~Manager`. -/
def destroyManager (process : Process) : Process := (destroyAgent agentPath process).destroyProxy

/-! ## The Connman -/

/-- `Connman::Connman`. -/
def constructConnman (ctx : MainContext) (fails : Option FailurePoint) (process : Process) :
    Outcome FailurePoint Process :=
  Outcome.holding (fun process => process.constructDBus ctx fails)
    (fun process => process.destroyDBus { ctx })
    (Outcome.holding (constructProxy .clockProxy fails) destroyProxy (constructManager fails))
    process

/-- `Connman::~Connman`.  A clock or a manager somebody else holds stays. -/
def destroyConnman (ctx : MainContext) (clockHeld managerHeld : Bool) : Process :=
  let process := process.stop { ctx }
  let process := if managerHeld then process else process.destroyManager
  let process := if clockHeld then process else process.destroyProxy
  process.destroyDBus { ctx, joinable := false }

/-! ## What an attempt leaves -/

/-- After the constructor of the bus. -/
def opened (ctx : MainContext) (process : Process) : Process :=
  { process with
    contexts := ctx ::ₘ process.contexts
    connections := process.connections + 1
    loops := ctx ::ₘ process.loops }

/-- After the constructor of the bus has raised. -/
def abandoned (ctx : MainContext) (point : FailurePoint) : Process :=
  { process with
    threadDefault := ctx :: process.threadDefault
    contexts := ctx ::ₘ process.contexts
    connections := process.connections + if point = .busConnection then 0 else 1 }

def withProxy (process : Process) : Process := { process with proxies := process.proxies + 1 }

def withAgent (path : String) (process : Process) : Process :=
  { process with
    nodeInfos := process.nodeInfos + 1
    exported := path ::ₘ process.exported }

/-- After the constructor of the Connman. -/
def built (ctx : MainContext) : Process → Process :=
  ((withAgent agentPath ∘ withProxy) ∘ withProxy) ∘ opened ctx

theorem constructDBus_of_raised (ctx : MainContext) {point : FailurePoint}
    (inDBus : point.inDBus = true) :
    process.constructDBus ctx (some point) = ⟨process.abandoned ctx point, some point⟩ := by
  cases point <;> first | rfl | cases inDBus

theorem constructDBus_of_done (ctx : MainContext) {fails : Option FailurePoint}
    (elsewhere : fails.any FailurePoint.inDBus = false) :
    process.constructDBus ctx fails = .done (process.opened ctx) := by
  have other : fails ≠ some .busConnection ∧ fails ≠ some .introspectionProxy ∧
      fails ≠ some .introspectCall := by
    refine ⟨?_, ?_, ?_⟩ <;> rintro rfl <;> cases elsewhere
  simp [constructDBus, other, pushThreadDefault, popThreadDefault, start, opened]

@[simp] theorem destroyDBus_opened (ctx : MainContext) :
    (process.opened ctx).destroyDBus { ctx } = process := by
  simp [destroyDBus, opened, stop, pushThreadDefault, popThreadDefault]

@[simp] theorem destroyProxy_withProxy : process.withProxy.destroyProxy = process := rfl

theorem transacts_constructProxy (point : FailurePoint) (fails : Option FailurePoint) :
    Outcome.Transacts (constructProxy point fails) withProxy := by
  intro process
  by_cases failed : fails = some point
  · exact .inl ⟨point, if_pos failed⟩
  · exact .inr (if_neg failed)

theorem transacts_constructAgent (path : String) (fails : Option FailurePoint) :
    Outcome.Transacts (constructAgent path fails) (withAgent path) := by
  intro process
  unfold constructAgent
  split
  · exact .inl ⟨_, rfl⟩
  · dsimp only
    split
    · exact .inl ⟨_, rfl⟩
    · exact .inr rfl

theorem transacts_constructManager (fails : Option FailurePoint) :
    Outcome.Transacts (constructManager fails) (withAgent agentPath ∘ withProxy) :=
  (transacts_constructProxy .managerProxy fails).holding destroyProxy_withProxy
    (transacts_constructAgent agentPath fails)

/-- An attempt that does not fail in the bus builds the Connman or leaves no trace. -/
theorem transacts_constructConnman (ctx : MainContext) {fails : Option FailurePoint}
    (elsewhere : fails.any FailurePoint.inDBus = false) :
    Outcome.Transacts (constructConnman ctx fails) (built ctx) := by
  have bus : Outcome.Transacts (fun process => process.constructDBus ctx fails) (opened ctx) :=
    fun process => .inr (process.constructDBus_of_done ctx elsewhere)
  exact bus.holding (fun process => process.destroyDBus_opened ctx)
    ((transacts_constructProxy .clockProxy fails).holding destroyProxy_withProxy
      (transacts_constructManager fails))

/-- The destructor leaves the stack of the thread as it was, releases the context, joins
the loop thread, and takes the agent off the connection with the manager. -/
theorem destroyConnman_effect (ctx : MainContext) (clockHeld managerHeld : Bool) :
    (process.destroyConnman ctx clockHeld managerHeld).threadDefault = process.threadDefault ∧
      (process.destroyConnman ctx clockHeld managerHeld).contexts = process.contexts.erase ctx ∧
      (process.destroyConnman ctx clockHeld managerHeld).loops = process.loops.erase ctx ∧
      (process.destroyConnman ctx clockHeld managerHeld).exported =
        if managerHeld then process.exported else process.exported.erase agentPath := by
  cases clockHeld <;> cases managerHeld <;>
    simp [destroyConnman, destroyDBus, stop, pushThreadDefault, popThreadDefault, destroyManager,
      destroyAgent, destroyProxy]

/-- An attempt that fails in the bus leaves its context behind. -/
theorem constructConnman_of_raised (ctx : MainContext) {point : FailurePoint}
    (inDBus : point.inDBus = true) :
    process.constructConnman ctx (some point) = ⟨process.abandoned ctx point, some point⟩ :=
  Outcome.holding_of_raised (process.constructDBus_of_raised ctx inDBus)

end Process

/-! ## Attempts -/

/-- The calling thread, with the contexts of the Connmans it has not destroyed. -/
structure Attempts where
  process : Process
  live : Multiset MainContext := 0

inductive AttemptEvent where
  /-- Construct a Connman whose new context is this, with this failure. -/
  | construct (ctx : MainContext) (fails : Option FailurePoint)
  | destroy (ctx : MainContext) (clockHeld managerHeld : Bool)

namespace Attempts

def step? (attempts : Attempts) : AttemptEvent → Option Attempts
  | .construct ctx fails =>
      let outcome := attempts.process.constructConnman ctx fails
      some
        { process := outcome.state
          live := match outcome.raised with
            | none => ctx ::ₘ attempts.live
            | some _ => attempts.live }
  | .destroy ctx clockHeld managerHeld =>
      if ctx ∈ attempts.live then
        some
          { process := attempts.process.destroyConnman ctx clockHeld managerHeld
            live := attempts.live.erase ctx }
      else none

def machine : Machine Attempts AttemptEvent := ⟨step?⟩

end Attempts

/-- No failure in the bus, and no manager that somebody else holds. -/
def AttemptEvent.cleansUp : AttemptEvent → Bool
  | .construct _ fails => !fails.any FailurePoint.inDBus
  | .destroy _ _ managerHeld => !managerHeld

/-- The context an event leaves on the stack. -/
def AttemptEvent.leaves : AttemptEvent → List MainContext
  | .construct ctx fails => if fails.any FailurePoint.inDBus then [ctx] else []
  | .destroy _ _ _ => []

/-- The event leaves an agent registered. -/
def AttemptEvent.keeps : AttemptEvent → Bool
  | .construct _ _ => false
  | .destroy _ _ managerHeld => managerHeld

namespace Attempts

/-- What an event does. -/
inductive Effect (attempts : Attempts) : AttemptEvent → Attempts → Prop where
  | abandon (ctx : MainContext) {point : FailurePoint} (inDBus : point.inDBus = true) :
      Effect attempts (.construct ctx (some point))
        { attempts with process := attempts.process.abandoned ctx point }
  | unwind (ctx : MainContext) {fails : Option FailurePoint}
      (elsewhere : fails.any FailurePoint.inDBus = false) :
      Effect attempts (.construct ctx fails) attempts
  | build (ctx : MainContext) {fails : Option FailurePoint}
      (elsewhere : fails.any FailurePoint.inDBus = false) :
      Effect attempts (.construct ctx fails)
        { process := attempts.process.built ctx, live := ctx ::ₘ attempts.live }
  | destroy {ctx : MainContext} (clockHeld managerHeld : Bool) {others : Multiset MainContext}
      (live : attempts.live = ctx ::ₘ others) :
      Effect attempts (.destroy ctx clockHeld managerHeld)
        { process := attempts.process.destroyConnman ctx clockHeld managerHeld, live := others }

theorem effect_of_step {attempts next : Attempts} {event : AttemptEvent}
    (stepped : attempts.step? event = some next) : Effect attempts event next := by
  cases event with
  | construct ctx fails =>
      cases stepped
      cases located : fails.any FailurePoint.inDBus with
      | true =>
          obtain ⟨point, rfl, inDBus⟩ := (Option.any_eq_true _ _).mp located
          rw [attempts.process.constructConnman_of_raised ctx inDBus]
          exact .abandon ctx inDBus
      | false =>
          rcases Process.transacts_constructConnman ctx located attempts.process with
            ⟨fault, raised⟩ | done
          · rw [raised]
            exact .unwind ctx located
          · rw [done]
            exact .build ctx located
  | destroy ctx clockHeld managerHeld =>
      simp only [step?] at stepped
      split at stepped
      · rename_i member
        cases stepped
        obtain ⟨others, live⟩ := Multiset.exists_cons_of_mem member
        rw [live, Multiset.erase_cons_head]
        exact .destroy clockHeld managerHeld live
      · cases stepped

/-- What the thread and the process hold: what they held before, what the live Connmans
hold, and what was left. -/
structure Ledger (start : Process) (left : List MainContext) (kept : Nat)
    (attempts : Attempts) : Prop where
  threadDefault : attempts.process.threadDefault = left ++ start.threadDefault
  contexts : attempts.process.contexts = attempts.live + ↑left + start.contexts
  loops : attempts.process.loops = attempts.live + start.loops
  exported : attempts.process.exported =
    Multiset.replicate (attempts.live.card + kept) Process.agentPath + start.exported

theorem Ledger.step {start : Process} {left : List MainContext} {kept : Nat}
    {attempts next : Attempts} {event : AttemptEvent} (ledger : Ledger start left kept attempts)
    (effect : Effect attempts event next) :
    Ledger start (event.leaves ++ left) (kept + event.keeps.toNat) next := by
  obtain ⟨threadDefault, contexts, loops, exported⟩ := ledger
  cases effect with
  | abandon ctx inDBus =>
      simp only [AttemptEvent.leaves, AttemptEvent.keeps, Option.any_some, inDBus, if_true,
        Bool.toNat_false, Nat.add_zero]
      refine ⟨congrArg _ threadDefault, ?_, loops, exported⟩
      change ctx ::ₘ attempts.process.contexts = _
      rw [contexts, List.singleton_append, ← Multiset.cons_coe, Multiset.add_cons,
        Multiset.cons_add]
  | unwind ctx elsewhere =>
      simp only [AttemptEvent.leaves, AttemptEvent.keeps, elsewhere, Bool.false_eq_true, if_false,
        List.nil_append, Bool.toNat_false, Nat.add_zero]
      exact ⟨threadDefault, contexts, loops, exported⟩
  | build ctx elsewhere =>
      simp only [AttemptEvent.leaves, AttemptEvent.keeps, elsewhere, Bool.false_eq_true, if_false,
        List.nil_append, Bool.toNat_false, Nat.add_zero]
      refine ⟨threadDefault, ?_, ?_, ?_⟩
      · change ctx ::ₘ attempts.process.contexts = ctx ::ₘ attempts.live + ↑left + start.contexts
        rw [contexts, Multiset.cons_add, Multiset.cons_add]
      · change ctx ::ₘ attempts.process.loops = ctx ::ₘ attempts.live + start.loops
        rw [loops, Multiset.cons_add]
      · change Process.agentPath ::ₘ attempts.process.exported = _
        rw [exported, Multiset.card_cons, Nat.add_right_comm, Multiset.replicate_succ,
          Multiset.cons_add]
  | @destroy ctx clockHeld managerHeld others live =>
      obtain ⟨stack, released, joined, unregistered⟩ :=
        attempts.process.destroyConnman_effect ctx clockHeld managerHeld
      refine ⟨stack.trans threadDefault, ?_, ?_, ?_⟩
      · rw [released, contexts, live, Multiset.cons_add, Multiset.cons_add,
          Multiset.erase_cons_head]
        rfl
      · rw [joined, loops, live, Multiset.cons_add, Multiset.erase_cons_head]
      · rw [live, Multiset.card_cons] at exported
        rw [unregistered, exported]
        cases managerHeld with
        | true =>
            rw [if_pos rfl, Nat.add_right_comm]
            rfl
        | false =>
            rw [if_neg Bool.false_ne_true, Nat.add_right_comm, Multiset.replicate_succ,
              Multiset.cons_add, Multiset.erase_cons_head]
            rfl

/-- The contexts a run leaves on the stack, the last one first. -/
def leftBy (events : List AttemptEvent) : List MainContext :=
  events.reverse.flatMap AttemptEvent.leaves

/-- How many agents a run leaves registered. -/
def keptBy (events : List AttemptEvent) : Nat := events.countP AttemptEvent.keeps

theorem ledger_of_run {guard : Attempts → AttemptEvent → Prop} {start finish : Attempts}
    {events : List AttemptEvent} (run : machine.Run guard start events finish)
    (none : start.live = 0) : Ledger start.process (leftBy events) (keptBy events) finish := by
  induction run with
  | refl =>
      refine ⟨rfl, ?_, ?_, ?_⟩ <;> rw [none]
      · exact (Multiset.zero_add _).symm
      · exact (Multiset.zero_add _).symm
      · exact (Multiset.zero_add _).symm
  | @tail events middle finish event _ _ stepped ih =>
      have extended := ih.step (effect_of_step stepped)
      have left : leftBy (events ++ [event]) = event.leaves ++ leftBy events := by
        rw [leftBy, List.reverse_append]
        rfl
      have kept : keptBy (events ++ [event]) = keptBy events + event.keeps.toNat := by
        rw [keptBy, List.countP_append, List.countP_singleton]
        cases event.keeps <;> rfl
      rw [left, kept]
      exact extended

theorem cleansUp_iff (event : AttemptEvent) :
    event.cleansUp = true ↔ event.leaves = [] ∧ event.keeps = false := by
  cases event with
  | construct ctx fails =>
      cases located : fails.any FailurePoint.inDBus <;>
        simp [AttemptEvent.cleansUp, AttemptEvent.leaves, AttemptEvent.keeps, located]
  | destroy ctx clockHeld managerHeld =>
      cases managerHeld <;> simp [AttemptEvent.cleansUp, AttemptEvent.leaves, AttemptEvent.keeps]

theorem cleansUp_all_iff (events : List AttemptEvent) :
    (∀ event ∈ events, event.cleansUp = true) ↔ leftBy events = [] ∧ keptBy events = 0 := by
  simp only [cleansUp_iff, leftBy, keptBy, List.flatMap_eq_nil_iff, List.mem_reverse,
    List.countP_eq_zero, Bool.not_eq_true, forall_and]

/-- Whatever fails, no loop thread of an attempt goes on when no Connman is left. -/
theorem loops_of_run {guard : Attempts → AttemptEvent → Prop} {start finish : Attempts}
    {events : List AttemptEvent} (run : machine.Run guard start events finish)
    (none : start.live = 0) (destroyed : finish.live = 0) :
    finish.process.loops = start.process.loops := by
  rw [(ledger_of_run run none).loops, destroyed, Multiset.zero_add]

/-- The contexts left on the stack are never released. -/
theorem contexts_of_run {guard : Attempts → AttemptEvent → Prop} {start finish : Attempts}
    {events : List AttemptEvent} (run : machine.Run guard start events finish)
    (none : start.live = 0) (destroyed : finish.live = 0) :
    finish.process.contexts = ↑(leftBy events) + start.process.contexts := by
  rw [(ledger_of_run run none).contexts, destroyed, Multiset.zero_add]

/-- After attempts all of whose Connmans have been destroyed, the thread and the process
are as they were exactly when no attempt failed in the bus and no manager was held by
somebody else. -/
theorem restored_iff {start finish : Attempts} {events : List AttemptEvent}
    (run : machine.Run Machine.anyStep start events finish) (none : start.live = 0)
    (destroyed : finish.live = 0) :
    (finish.process.threadDefault = start.process.threadDefault ∧
        finish.process.loops = start.process.loops ∧
        finish.process.exported = start.process.exported) ↔
      ∀ event ∈ events, event.cleansUp = true := by
  have ledger := ledger_of_run run none
  have joined := loops_of_run run none destroyed
  rw [cleansUp_all_iff, ledger.threadDefault, ledger.exported, destroyed, Multiset.card_zero,
    Nat.zero_add]
  constructor
  · rintro ⟨stack, _, agents⟩
    refine ⟨List.append_left_eq_self.mp stack, ?_⟩
    have counted := congrArg Multiset.card agents
    rw [Multiset.card_add, Multiset.card_replicate] at counted
    omega
  · rintro ⟨stack, agents⟩
    rw [stack, agents]
    exact ⟨List.nil_append _, joined, Multiset.zero_add _⟩

/-- Before any attempt on a thread with no contexts of its own. -/
def idle : Attempts where
  process := { threadDefault := [] }

/-- Two failures after the bus, and a Connman that is destroyed; and an attempt without
a bus connection. -/
theorem restored_iff_retried :
    (∃ finish, machine.Run Machine.anyStep idle
        [.construct 1 (some .agentRegistration), .construct 2 (some .clockProxy),
          .construct 3 none, .destroy 3 false false] finish ∧
      finish.process.threadDefault = [] ∧ finish.process.loops = 0 ∧
      finish.process.exported = 0) ∧
    ∀ finish, machine.Run Machine.anyStep idle [.construct 1 (some .busConnection)] finish →
      finish.live = 0 →
      ¬ (finish.process.threadDefault = [] ∧ finish.process.loops = 0 ∧
        finish.process.exported = 0) := by
  constructor
  · have executes : (machine.exec? Machine.anyStep idle
        [.construct 1 (some .agentRegistration), .construct 2 (some .clockProxy),
          .construct 3 none, .destroy 3 false false]).any
            (fun finish => decide (finish.live = 0)) = true := by decide
    obtain ⟨finish, run, destroyed⟩ := Machine.Run.exists_of_exec executes
    exact ⟨finish, run, (restored_iff run rfl (of_decide_eq_true destroyed)).mpr (by decide)⟩
  · intro finish run destroyed restored
    exact absurd ((restored_iff run rfl destroyed).mp restored) (by decide)

/-- An attempt without a bus connection leaves its context on the stack. -/
theorem busConnection_leaves :
    ∃ finish, machine.Run Machine.anyStep idle [.construct 1 (some .busConnection)] finish ∧
      finish.live = 0 ∧ finish.process.threadDefault ≠ idle.process.threadDefault :=
  ⟨_, Machine.Run.single trivial rfl, rfl, List.cons_ne_nil 1 []⟩

end Attempts

end GConnman.Connman
