import Mathlib.Algebra.Order.BigOperators.Group.Finset
import GConnman.Foundation.Progress

/-!
# Mailboxes with a flag

Calls write items into a buffer, under its mutex, and raise a flag.  The reader comes by
again and again; where it finds the flag raised it takes it down, and then empties the
buffer under the mutex.

A call that raises the flag after the last thing it writes leaves nothing behind that the
reader does not come for, wherever it raises the flag: under the mutex or after it.
-/

namespace GConnman.Foundation

/-- What a call does to the mailbox. -/
inductive PostStep (Item : Type) where
  | lock
  | write (item : Item)
  | unlock
  | signal
  deriving DecidableEq, Repr

/-- Who holds the mutex of the mailbox. -/
inductive MailboxHolder where
  | call (id : Nat)
  | reader
  deriving DecidableEq, Repr

/-- Where the reader is. -/
inductive ReaderStage where
  | away
  /-- It has taken the flag down. -/
  | due
  | locked
  /-- It has copied the buffer and not emptied it. -/
  | copied
  | emptied
  deriving DecidableEq, Repr

def ReaderStage.holds : ReaderStage → Bool
  | locked | copied | emptied => true
  | _ => false

/-- What is in the buffer will be taken, or has been. -/
def ReaderStage.collects : ReaderStage → Bool
  | due | locked | copied => true
  | _ => false

def ReaderStage.ahead : ReaderStage → Nat
  | away => 0
  | due => 4
  | locked => 3
  | copied => 2
  | emptied => 1

namespace PostStep

variable {Item : Type}

/-- The steps lock and unlock in turn, write under the mutex only, and raise the flag
after the last thing they write. -/
def proper : Bool → Bool → List (PostStep Item) → Bool
  | held, owes, [] => !held && !owes
  | held, owes, .lock :: rest => !held && proper true owes rest
  | held, _, .write _ :: rest => held && proper held true rest
  | held, owes, .unlock :: rest => held && proper false owes rest
  | held, _, .signal :: rest => proper held false rest

/-- The items that are written, in order. -/
def items : List (PostStep Item) → List Item
  | [] => []
  | .write item :: rest => item :: items rest
  | _ :: rest => items rest

theorem signal_mem_of_owes {steps : List (PostStep Item)} {held : Bool}
    (owing : proper held true steps = true) : .signal ∈ steps := by
  induction steps generalizing held with
  | nil => cases held <;> cases owing
  | cons step rest ih =>
      cases step with
      | lock => exact List.mem_cons_of_mem _ (ih (Bool.and_eq_true_iff.mp owing).2)
      | write item => exact List.mem_cons_of_mem _ (ih (Bool.and_eq_true_iff.mp owing).2)
      | unlock => exact List.mem_cons_of_mem _ (ih (Bool.and_eq_true_iff.mp owing).2)
      | signal => exact List.mem_cons_self

end PostStep

structure Mailbox (Call Item : Type) where
  /-- The calls there have been; a call is known by its number. -/
  calls : List Call := []
  /-- What is left of a call. -/
  left : Nat → List (PostStep Item) := fun _ => []
  holder : Option MailboxHolder := none
  buffer : List (Nat × Item) := []
  flag : Bool := false
  reader : ReaderStage := .away
  /-- What the reader has taken. -/
  taken : List (Nat × Item) := []
  /-- What has been written, whether or not it has been taken. -/
  written : List (Nat × Item) := []

inductive MailboxEvent (Call : Type) where
  | call (call : Call)
  | post (id : Nat)
  | read

namespace Mailbox

open PostStep (proper items signal_mem_of_owes)

variable {Call Item : Type}

section Steps

variable (program : Call → List (PostStep Item)) (state : Mailbox Call Item)

def post? (id : Nat) : Option (Mailbox Call Item) :=
  match state.left id with
  | [] => none
  | .lock :: rest =>
      if state.holder = none then
        some { state with holder := some (.call id), left := Function.update state.left id rest }
      else none
  | .write item :: rest =>
      some { state with
        buffer := state.buffer ++ [(id, item)]
        written := state.written ++ [(id, item)]
        left := Function.update state.left id rest }
  | .unlock :: rest =>
      some { state with holder := none, left := Function.update state.left id rest }
  | .signal :: rest =>
      some { state with flag := true, left := Function.update state.left id rest }

def read? : Option (Mailbox Call Item) :=
  match state.reader with
  | .away => if state.flag then some { state with flag := false, reader := .due } else some state
  | .due =>
      if state.holder = none then some { state with holder := some .reader, reader := .locked }
      else none
  | .locked => some { state with taken := state.taken ++ state.buffer, reader := .copied }
  | .copied => some { state with buffer := [], reader := .emptied }
  | .emptied => some { state with holder := none, reader := .away }

def step? : MailboxEvent Call → Option (Mailbox Call Item)
  | .call call =>
      some { state with
        calls := state.calls ++ [call]
        left := Function.update state.left state.calls.length (program call) }
  | .post id => state.post? id
  | .read => state.read?

/-- What a step does. -/
inductive Effect : MailboxEvent Call → Mailbox Call Item → Prop where
  | call (call : Call) :
      Effect (.call call)
        { state with
          calls := state.calls ++ [call]
          left := Function.update state.left state.calls.length (program call) }
  | lock {id : Nat} {rest : List (PostStep Item)} (here : state.left id = .lock :: rest)
      (free : state.holder = none) :
      Effect (.post id)
        { state with holder := some (.call id), left := Function.update state.left id rest }
  | write {id : Nat} {item : Item} {rest : List (PostStep Item)}
      (here : state.left id = .write item :: rest) :
      Effect (.post id)
        { state with
          buffer := state.buffer ++ [(id, item)]
          written := state.written ++ [(id, item)]
          left := Function.update state.left id rest }
  | unlock {id : Nat} {rest : List (PostStep Item)} (here : state.left id = .unlock :: rest) :
      Effect (.post id)
        { state with holder := none, left := Function.update state.left id rest }
  | signal {id : Nat} {rest : List (PostStep Item)} (here : state.left id = .signal :: rest) :
      Effect (.post id)
        { state with flag := true, left := Function.update state.left id rest }
  | poll (away : state.reader = .away) (down : state.flag = false) : Effect .read state
  | come (away : state.reader = .away) (raised : state.flag = true) :
      Effect .read { state with flag := false, reader := .due }
  | enter (due : state.reader = .due) (free : state.holder = none) :
      Effect .read { state with holder := some .reader, reader := .locked }
  | copy (locked : state.reader = .locked) :
      Effect .read { state with taken := state.taken ++ state.buffer, reader := .copied }
  | empty (copied : state.reader = .copied) :
      Effect .read { state with buffer := [], reader := .emptied }
  | leave (emptied : state.reader = .emptied) :
      Effect .read { state with holder := none, reader := .away }

def machine : Machine (Mailbox Call Item) (MailboxEvent Call) := ⟨step? program⟩

/-- The items of one call. -/
def itemsOf (id : Nat) (entries : List (Nat × Item)) : List Item :=
  (entries.filter fun entry => entry.1 = id).map Prod.snd

/-- The mutex is where the stages say. -/
structure Exclusive : Prop where
  proper : ∀ id, ∃ owes, proper (state.holder = some (.call id)) owes (state.left id) = true
  reads : state.reader.holds = true ↔ state.holder = some .reader

/-- Everything that is written is in the buffer or taken, and somebody comes for what is
in the buffer. -/
structure Kept : Prop where
  accounted : state.written = state.taken ++ if state.reader = .copied then [] else state.buffer
  expected : state.buffer ≠ [] →
    state.flag = true ∨ state.reader.collects = true ∨ ∃ id, .signal ∈ state.left id
  emptied : state.reader = .emptied → state.buffer = []

/-- Every call has written what it has not left to write. -/
structure Told : Prop where
  whole : ∀ id call, state.calls[id]? = some call →
    itemsOf id state.written ++ items (state.left id) = items (program call)
  known : ∀ entry ∈ state.written, entry.1 < state.calls.length
  ended : ∀ id, state.calls.length ≤ id → state.left id = []

end Steps

variable {program : Call → List (PostStep Item)} {state next : Mailbox Call Item}
  {event : MailboxEvent Call}

theorem effect_of_step (stepped : state.step? program event = some next) :
    state.Effect program event next := by
  cases event with
  | call call =>
      cases stepped
      exact .call call
  | post id =>
      simp only [step?, post?] at stepped
      split at stepped
      · cases stepped
      · rename_i rest here
        split at stepped
        · rename_i free
          cases stepped
          exact .lock here free
        · cases stepped
      · rename_i item rest here
        cases stepped
        exact .write here
      · rename_i rest here
        cases stepped
        exact .unlock here
      · rename_i rest here
        cases stepped
        exact .signal here
  | read =>
      simp only [step?, read?] at stepped
      split at stepped
      · rename_i away
        split at stepped
        · rename_i raised
          cases stepped
          exact .come away raised
        · rename_i down
          cases stepped
          exact .poll away (Bool.eq_false_iff.mpr down)
      · rename_i due
        split at stepped
        · rename_i free
          cases stepped
          exact .enter due free
        · cases stepped
      · rename_i locked
        cases stepped
        exact .copy locked
      · rename_i copied
        cases stepped
        exact .empty copied
      · rename_i emptied
        cases stepped
        exact .leave emptied

/-! ## The mutex -/

theorem exclusive_start : Exclusive ({} : Mailbox Call Item) where
  proper _ := ⟨false, rfl⟩
  reads := ⟨nofun, nofun⟩

/-- A call that gets on leaves the others where they are. -/
theorem Exclusive.put (exclusive : state.Exclusive) {id : Nat} {rest : List (PostStep Item)}
    {holder : Option MailboxHolder}
    (own : ∃ owes, PostStep.proper (holder = some (.call id)) owes rest = true)
    (others : ∀ other, other ≠ id →
      (holder = some (.call other) ↔ state.holder = some (.call other))) (other : Nat) :
    ∃ owes, PostStep.proper (holder = some (.call other)) owes
      (Function.update state.left id rest other) = true := by
  by_cases same : other = id
  · subst same
    rw [Function.update_self]
    exact own
  · rw [Function.update_of_ne same, decide_eq_decide.mpr (others other same)]
    exact exclusive.proper other

/-- A call that writes or unlocks holds the mutex, and the reader does not. -/
theorem Exclusive.held (exclusive : state.Exclusive) {id : Nat}
    (mine : state.holder = some (.call id)) : state.reader.holds = false := by
  apply Bool.eq_false_iff.mpr
  intro holds
  rw [exclusive.reads.mp holds] at mine
  cases mine

theorem Exclusive.of_write (exclusive : state.Exclusive) {id : Nat} {item : Item}
    {rest : List (PostStep Item)} (here : state.left id = .write item :: rest) :
    state.holder = some (.call id) ∧
      PostStep.proper (state.holder = some (.call id)) true rest = true := by
  obtain ⟨owes, proper⟩ := exclusive.proper id
  rw [here] at proper
  obtain ⟨held, after⟩ := Bool.and_eq_true_iff.mp proper
  exact ⟨of_decide_eq_true held, after⟩

theorem Exclusive.of_unlock (exclusive : state.Exclusive) {id : Nat}
    {rest : List (PostStep Item)} (here : state.left id = .unlock :: rest) :
    state.holder = some (.call id) ∧ ∃ owes, PostStep.proper false owes rest = true := by
  obtain ⟨owes, proper⟩ := exclusive.proper id
  rw [here] at proper
  obtain ⟨held, after⟩ := Bool.and_eq_true_iff.mp proper
  exact ⟨of_decide_eq_true held, owes, after⟩

theorem Exclusive.step (wellFormed : ∀ call, PostStep.proper false false (program call) = true)
    (exclusive : state.Exclusive) (ended : ∀ id, state.calls.length ≤ id → state.left id = [])
    (effect : state.Effect program event next) : next.Exclusive := by
  have free_of : state.holder = none → state.reader.holds = false := by
    intro free
    apply Bool.eq_false_iff.mpr
    intro holds
    rw [exclusive.reads.mp holds] at free
    cases free
  cases effect with
  | call call =>
      refine ⟨exclusive.put ⟨false, ?_⟩ fun _ _ => Iff.rfl, exclusive.reads⟩
      -- no call of that number holds the mutex
      obtain ⟨owes, proper⟩ := exclusive.proper state.calls.length
      rw [ended _ le_rfl] at proper
      have unheld := (Bool.and_eq_true_iff.mp proper).1
      rw [Bool.not_eq_true'] at unheld
      rw [unheld]
      exact wellFormed call
  | @lock id rest here free =>
      obtain ⟨owes, proper⟩ := exclusive.proper id
      rw [here] at proper
      refine ⟨exclusive.put ⟨owes, ?_⟩ fun other different => ?_, ?_⟩
      · rw [decide_eq_true rfl]
        exact (Bool.and_eq_true_iff.mp proper).2
      · rw [free]
        exact ⟨fun same => absurd (MailboxHolder.call.inj (Option.some.inj same)) different.symm,
          nofun⟩
      · change state.reader.holds = true ↔ some (MailboxHolder.call id) = some .reader
        rw [free_of free]
        exact ⟨nofun, nofun⟩
  | write here =>
      exact ⟨exclusive.put ⟨true, (exclusive.of_write here).2⟩ fun _ _ => Iff.rfl, exclusive.reads⟩
  | @unlock id rest here =>
      obtain ⟨mine, owes, proper⟩ := exclusive.of_unlock here
      refine ⟨exclusive.put ⟨owes, proper⟩ fun other different => ?_, ?_⟩
      · rw [mine]
        exact ⟨nofun, fun same =>
          absurd (MailboxHolder.call.inj (Option.some.inj same)) different.symm⟩
      · change state.reader.holds = true ↔ none = some MailboxHolder.reader
        rw [exclusive.held mine]
        exact ⟨nofun, nofun⟩
  | @signal id rest here =>
      obtain ⟨owes, proper⟩ := exclusive.proper id
      rw [here] at proper
      exact ⟨exclusive.put ⟨false, proper⟩ fun _ _ => Iff.rfl, exclusive.reads⟩
  | poll away down => exact exclusive
  | come away raised =>
      have reads := exclusive.reads
      rw [away] at reads
      exact ⟨exclusive.proper, reads⟩
  | enter due free =>
      have proper := exclusive.proper
      rw [free] at proper
      exact ⟨proper, fun _ => rfl, fun _ => rfl⟩
  | copy locked =>
      have reads := exclusive.reads
      rw [locked] at reads
      exact ⟨exclusive.proper, reads⟩
  | empty copied =>
      have reads := exclusive.reads
      rw [copied] at reads
      exact ⟨exclusive.proper, reads⟩
  | leave emptied =>
      have proper := exclusive.proper
      rw [exclusive.reads.mp (by rw [emptied]; rfl)] at proper
      exact ⟨proper, nofun, nofun⟩

/-! ## What each call has written -/

@[simp] theorem itemsOf_append (id : Nat) (first second : List (Nat × Item)) :
    itemsOf id (first ++ second) = itemsOf id first ++ itemsOf id second := by
  simp [itemsOf]

theorem itemsOf_eq_nil {id : Nat} {entries : List (Nat × Item)}
    (known : ∀ entry ∈ entries, entry.1 < id) : itemsOf id entries = [] := by
  rw [itemsOf, List.map_eq_nil_iff, List.filter_eq_nil_iff]
  intro entry member
  rw [decide_eq_true_iff]
  exact (known entry member).ne

theorem told_start : Told program ({} : Mailbox Call Item) where
  whole _ _ called := by cases called
  known := nofun
  ended _ _ := rfl

/-- What a call has begun is not over. -/
theorem Told.lt (told : state.Told program) {id : Nat} {step : PostStep Item}
    {rest : List (PostStep Item)} (here : state.left id = step :: rest) :
    id < state.calls.length := by
  by_contra beyond
  rw [told.ended id (Nat.le_of_not_lt beyond)] at here
  cases here

theorem Told.put_ended (told : state.Told program) {id : Nat} {step : PostStep Item}
    {rest : List (PostStep Item)} (here : state.left id = step :: rest) (other : Nat)
    (beyond : state.calls.length ≤ other) : Function.update state.left id rest other = [] := by
  rw [Function.update_of_ne ((told.lt here).trans_le beyond).ne', told.ended other beyond]

theorem Told.put (told : state.Told program) {id : Nat} {step : PostStep Item}
    {rest : List (PostStep Item)} (here : state.left id = step :: rest)
    (silent : items (step :: rest) = items rest) {holder : Option MailboxHolder} {flag : Bool} :
    Told program { state with holder, flag, left := Function.update state.left id rest } where
  whole other call called := by
    rw [← told.whole other call called]
    by_cases same : other = id
    · subst same
      rw [here, silent]
      exact congrArg (_ ++ items ·) (Function.update_self ..)
    · exact congrArg (_ ++ items ·) (Function.update_of_ne same ..)
  known := told.known
  ended := told.put_ended here

theorem Told.step (told : state.Told program) (effect : state.Effect program event next) :
    next.Told program := by
  cases effect with
  | call call =>
      refine ⟨fun id entry called => ?_, fun entry member => ?_, fun id beyond => ?_⟩
      · by_cases fresh : id = state.calls.length
        · subst fresh
          rw [List.getElem?_concat_length] at called
          cases called
          change itemsOf _ state.written ++ items (Function.update state.left _ _ _) = _
          rw [itemsOf_eq_nil told.known, Function.update_self, List.nil_append]
        · change itemsOf id state.written ++ items (Function.update state.left _ _ id) = _
          rw [Function.update_of_ne fresh]
          refine told.whole id entry ?_
          have within : id < state.calls.length := by
            have short := (List.getElem?_eq_some_iff.mp called).1
            simp only [List.length_append, List.length_singleton] at short
            omega
          rwa [List.getElem?_append_left within] at called
      · simp only [List.length_append, List.length_singleton]
        exact Nat.lt_succ_of_lt (told.known entry member)
      · simp only [List.length_append, List.length_singleton] at beyond
        change Function.update state.left _ _ id = []
        rw [Function.update_of_ne (by omega), told.ended id (by omega)]
  | lock here free => exact told.put here rfl
  | @write id item rest here =>
      refine ⟨fun other call called => ?_, fun entry member => ?_, told.put_ended here⟩
      · rw [← told.whole other call called]
        change itemsOf other (state.written ++ [(id, item)]) ++
          items (Function.update state.left id rest other) = _
        by_cases same : other = id
        · subst same
          simp [itemsOf, here, items]
        · rw [Function.update_of_ne same, itemsOf_append]
          simp [itemsOf, Ne.symm same]
      · rcases List.mem_append.mp member with before | last
        · exact told.known entry before
        · rw [List.mem_singleton.mp last]
          exact told.lt here
  | unlock here => exact told.put here rfl
  | signal here => exact told.put here rfl
  | poll away down => exact told
  | come away raised => exact ⟨told.whole, told.known, told.ended⟩
  | enter due free => exact ⟨told.whole, told.known, told.ended⟩
  | copy locked => exact ⟨told.whole, told.known, told.ended⟩
  | empty copied => exact ⟨told.whole, told.known, told.ended⟩
  | leave emptied => exact ⟨told.whole, told.known, told.ended⟩

/-! ## Nothing is left behind -/

theorem kept_start : Kept ({} : Mailbox Call Item) where
  accounted := rfl
  expected nonempty := absurd rfl nonempty
  emptied := nofun

/-- The flag is still to be raised after any other step. -/
theorem exists_signal_put {id : Nat} {step : PostStep Item} {rest : List (PostStep Item)}
    (here : state.left id = step :: rest) (silent : step ≠ .signal)
    (expected : ∃ other, .signal ∈ state.left other) :
    ∃ other, .signal ∈ Function.update state.left id rest other := by
  obtain ⟨other, member⟩ := expected
  refine ⟨other, ?_⟩
  by_cases same : other = id
  · subst same
    rw [here] at member
    rw [Function.update_self]
    exact (List.mem_cons.mp member).resolve_left silent.symm
  · rw [Function.update_of_ne same]
    exact member

theorem Kept.put (kept : state.Kept) {id : Nat} {step : PostStep Item}
    {rest : List (PostStep Item)} (here : state.left id = step :: rest) (silent : step ≠ .signal)
    {holder : Option MailboxHolder} :
    Kept { state with holder, left := Function.update state.left id rest } where
  accounted := kept.accounted
  expected nonempty := by
    rcases kept.expected nonempty with raised | collects | signal
    · exact .inl raised
    · exact .inr (.inl collects)
    · exact .inr (.inr (exists_signal_put here silent signal))
  emptied := kept.emptied

theorem Kept.step (kept : state.Kept) (exclusive : state.Exclusive) (told : state.Told program)
    (effect : state.Effect program event next) : next.Kept := by
  obtain ⟨accounted, expected, emptied⟩ := kept
  cases effect with
  | call call =>
      refine ⟨accounted, fun nonempty => ?_, emptied⟩
      rcases expected nonempty with raised | collects | ⟨id, signal⟩
      · exact .inl raised
      · exact .inr (.inl collects)
      · refine .inr (.inr ⟨id, ?_⟩)
        have other : id ≠ state.calls.length := by
          rintro rfl
          rw [told.ended _ le_rfl] at signal
          cases signal
        change .signal ∈ Function.update state.left _ _ id
        rw [Function.update_of_ne other]
        exact signal
  | lock here free => exact Kept.put ⟨accounted, expected, emptied⟩ here nofun
  | @write id item rest here =>
      obtain ⟨mine, proper⟩ := exclusive.of_write here
      have free := exclusive.held mine
      have uncopied : state.reader ≠ .copied := by
        intro copied
        rw [copied] at free
        cases free
      refine ⟨?_, fun _ => .inr (.inr ⟨id, ?_⟩), fun empty => ?_⟩
      · change state.written ++ [(id, item)] = _
        rw [accounted]
        simp [uncopied]
      · change .signal ∈ Function.update state.left id rest id
        rw [Function.update_self]
        exact signal_mem_of_owes proper
      · rw [empty] at free
        cases free
  | unlock here => exact Kept.put ⟨accounted, expected, emptied⟩ here nofun
  | signal here => exact ⟨accounted, fun _ => .inl rfl, emptied⟩
  | poll away down => exact ⟨accounted, expected, emptied⟩
  | come away raised =>
      rw [away] at accounted
      exact ⟨accounted, fun _ => .inr (.inl rfl), nofun⟩
  | enter due free =>
      rw [due] at accounted
      exact ⟨accounted, fun _ => .inr (.inl rfl), nofun⟩
  | copy locked =>
      rw [locked] at accounted
      exact ⟨accounted.trans (List.append_nil _).symm, fun _ => .inr (.inl rfl), nofun⟩
  | empty copied =>
      rw [copied] at accounted
      exact ⟨accounted, fun nonempty => absurd rfl nonempty, fun _ => rfl⟩
  | leave gone =>
      rw [gone] at accounted
      exact ⟨accounted, fun nonempty => absurd (emptied gone) nonempty, nofun⟩

/-! ## Runs -/

section Runs

variable (program state)

structure Sound : Prop where
  exclusive : state.Exclusive
  kept : state.Kept
  told : state.Told program

/-- Every call is over, the flag is down, and the reader is away. -/
structure Quiet : Prop where
  away : state.reader = .away
  down : state.flag = false
  ended : ∀ id, state.left id = []

/-- The calls there are and the reader go on, who comes by when the flag is raised. -/
def Proceeds : MailboxEvent Call → Prop
  | .call _ => False
  | .post _ => True
  | .read => state.reader ≠ .away ∨ state.flag = true

/-- The steps that are left; a flag that is raised costs the reader five. -/
def ahead : Nat :=
  6 * (∑ id ∈ Finset.range state.calls.length, (state.left id).length) +
    (if state.flag then 5 else 0) + state.reader.ahead

end Runs

theorem sound_start : Sound program ({} : Mailbox Call Item) where
  exclusive := exclusive_start
  kept := kept_start
  told := told_start

theorem Sound.step (wellFormed : ∀ call, PostStep.proper false false (program call) = true)
    (sound : state.Sound program) (effect : state.Effect program event next) :
    next.Sound program where
  exclusive := sound.exclusive.step wellFormed sound.told.ended effect
  kept := sound.kept.step sound.exclusive sound.told effect
  told := sound.told.step effect

variable {guard : Mailbox Call Item → MailboxEvent Call → Prop}
  {events : List (MailboxEvent Call)}

theorem sound_of_run (wellFormed : ∀ call, PostStep.proper false false (program call) = true)
    (run : (machine program).Run guard state events next) (sound : state.Sound program) :
    next.Sound program :=
  run.invariant (fun _ _ _ before _ stepped => before.step wellFormed (effect_of_step stepped))
    sound

/-- What is taken is taken in the order in which it was written. -/
theorem Kept.taken_prefix (kept : state.Kept) : state.taken <+: state.written :=
  ⟨_, kept.accounted.symm⟩

/-- Nothing is left in the buffer when nobody is about. -/
theorem Kept.taken_eq (kept : state.Kept) (quiet : state.Quiet) : state.taken = state.written := by
  have empty : state.buffer = [] := by
    by_contra nonempty
    rcases kept.expected nonempty with raised | collects | ⟨id, signal⟩
    · rw [quiet.down] at raised
      cases raised
    · rw [quiet.away] at collects
      cases collects
    · rw [quiet.ended id] at signal
      cases signal
  rw [kept.accounted, quiet.away, empty]
  exact (List.append_nil _).symm

/-- Then everything that each call had to say has been taken. -/
theorem Sound.itemsOf_taken (sound : state.Sound program) (quiet : state.Quiet) {id : Nat}
    {call : Call} (called : state.calls[id]? = some call) :
    itemsOf id state.taken = items (program call) := by
  rw [← sound.told.whole id call called, quiet.ended id, sound.kept.taken_eq quiet]
  exact (List.append_nil _).symm

/-- Entries that are those of the calls, call by call, are all of theirs. -/
theorem perm_of_itemsOf {told : Call → List Item} {calls : List Call}
    {entries : List (Nat × Item)}
    (whole : ∀ id call, calls[id]? = some call → itemsOf id entries = told call)
    (known : ∀ entry ∈ entries, entry.1 < calls.length) :
    (entries.map Prod.snd).Perm (calls.flatMap told) := by
  induction calls using List.reverseRecOn generalizing entries with
  | nil =>
      cases entries with
      | nil => exact .refl _
      | cons entry rest => exact absurd (known entry List.mem_cons_self) (Nat.not_lt_zero _)
  | append_singleton calls last ih =>
      -- the entries of the last call go to the end
      have split := List.filter_append_perm (fun entry : Nat × Item => entry.1 ≠ calls.length)
        entries
      have earlier : ∀ id call, calls[id]? = some call →
          itemsOf id (entries.filter fun entry => entry.1 ≠ calls.length) = told call := by
        intro id call called
        have inside := (List.getElem?_eq_some_iff.mp called).1
        rw [← whole id call (by rw [List.getElem?_append_left inside]; exact called), itemsOf,
          itemsOf, List.filter_filter]
        congr 1
        refine List.filter_congr fun entry _ => ?_
        by_cases own : entry.1 = id
        · simp [own, inside.ne]
        · simp [own]
      have below : ∀ entry ∈ entries.filter (fun entry => entry.1 ≠ calls.length),
          entry.1 < calls.length := by
        intro entry member
        obtain ⟨present, other⟩ := List.mem_filter.mp member
        have bound := known entry present
        rw [List.length_append, List.length_singleton] at bound
        exact lt_of_le_of_ne (Nat.le_of_lt_succ bound) (of_decide_eq_true other)
      have own : (entries.filter fun entry => !decide (entry.1 ≠ calls.length)).map Prod.snd =
          told last := by
        rw [← whole calls.length last List.getElem?_concat_length, itemsOf]
        congr 1
        refine List.filter_congr fun entry _ => ?_
        simp
      rw [List.flatMap_append, List.flatMap_singleton, ← own]
      refine (split.map Prod.snd).symm.trans ?_
      rw [List.map_append]
      exact (ih earlier below).append_right _

/-! ## Progress -/

theorem Told.sum_lt (told : state.Told program) {id : Nat} {step : PostStep Item}
    {rest : List (PostStep Item)} (here : state.left id = step :: rest) :
    ∑ other ∈ Finset.range state.calls.length, (Function.update state.left id rest other).length <
      ∑ other ∈ Finset.range state.calls.length, (state.left other).length := by
  refine Finset.sum_lt_sum (fun other _ => ?_) ⟨id, Finset.mem_range.mpr (told.lt here), ?_⟩
  · by_cases same : other = id
    · subst same
      rw [Function.update_self, here]
      exact Nat.le_succ _
    · rw [Function.update_of_ne same]
  · rw [Function.update_self, here]
    exact Nat.lt_succ_self _

/-- A new call has all its steps ahead of it. -/
theorem ahead_call (call : Call) :
    ahead { state with
        calls := state.calls ++ [call]
        left := Function.update state.left state.calls.length (program call) } =
      state.ahead + 6 * (program call).length := by
  unfold ahead
  simp only [List.length_append, List.length_singleton, Finset.sum_range_succ,
    Function.update_self]
  have others : ∑ id ∈ Finset.range state.calls.length,
      (Function.update state.left state.calls.length (program call) id).length =
        ∑ id ∈ Finset.range state.calls.length, (state.left id).length := by
    refine Finset.sum_congr rfl fun id member => ?_
    rw [Function.update_of_ne (Finset.mem_range.mp member).ne]
  rw [others]
  omega

theorem Sound.ahead_lt (sound : state.Sound program) (proceeds : state.Proceeds event)
    (effect : state.Effect program event next) : next.ahead < state.ahead := by
  unfold ahead
  cases effect with
  | call call => exact proceeds.elim
  | lock here free =>
      have fewer := sound.told.sum_lt here
      dsimp only
      omega
  | write here =>
      have fewer := sound.told.sum_lt here
      dsimp only
      omega
  | unlock here =>
      have fewer := sound.told.sum_lt here
      dsimp only
      omega
  | signal here =>
      have fewer := sound.told.sum_lt here
      dsimp only
      rw [if_pos rfl]
      omega
  | poll away down => exact absurd proceeds (by simp [Proceeds, away, down])
  | come away raised =>
      dsimp only
      rw [away, raised]
      exact Nat.lt_succ_self _
  | enter due free =>
      dsimp only
      rw [due]
      exact Nat.lt_succ_self _
  | copy locked =>
      dsimp only
      rw [locked]
      exact Nat.lt_succ_self _
  | empty copied =>
      dsimp only
      rw [copied]
      exact Nat.lt_succ_self _
  | leave emptied =>
      dsimp only
      rw [emptied]
      exact Nat.lt_succ_self _

/-- A call gets on where the mutex is free or its own. -/
theorem Exclusive.exists_post (exclusive : state.Exclusive) {id : Nat} (more : state.left id ≠ [])
    (mine : state.holder = none ∨ state.holder = some (.call id)) :
    ∃ next, state.post? id = some next := by
  obtain ⟨owes, proper⟩ := exclusive.proper id
  cases here : state.left id with
  | nil => exact absurd here more
  | cons step rest =>
      cases step with
      | lock =>
          rw [here] at proper
          have unheld := (Bool.and_eq_true_iff.mp proper).1
          have free : state.holder = none := mine.resolve_right (by simpa using unheld)
          exact ⟨_, by rw [post?, here]; exact if_pos free⟩
      | write item => exact ⟨_, by rw [post?, here]⟩
      | unlock => exact ⟨_, by rw [post?, here]⟩
      | signal => exact ⟨_, by rw [post?, here]⟩

/-- The reader gets on where the mutex is free or its own. -/
theorem exists_read (mine : state.holder = none ∨ state.reader.holds = true) :
    ∃ next, state.read? = some next := by
  cases stage : state.reader with
  | away =>
      cases raised : state.flag with
      | true => exact ⟨_, by rw [read?, stage, raised]; rfl⟩
      | false => exact ⟨_, by rw [read?, stage, raised]; rfl⟩
  | due =>
      rw [stage] at mine
      have free := mine.resolve_right nofun
      exact ⟨_, by rw [read?, stage]; exact if_pos free⟩
  | locked => exact ⟨_, by rw [read?, stage]⟩
  | copied => exact ⟨_, by rw [read?, stage]⟩
  | emptied => exact ⟨_, by rw [read?, stage]⟩

/-- Who holds the mutex gets on, and anybody does where it is free. -/
theorem Sound.exists_step (sound : state.Sound program) (noisy : ¬ state.Quiet) :
    ∃ event next, state.Proceeds event ∧ state.step? program event = some next := by
  have exclusive := sound.exclusive
  cases held : state.holder with
  | none =>
      by_cases ended : ∀ id, state.left id = []
      · have proceeds : state.reader ≠ .away ∨ state.flag = true := by
          by_contra neither
          obtain ⟨away, down⟩ := not_or.mp neither
          exact noisy ⟨not_not.mp away, Bool.eq_false_iff.mpr down, ended⟩
        obtain ⟨next, stepped⟩ := exists_read (.inl held)
        exact ⟨.read, next, proceeds, stepped⟩
      · obtain ⟨id, more⟩ := not_forall.mp ended
        obtain ⟨next, stepped⟩ := exclusive.exists_post more (.inl held)
        exact ⟨.post id, next, trivial, stepped⟩
  | some holder =>
      cases holder with
      | call id =>
          have more : state.left id ≠ [] := by
            intro nothing
            obtain ⟨owes, proper⟩ := exclusive.proper id
            rw [nothing, held] at proper
            simp [PostStep.proper] at proper
          obtain ⟨next, stepped⟩ := exclusive.exists_post more (.inr held)
          exact ⟨.post id, next, trivial, stepped⟩
      | reader =>
          have holds := exclusive.reads.mpr held
          obtain ⟨next, stepped⟩ := exists_read (.inr holds)
          refine ⟨.read, next, .inl fun away => ?_, stepped⟩
          rw [away] at holds
          cases holds

/-- In the end everything is taken, in whatever order the calls and the reader go on. -/
theorem progress (wellFormed : ∀ call, PostStep.proper false false (program call) = true) :
    Machine.Progress (machine program) Proceeds (Sound program) Quiet ahead where
  preserved sound _ stepped := sound.step wellFormed (effect_of_step stepped)
  lowers sound proceeds stepped := sound.ahead_lt proceeds (effect_of_step stepped)
  enabled sound noisy := sound.exists_step noisy

end Mailbox

end GConnman.Foundation
