import Mathlib.Data.List.Basic
import Mathlib.Logic.Function.Basic

/-!
# Calls sent by one thread

Any number of threads make calls, and one of them sends the calls of all.  It sends its
own calls at once; the others' wait in a queue of which it sends the first one when it
gets to it.  A receiver takes the calls in the order in which they are sent.

The calls of different threads may overtake each other.  Those of one thread are sent
and taken in the order in which the thread makes them, and none is lost or repeated.
-/

namespace GConnman.Foundation

/-- `made` and `taken` only record. -/
structure CallQueue (Thread Call : Type*) where
  made : List (Thread × Call) := []
  waiting : List (Thread × Call) := []
  sent : List (Thread × Call) := []
  taken : List (Thread × Call) := []

namespace CallQueue

variable {Thread Call : Type*} [DecidableEq Thread] (queue : CallQueue Thread Call)

def make (sender thread : Thread) (call : Call) : CallQueue Thread Call :=
  if thread = sender then
    { queue with made := queue.made ++ [(thread, call)], sent := queue.sent ++ [(thread, call)] }
  else
    { queue with
      made := queue.made ++ [(thread, call)]
      waiting := queue.waiting ++ [(thread, call)] }

def send : Option (CallQueue Thread Call) :=
  match queue.waiting with
  | [] => none
  | call :: rest => some { queue with waiting := rest, sent := queue.sent ++ [call] }

/-- The receiver takes a call; what it does with it is its own affair. -/
def take : Option ((Thread × Call) × CallQueue Thread Call) :=
  match queue.sent with
  | [] => none
  | call :: rest => some (call, { queue with sent := rest, taken := queue.taken ++ [call] })

/-- Nothing is on its way. -/
def Quiet : Prop := queue.waiting = [] ∧ queue.sent = []

/-- The calls of a thread in a list. -/
def callsOf (thread : Thread) (calls : List (Thread × Call)) : List (Thread × Call) :=
  calls.filter fun call => call.1 = thread

/-- The calls that were made, in the order in which the receiver will have taken them. -/
def inTurn : List (Thread × Call) := queue.taken ++ (queue.sent ++ queue.waiting)

/-- For every thread, the order of taking is the order of making. -/
structure InOrder (sender : Thread) (queue : CallQueue Thread Call) : Prop where
  order : ∀ thread, callsOf thread queue.inTurn = callsOf thread queue.made
  /-- The sender never waits for itself. -/
  direct : callsOf sender queue.waiting = []

variable {sender thread other : Thread} {call : Call} {queue next : CallQueue Thread Call}

theorem callsOf_append (first second : List (Thread × Call)) :
    callsOf thread (first ++ second) = callsOf thread first ++ callsOf thread second :=
  List.filter_append first second

theorem callsOf_single_of_ne (different : other ≠ thread) :
    callsOf thread [(other, call)] = [] := by
  simp [callsOf, different]

@[simp] theorem made_make :
    (queue.make sender thread call).made = queue.made ++ [(thread, call)] := by
  unfold make
  split <;> rfl

@[simp] theorem taken_make : (queue.make sender thread call).taken = queue.taken := by
  unfold make
  split <;> rfl

omit [DecidableEq Thread] in
/-- Sending leaves the records alone. -/
theorem records_of_send (sends : queue.send = some next) :
    next.made = queue.made ∧ next.taken = queue.taken := by
  unfold send at sends
  split at sends
  · cases sends
  · cases sends
    exact ⟨rfl, rfl⟩

omit [DecidableEq Thread] in
/-- The call that is taken is the first that was sent. -/
theorem records_of_take {first : Thread × Call} (takes : queue.take = some (first, next)) :
    queue.sent.head? = some first ∧ next.made = queue.made ∧
      next.taken = queue.taken ++ [first] := by
  unfold take at takes
  split at takes
  · cases takes
  · rename_i call rest sent
    cases takes
    exact ⟨by rw [sent]; rfl, rfl, rfl⟩

theorem inOrder_start (sender : Thread) : InOrder sender ({} : CallQueue Thread Call) :=
  ⟨fun _ => rfl, rfl⟩

theorem InOrder.make (ordered : InOrder sender queue) (thread : Thread) (call : Call) :
    InOrder sender (queue.make sender thread call) := by
  unfold CallQueue.make
  split
  · rename_i same
    subst same
    refine ⟨fun owner => ?_, ordered.direct⟩
    have before := ordered.order owner
    simp only [inTurn, callsOf_append] at before ⊢
    rw [← before]
    by_cases same : owner = thread
    · -- nothing of the sender's waits behind the call
      subst same
      rw [ordered.direct]
      simp
    · rw [callsOf_single_of_ne (Ne.symm same)]
      simp
  · rename_i different
    refine ⟨fun owner => ?_, ?_⟩
    · have before := ordered.order owner
      simp only [inTurn, callsOf_append] at before ⊢
      rw [← before]
      simp
    · rw [callsOf_append, ordered.direct, callsOf_single_of_ne different]
      rfl

theorem InOrder.send (ordered : InOrder sender queue) (sends : queue.send = some next) :
    InOrder sender next := by
  unfold CallQueue.send at sends
  split at sends
  · cases sends
  · rename_i first rest waits
    cases sends
    refine ⟨fun owner => ?_, ?_⟩
    · have before := ordered.order owner
      rw [inTurn, waits] at before
      rw [← before]
      simp [inTurn]
    · have before := ordered.direct
      rw [waits, callsOf, List.filter_cons] at before
      split at before
      · cases before
      · exact before

theorem InOrder.take (ordered : InOrder sender queue) {taken : Thread × Call}
    (takes : queue.take = some (taken, next)) : InOrder sender next := by
  unfold CallQueue.take at takes
  split at takes
  · cases takes
  · rename_i first rest sent
    cases takes
    refine ⟨fun owner => ?_, ordered.direct⟩
    have before := ordered.order owner
    rw [inTurn, sent] at before
    rw [← before]
    simp [inTurn]

/-- When nothing is on its way, the receiver has taken exactly the calls that were made. -/
theorem InOrder.taken_of_quiet (ordered : InOrder sender queue) (quiet : queue.Quiet)
    (thread : Thread) : callsOf thread queue.taken = callsOf thread queue.made := by
  rw [← ordered.order thread, inTurn, quiet.1, quiet.2]
  simp

/-- What has been taken so far is the beginning of what was made. -/
theorem InOrder.taken_prefix (ordered : InOrder sender queue) (thread : Thread) :
    callsOf thread queue.taken <+: callsOf thread queue.made := by
  rw [← ordered.order thread, inTurn, callsOf_append]
  exact List.prefix_append _ _

/-- Nothing is taken that was not made. -/
theorem InOrder.mem_made (ordered : InOrder sender queue) {taken : Thread × Call}
    (member : taken ∈ queue.taken) : taken ∈ queue.made := by
  have own : taken ∈ callsOf taken.1 queue.taken :=
    List.mem_filter.mpr ⟨member, decide_eq_true rfl⟩
  exact List.mem_of_mem_filter ((ordered.taken_prefix taken.1).subset own)

/-- What picks calls of one thread only picks the same ones from its calls. -/
theorem filter_callsOf {picks : Thread × Call → Bool} {calls : List (Thread × Call)}
    (own : ∀ call ∈ calls, picks call = true → call.1 = thread) :
    (callsOf thread calls).filter picks = calls.filter picks := by
  rw [callsOf, List.filter_filter]
  refine List.filter_congr fun call member => ?_
  cases picked : picks call with
  | true => simp [own call member picked]
  | false => rfl

/-- What picks calls of one thread only picks the same ones, in the same order, from what
was taken and from what was made. -/
theorem InOrder.filter_taken_of_quiet (ordered : InOrder sender queue) (quiet : queue.Quiet)
    {picks : Thread × Call → Bool} {thread : Thread}
    (own : ∀ call ∈ queue.made, picks call = true → call.1 = thread) :
    queue.taken.filter picks = queue.made.filter picks := by
  rw [← filter_callsOf own,
    ← filter_callsOf fun call member => own call (ordered.mem_made member),
    ordered.taken_of_quiet quiet]

/-! ## All the calls -/

omit [DecidableEq Thread] in
theorem inTurn_send (sends : queue.send = some next) : next.inTurn = queue.inTurn := by
  unfold send at sends
  split at sends
  · cases sends
  · rename_i first rest waits
    cases sends
    simp [inTurn, waits]

omit [DecidableEq Thread] in
theorem inTurn_take {first : Thread × Call} (takes : queue.take = some (first, next)) :
    next.inTurn = queue.inTurn := by
  unfold take at takes
  split at takes
  · cases takes
  · rename_i call rest sent
    cases takes
    simp [inTurn, sent]

theorem inTurn_make_perm : (queue.make sender thread call).inTurn.Perm
    (queue.inTurn ++ [(thread, call)]) := by
  unfold make inTurn
  split
  · -- the call goes before those that wait
    simp only [List.append_assoc]
    exact (List.perm_append_comm.append_left queue.sent).append_left queue.taken
  · simp only [List.append_assoc]
    exact .refl _

/-- The calls that were made are those on their way and those taken, whoever made them. -/
theorem perm_make (whole : queue.inTurn.Perm queue.made) :
    (queue.make sender thread call).inTurn.Perm (queue.make sender thread call).made := by
  rw [made_make]
  exact inTurn_make_perm.trans (whole.append_right _)

end CallQueue

end GConnman.Foundation
