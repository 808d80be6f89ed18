import Mathlib.Data.List.Basic

/-!
# Order in a queue

An item stays ahead of another one while items are taken at the front and put in
anywhere behind, as long as the other one is not put in before it.
-/

namespace GConnman.Foundation

variable {Item : Type*} {first second item : Item} {front back : List Item}

/-- `first` is in the queue, and no `second` before it. -/
def Ahead (first second : Item) : List Item → Prop
  | [] => False
  | item :: rest => item = first ∨ item ≠ second ∧ Ahead first second rest

theorem Ahead.append (ahead : Ahead first second front) (back : List Item) :
    Ahead first second (front ++ back) := by
  induction front with
  | nil => cases ahead
  | cons head rest ih =>
      rcases ahead with same | ⟨other, behind⟩
      · exact .inl same
      · exact .inr ⟨other, ih behind⟩

theorem Ahead.insert (ahead : Ahead first second (front ++ back)) (other : item ≠ second) :
    Ahead first second (front ++ item :: back) := by
  induction front with
  | nil => exact .inr ⟨other, ahead⟩
  | cons head rest ih =>
      rcases ahead with same | ⟨different, behind⟩
      · exact .inl same
      · exact .inr ⟨different, ih behind⟩

/-- An item put in last is ahead of everything that is not there. -/
theorem ahead_concat (absent : second ∉ front) : Ahead first second (front ++ [first]) := by
  induction front with
  | nil => exact .inl rfl
  | cons head rest ih =>
      rw [List.mem_cons, not_or] at absent
      exact .inr ⟨Ne.symm absent.1, ih absent.2⟩

/-- What is taken at the front is the first item, or neither of the two. -/
theorem Ahead.taken (ahead : Ahead first second (item :: back)) :
    item = first ∨ item ≠ second ∧ Ahead first second back := ahead

end GConnman.Foundation
