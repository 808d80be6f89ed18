import Mathlib.Data.List.Perm.Basic
import Mathlib.Data.List.Nodup
import Mathlib.Data.List.Range

/-!
# Every identity in exactly one place

Items get consecutive numbers when they are admitted, and then move from place to
place.  A census lists the numbers found in all places together: it is complete
when it is a permutation of the numbers admitted so far.  Moves are checked by
counting.
-/

namespace GConnman.Foundation

/-- The listed numbers are those below `admitted`, each exactly once. -/
def Census (admitted : Nat) (ids : List Nat) : Prop := ids.Perm (List.range admitted)

namespace Census

variable {admitted : Nat} {ids moved : List Nat}

theorem empty : Census 0 [] := .nil

theorem nodup (census : Census admitted ids) : ids.Nodup :=
  census.nodup_iff.mpr List.nodup_range

theorem mem_iff (census : Census admitted ids) {id : Nat} : id ∈ ids ↔ id < admitted := by
  rw [List.Perm.mem_iff census, List.mem_range]

/-- The next number is admitted somewhere. -/
theorem add (census : Census admitted ids)
    (counts : ∀ id, moved.count id = ids.count id + [admitted].count id) :
    Census (admitted + 1) moved := by
  have together : moved.Perm (ids ++ [admitted]) := by
    rw [List.perm_iff_count]
    intro id
    rw [counts id, List.count_append]
  rw [Census, List.range_succ]
  exact together.trans (List.Perm.append_right [admitted] census)

/-- Numbers move between places. -/
theorem move (census : Census admitted ids) (counts : ∀ id, moved.count id = ids.count id) :
    Census admitted moved :=
  (List.perm_iff_count.mpr counts).trans census

/-- Nothing is in two places. -/
theorem disjoint {here there : List Nat} (census : Census admitted (here ++ there)) {id : Nat}
    (member : id ∈ here) : id ∉ there :=
  fun other => (List.nodup_append.mp census.nodup).2.2 id member id other rfl

/-- The numbers that are not in the last place are as many as the other places hold. -/
theorem length_remaining {here done : List Nat} (census : Census admitted (here ++ done)) :
    ((List.range admitted).filter fun id => id ∉ done).length = here.length := by
  have remaining := List.Perm.filter (fun id => decide (id ∉ done)) census
  rw [← remaining.length_eq, List.filter_append]
  have outside : here.filter (fun id => decide (id ∉ done)) = here :=
    List.filter_eq_self.mpr fun id member => decide_eq_true (census.disjoint member)
  have inside : done.filter (fun id => decide (id ∉ done)) = [] :=
    List.filter_eq_nil_iff.mpr fun id member => by simpa using member
  rw [outside, inside, List.append_nil]

end Census

/-- Taking an item out of a list removes its number once. -/
theorem count_map_eraseIdx {Item : Type*} (number : Item → Nat) {items : List Item} {index : Nat}
    {item : Item} (found : items[index]? = some item) (id : Nat) :
    (items.map number).count id =
      ((items.eraseIdx index).map number).count id + [number item].count id := by
  obtain ⟨inside, rfl⟩ := List.getElem?_eq_some_iff.mp found
  have perm := (List.getElem_cons_eraseIdx_perm inside).map number
  rw [← perm.count_eq id, List.map_cons, List.count_cons, List.count_singleton]

/-- What a list holds at a position after one item is added at the end. -/
theorem getElem?_concat_eq_some_iff {Item : Type*} {items : List Item} {last item : Item}
    {index : Nat} :
    (items ++ [last])[index]? = some item ↔
      items[index]? = some item ∨ index = items.length ∧ item = last := by
  rcases Nat.lt_trichotomy index items.length with inside | rfl | outside
  · rw [List.getElem?_append_left inside]
    exact ⟨.inl, fun found => found.resolve_right fun wrong => inside.ne wrong.1⟩
  · rw [List.getElem?_concat_length, List.getElem?_eq_none_iff.mpr (Nat.le_refl _)]
    simp [eq_comm]
  · rw [List.getElem?_eq_none_iff.mpr, List.getElem?_eq_none_iff.mpr (Nat.le_of_lt outside)]
    · simp [outside.ne']
    · rw [List.length_append]
      exact outside

end GConnman.Foundation
