import Mathlib.Logic.Function.Basic

/-!
# Tables and the relations they tabulate

A table with at most one value for each key tabulates a relation between keys and
values when it finds exactly the related values.  Inserting under a fresh key adds
one pair to the relation, and erasing a key removes its pairs.
-/

namespace GConnman.Foundation

variable {Key Value : Type*}

/-- The table finds a value under a key exactly when they are related. -/
def Tabulates (table : Key → Option Value) (Entry : Key → Value → Prop) : Prop :=
  ∀ key value, table key = some value ↔ Entry key value

namespace Tabulates

variable {table : Key → Option Value} {Entry Other : Key → Value → Prop}

theorem empty (none : ∀ key value, ¬ Entry key value) :
    Tabulates (fun _ => Option.none) Entry :=
  fun key value => iff_of_false (Option.some_ne_none value).symm (none key value)

theorem congr (tabulates : Tabulates table Entry)
    (same : ∀ key value, Other key value ↔ Entry key value) : Tabulates table Other :=
  fun key value => (tabulates key value).trans (same key value).symm

variable [DecidableEq Key]

/-- A key that is related to nothing gets a value. -/
theorem insert (tabulates : Tabulates table Entry) {fresh : Key}
    (unrelated : ∀ value, ¬ Entry fresh value) (given : Value) :
    Tabulates (Function.update table fresh (some given))
      fun key value => Entry key value ∨ key = fresh ∧ value = given := by
  intro key value
  by_cases same : key = fresh
  · subst same
    rw [Function.update_self, Option.some_inj]
    constructor
    · exact fun found => .inr ⟨rfl, found.symm⟩
    · rintro (related | ⟨-, found⟩)
      · exact absurd related (unrelated value)
      · exact found.symm
  · rw [Function.update_of_ne same]
    constructor
    · exact fun found => .inl ((tabulates key value).mp found)
    · rintro (related | ⟨wrong, -⟩)
      · exact (tabulates key value).mpr related
      · exact absurd wrong same

/-- A key loses its value. -/
theorem erase (tabulates : Tabulates table Entry) (gone : Key) :
    Tabulates (Function.update table gone none)
      fun key value => Entry key value ∧ key ≠ gone := by
  intro key value
  by_cases same : key = gone
  · subst same
    rw [Function.update_self]
    exact iff_of_false (Option.some_ne_none value).symm fun related => related.2 rfl
  · rw [Function.update_of_ne same]
    exact (tabulates key value).trans ⟨fun related => ⟨related, same⟩, And.left⟩

end Tabulates

end GConnman.Foundation
