import Mathlib.Data.List.DropRight

/-!
# Words between spaces

A text is read word by word: skip the spaces, take what comes before the next one.  All
that can be read in this way are the pieces between the spaces that are not empty, and
neither more spaces nor spaces at the ends make a difference.
-/

namespace GConnman.Foundation

variable {α : Type*} (space : α → Bool)

/-- The pieces between the spaces. -/
def words (text : List α) : List (List α) :=
  (text.splitOnP space).filter fun word => !word.isEmpty

/-- The next word, and what is left of the text after it. -/
def nextWord (text : List α) : List α × List α :=
  let start := text.dropWhile space
  (start.takeWhile fun letter => !space letter, start.dropWhile fun letter => !space letter)

/-- Read a number of words; when there are no more, they are empty. -/
def readWords : Nat → List α → List (List α)
  | 0, _ => []
  | count + 1, text => (nextWord space text).1 :: readWords count (nextWord space text).2

/-- The text without the spaces at its ends. -/
def trim (text : List α) : List α := (text.dropWhile space).rdropWhile space

/-- The letters of a word. -/
structure IsWord (word : List α) : Prop where
  ne_nil : word ≠ []
  letters : ∀ letter ∈ word, space letter = false

/-- The text is made of these words, with spaces around them and at least one between two. -/
inductive Spells : List α → List (List α) → Prop where
  | spaces {text : List α} (spaces : ∀ letter ∈ text, space letter = true) : Spells text []
  | word {before word rest : List α} {list : List (List α)}
      (spaces : ∀ letter ∈ before, space letter = true) (isWord : IsWord space word)
      (ends : ∀ letter ∈ rest.head?, space letter = true) (spells : Spells rest list) :
      Spells (before ++ (word ++ rest)) (word :: list)

variable {space}

@[simp] theorem words_nil : words space ([] : List α) = [] := rfl

/-- A space separates. -/
theorem words_append_cons {separator : α} (separates : space separator = true)
    (before after : List α) :
    words space (before ++ separator :: after) = words space before ++ words space after := by
  rw [words, List.splitOnP_append_cons before after separates, List.filter_append]
  rfl

theorem words_cons_space {letter : α} (separates : space letter = true) (text : List α) :
    words space (letter :: text) = words space text :=
  words_append_cons separates [] text

theorem IsWord.words_eq {word : List α} (isWord : IsWord space word) :
    words space word = [word] := by
  rw [words, List.splitOnP_eq_singleton isWord.letters]
  simp [isWord.ne_nil]

theorem words_eq_nil {text : List α} (spaces : ∀ letter ∈ text, space letter = true) :
    words space text = [] := by
  induction text with
  | nil => rfl
  | cons letter rest ih =>
      obtain ⟨first, others⟩ := List.forall_mem_cons.mp spaces
      rw [words_cons_space first, ih others]

/-- Spaces at the beginning make no difference. -/
theorem words_spaces_append {spaces : List α} (allSpaces : ∀ letter ∈ spaces, space letter = true)
    (text : List α) : words space (spaces ++ text) = words space text := by
  induction spaces with
  | nil => rfl
  | cons letter rest ih =>
      obtain ⟨first, others⟩ := List.forall_mem_cons.mp allSpaces
      rw [List.cons_append, words_cons_space first, ih others]

theorem IsWord.words_append {word rest : List α} (isWord : IsWord space word)
    (ends : ∀ letter ∈ rest.head?, space letter = true) :
    words space (word ++ rest) = word :: words space rest := by
  cases rest with
  | nil => rw [List.append_nil, isWord.words_eq, words_nil]
  | cons separator rest =>
      have separates : space separator = true := ends separator rfl
      rw [words_append_cons separates, isWord.words_eq, words_cons_space separates]
      rfl

/-- Spaces at the end make no difference. -/
theorem words_append_spaces (text : List α) {spaces : List α}
    (allSpaces : ∀ letter ∈ spaces, space letter = true) :
    words space (text ++ spaces) = words space text := by
  cases spaces with
  | nil => rw [List.append_nil]
  | cons letter rest =>
      obtain ⟨first, others⟩ := List.forall_mem_cons.mp allSpaces
      rw [words_append_cons first, words_eq_nil others, List.append_nil]

theorem words_dropWhile (text : List α) :
    words space (text.dropWhile space) = words space text := by
  have split : text.takeWhile space ++ text.dropWhile space = text :=
    List.takeWhile_append_dropWhile
  conv_rhs => rw [← split]
  exact (words_spaces_append (fun letter member => List.mem_takeWhile_imp member) _).symm

theorem words_trim (text : List α) : words space (trim space text) = words space text := by
  have split : (text.dropWhile space).rdropWhile space ++
      (text.dropWhile space).rtakeWhile space = text.dropWhile space :=
    List.rdropWhile_append_rtakeWhile
  have spaces : ∀ letter ∈ (text.dropWhile space).rtakeWhile space, space letter = true :=
    fun letter member => List.mem_rtakeWhile_imp member
  rw [trim, ← words_append_spaces _ spaces, split, words_dropWhile]

variable (space) in
/-- After the spaces there is nothing, or a word with a space or nothing behind it. -/
theorem nextWord_cases (text : List α) :
    (nextWord space text = ([], []) ∧ text.dropWhile space = []) ∨
      IsWord space (nextWord space text).1 ∧
        (∀ letter ∈ (nextWord space text).2.head?, space letter = true) ∧
        text.dropWhile space = (nextWord space text).1 ++ (nextWord space text).2 := by
  have stops := List.head?_dropWhile_not space text
  rw [nextWord]
  cases start : text.dropWhile space with
  | nil => exact .inl ⟨rfl, rfl⟩
  | cons letter later =>
      rw [start] at stops
      have first : space letter = false := stops
      refine .inr ⟨⟨?_, fun other member => ?_⟩, fun other head => ?_, ?_⟩
      · simp [first]
      · simpa using List.mem_takeWhile_imp member
      · have ended := List.head?_dropWhile_not (fun letter => !space letter) (letter :: later)
        change List.head? (List.dropWhile _ _) = some other at head
        rw [head] at ended
        simpa using ended
      · exact (List.takeWhile_append_dropWhile (p := fun letter => !space letter)).symm

/-- Reading a word takes the first of them; an empty one says that there are no more. -/
theorem words_eq_nextWord (text : List α) :
    words space text =
      if (nextWord space text).1 = [] then []
      else (nextWord space text).1 :: words space (nextWord space text).2 := by
  rw [← words_dropWhile]
  rcases nextWord_cases space text with ⟨none, ended⟩ | ⟨isWord, ends, split⟩
  · rw [none, ended]
    rfl
  · rw [if_neg isWord.ne_nil, split, isWord.words_append ends]

/-- What is read are the words there are, and empty ones for those there are not. -/
theorem readWords_eq (count : Nat) (text : List α) :
    readWords space count text =
      (List.range count).map fun index => (words space text)[index]?.getD [] := by
  induction count generalizing text with
  | zero => rfl
  | succ count ih =>
      rw [readWords, ih, List.range_succ_eq_map, List.map_cons, List.map_map,
        words_eq_nextWord text]
      rcases nextWord_cases space text with ⟨none, -⟩ | ⟨isWord, -, -⟩
      · rw [none]
        rfl
      · rw [if_neg isWord.ne_nil]
        rfl

/-! ## What a text spells -/

theorem words_of_spells {text : List α} {list : List (List α)} (spells : Spells space text list) :
    words space text = list := by
  induction spells with
  | spaces spaces => exact words_eq_nil spaces
  | word spaces isWord ends spells ih =>
      rw [words_spaces_append spaces, isWord.words_append ends, ih]

theorem spells_words (text : List α) : Spells space text (words space text) := by
  have spaces : ∀ letter ∈ text.takeWhile space, space letter = true :=
    fun letter member => List.mem_takeWhile_imp member
  have whole : text.takeWhile space ++ text.dropWhile space = text :=
    List.takeWhile_append_dropWhile
  rw [words_eq_nextWord text]
  rcases nextWord_cases space text with ⟨none, ended⟩ | ⟨isWord, ends, split⟩
  · rw [none, if_pos rfl]
    rw [ended, List.append_nil] at whole
    rw [whole] at spaces
    exact .spaces spaces
  · rw [if_neg isWord.ne_nil]
    have shorter : (nextWord space text).2.length < text.length := by
      have letters := List.length_pos_iff.mpr isWord.ne_nil
      have total := congrArg List.length whole
      rw [split, List.length_append, List.length_append] at total
      omega
    have later := spells_words (nextWord space text).2
    rw [split] at whole
    conv => arg 2; rw [← whole]
    exact .word spaces isWord ends later
  termination_by text.length

/-- Every text spells one list of words. -/
theorem spells_iff {text : List α} {list : List (List α)} :
    Spells space text list ↔ words space text = list := by
  refine ⟨words_of_spells, ?_⟩
  rintro rfl
  exact spells_words text

end GConnman.Foundation
