import GConnman.Connmanctl.Commands

/-!
# Lines

A line is its words: however they are spaced, they are what the commands see.  The first
is the name of the command; where another one is the name of a technology, the command
searches the list for the first technology of that name.
-/

namespace GConnman.Connmanctl

open GConnman.Connman GConnman.DBus GConnman.Foundation

/-! ## The words of a line -/

/-- The line is made of these words. -/
def SpellsLine (line : String) (words : List String) : Prop :=
  Spells isSpace line.toList (words.map String.toList)

/-- The word at a place, empty when there are not so many. -/
def wordAt (words : List String) (index : Nat) : String := words[index]?.getD ""

theorem spellsLine_iff {line : String} {words : List String} :
    SpellsLine line words ↔ lineWords line = words := by
  rw [SpellsLine, spells_iff, lineWords]
  constructor
  · intro spelled
    have same : String.ofList ∘ String.toList = id := funext fun _ => String.ofList_toList
    rw [spelled, List.map_map, same, List.map_id]
  · rintro rfl
    have same : String.toList ∘ String.ofList = id := funext fun _ => String.toList_ofList
    rw [List.map_map, same, List.map_id]

/-- What `>>` reads from the trimmed line are the words of the line as it was entered. -/
theorem argument_eq (line : String) {index : Nat} (inside : index < 6) :
    argument line index = wordAt (lineWords line) index := by
  rw [argument, readWords_eq, words_trim, wordAt, lineWords, List.getElem?_map, List.getElem?_map,
    List.getElem?_range inside, Option.map_some, Option.getD_some]
  cases (words isSpace line.toList)[index]? <;> rfl

namespace Client

variable {kind : Endpoint → Interface} (client : Client kind)

/-- The command that these words give. -/
def run (words : List String) : Option (Interpretation kind) :=
  client.dispatch (wordAt words 0) (wordAt words 1) (wordAt words 2) (wordAt words 3)
    (wordAt words 4) (wordAt words 5)

theorem interpret_eq_run (line : String) : client.interpret line = client.run (lineWords line) := by
  rw [interpret, run, argument_eq line (by decide), argument_eq line (by decide),
    argument_eq line (by decide), argument_eq line (by decide), argument_eq line (by decide),
    argument_eq line (by decide)]

/-- Every line is made of one list of words, and these are what the client acts on. -/
theorem interpret_spelled (line : String) :
    ∃ words, SpellsLine line words ∧ (∀ others, SpellsLine line others → others = words) ∧
      client.interpret line = client.run words :=
  ⟨lineWords line, spellsLine_iff.mpr rfl, fun _ spelled => (spellsLine_iff.mp spelled).symm,
    client.interpret_eq_run line⟩

/-! ## Looking for a technology -/

/-- The search goes on behind this technology. -/
def PassesOver (arg : String) (technology : TechProxy kind) : Prop :=
  ∃ name, techName? (client.techProperties technology 0).type = some name ∧ name ≠ arg

/-- A search of these technologies gets to this one. -/
def ReachesIn (arg : String) (technologies : List (TechProxy kind))
    (technology : TechProxy kind) : Prop :=
  ∃ before after, technologies = before ++ technology :: after ∧
    ∀ other ∈ before, client.PassesOver arg other

theorem ReachesIn.cons {client : Client kind} {arg : String} {first technology : TechProxy kind}
    {technologies : List (TechProxy kind)} (passed : client.PassesOver arg first)
    (reaches : client.ReachesIn arg technologies technology) :
    client.ReachesIn arg (first :: technologies) technology := by
  obtain ⟨before, after, rfl, others⟩ := reaches
  exact ⟨first :: before, after, rfl, List.forall_mem_cons.mpr ⟨passed, others⟩⟩

theorem findTechnology_cases (arg : String) (technologies : List (TechProxy kind)) :
    ((∀ other ∈ technologies, client.PassesOver arg other) ∧
        client.findTechnology arg technologies = .ok none) ∨
      ∃ technology, client.ReachesIn arg technologies technology ∧
        ((techName? (client.techProperties technology 0).type = none ∧
            client.findTechnology arg technologies = .error .outOfRange) ∨
          (techName? (client.techProperties technology 0).type = some arg ∧
            client.findTechnology arg technologies = .ok (some technology))) := by
  induction technologies with
  | nil => exact .inl ⟨by simp, rfl⟩
  | cons first rest ih =>
      cases named : techName? (client.techProperties first 0).type with
      | none =>
          refine .inr ⟨first, ⟨[], rest, rfl, by simp⟩, .inl ⟨named, ?_⟩⟩
          rw [findTechnology, named]
      | some name =>
          by_cases same : name = arg
          · refine .inr ⟨first, ⟨[], rest, rfl, by simp⟩, .inr ⟨by rw [named, same], ?_⟩⟩
            rw [findTechnology, named]
            simp only [if_pos same]
          · have passed : client.PassesOver arg first := ⟨name, named, same⟩
            have later : client.findTechnology arg (first :: rest) =
                client.findTechnology arg rest := by
              rw [findTechnology, named]
              simp only [if_neg same]
            rw [later]
            rcases ih with ⟨others, ended⟩ | ⟨technology, reaches, found⟩
            · exact .inl ⟨List.forall_mem_cons.mpr ⟨passed, others⟩, ended⟩
            · exact .inr ⟨technology, reaches.cons passed, found⟩

theorem findTechnology_of_reachesIn {arg : String} {technologies : List (TechProxy kind)}
    {technology : TechProxy kind} (reaches : client.ReachesIn arg technologies technology) :
    ∃ after, client.findTechnology arg technologies =
      client.findTechnology arg (technology :: after) := by
  obtain ⟨before, after, rfl, passed⟩ := reaches
  refine ⟨after, ?_⟩
  induction before with
  | nil => rfl
  | cons first before ih =>
      obtain ⟨⟨name, named, different⟩, others⟩ := List.forall_mem_cons.mp passed
      rw [List.cons_append, findTechnology, named]
      simp only [if_neg different]
      exact ih others

theorem findTechnology_eq_found_iff {arg : String} {technologies : List (TechProxy kind)}
    {technology : TechProxy kind} :
    client.findTechnology arg technologies = .ok (some technology) ↔
      client.ReachesIn arg technologies technology ∧
        techName? (client.techProperties technology 0).type = some arg := by
  constructor
  · intro found
    rcases client.findTechnology_cases arg technologies with
      ⟨-, ended⟩ | ⟨other, reaches, ⟨-, raised⟩ | ⟨named, stopped⟩⟩
    · rw [ended] at found
      cases found
    · rw [raised] at found
      cases found
    · rw [stopped] at found
      cases found
      exact ⟨reaches, named⟩
  · rintro ⟨reaches, named⟩
    obtain ⟨after, starts⟩ := client.findTechnology_of_reachesIn reaches
    rw [starts, findTechnology, named]
    simp only [if_true]

theorem findTechnology_eq_error_iff {arg : String} {technologies : List (TechProxy kind)}
    {crash : Crash} :
    client.findTechnology arg technologies = .error crash ↔
      crash = .outOfRange ∧ ∃ technology, client.ReachesIn arg technologies technology ∧
        techName? (client.techProperties technology 0).type = none := by
  constructor
  · intro raises
    rcases client.findTechnology_cases arg technologies with
      ⟨-, ended⟩ | ⟨technology, reaches, ⟨unnamed, raised⟩ | ⟨-, stopped⟩⟩
    · rw [ended] at raises
      cases raises
    · rw [raised] at raises
      cases raises
      exact ⟨rfl, technology, reaches, unnamed⟩
    · rw [stopped] at raises
      cases raises
  · rintro ⟨rfl, technology, reaches, unnamed⟩
    obtain ⟨after, starts⟩ := client.findTechnology_of_reachesIn reaches
    rw [starts, findTechnology, unnamed]

/-- The first technology of this name; all before it are of some other. -/
def Finds (arg : String) (technology : TechProxy kind) : Prop :=
  client.ReachesIn arg client.technologies technology ∧
    techName? (client.techProperties technology 0).type = some arg

/-- A technology whose type is no enumerator comes before the first one of this name. -/
def Stumbles (arg : String) : Prop :=
  ∃ technology, client.ReachesIn arg client.technologies technology ∧
    techName? (client.techProperties technology 0).type = none

section

variable {client} {arg : String} {technology : TechProxy kind} (before : List (Action kind))
  (next : TechProxy kind → Interpretation kind)

theorem withTechnology_of_finds (finds : client.Finds arg technology) :
    client.withTechnology arg before next = next technology := by
  rw [withTechnology, client.findTechnology_eq_found_iff.mpr finds]

theorem withTechnology_of_stumbles (stumbles : client.Stumbles arg) :
    client.withTechnology arg before next = ⟨before, some .outOfRange⟩ := by
  rw [withTechnology, client.findTechnology_eq_error_iff.mpr ⟨rfl, stumbles⟩]

end

theorem withTechnology_cases (arg : String) (before : List (Action kind))
    (next : TechProxy kind → Interpretation kind) :
    (∃ technology, client.Finds arg technology ∧
        client.withTechnology arg before next = next technology) ∨
      (client.Stumbles arg ∧
        client.withTechnology arg before next = ⟨before, some .outOfRange⟩) ∨
      client.withTechnology arg before next = .done before := by
  cases searched : client.findTechnology arg client.technologies with
  | error crash =>
      obtain ⟨rfl, stumbles⟩ := client.findTechnology_eq_error_iff.mp searched
      exact .inr (.inl ⟨stumbles, withTechnology_of_stumbles before next stumbles⟩)
  | ok found =>
      cases found with
      | none =>
          refine .inr (.inr ?_)
          rw [withTechnology, searched]
      | some technology =>
          have finds := client.findTechnology_eq_found_iff.mp searched
          exact .inl ⟨technology, finds, withTechnology_of_finds before next finds⟩

end Client

/-! ## The command of a line -/

namespace Command

def all : List Command :=
  [technologies, services, scan, enable, disable, connect, disconnect, remove, agent, quit,
    tethering]

/-- The command of this name. -/
def ofName (name : String) : Option Command := all.find? fun command => command.name = name

theorem ofName_eq_some_iff {name : String} {command : Command} :
    ofName name = some command ↔ name = command.name := by
  constructor
  · intro found
    rw [ofName] at found
    have named := List.find?_some found
    exact (of_decide_eq_true named).symm
  · rintro rfl
    cases command <;> decide

theorem ne_of_ofName_eq_none {name : String} (unknown : ofName name = none) (command : Command) :
    name ≠ command.name := by
  intro same
  rw [ofName_eq_some_iff.mpr same] at unknown
  cases unknown

end Command

namespace Client

variable {kind : Endpoint → Interface} (client : Client kind)

/-- The argument is in the list of technologies. -/
def Lists (arg : String) : Prop := arg ≠ "" ∧ arg ∈ client.technologiesContainer

theorem not_usage_iff {arg : String} :
    ¬ (arg = "" ∨ arg ∉ client.technologiesContainer) ↔ client.Lists arg := by
  rw [Lists, not_or, not_not]

/-- The command of these words. -/
def Gives (words : List String) (command : Command) : Prop :=
  Command.ofName (wordAt words 0) = some command

/-- A line does what the command of its first word does. -/
theorem run_eq (words : List String) :
    client.run words =
      match Command.ofName (wordAt words 0) with
      | some .quit => none
      | some .technologies => some client.technologiesCommand
      | some .agent => some (client.agentCommand (wordAt words 1))
      | some .services => some (client.servicesCommand (wordAt words 1))
      | some .scan => some (client.scanCommand (wordAt words 1))
      | some .enable => some (client.powerCommand true (wordAt words 1))
      | some .disable => some (client.powerCommand false (wordAt words 1))
      | some .tethering =>
          some (client.tetherCommand (wordAt words 1) (wordAt words 2) (wordAt words 3)
            (wordAt words 4) (wordAt words 5))
      | some .connect => some (client.connectCommand true (wordAt words 1))
      | some .disconnect => some (client.connectCommand false (wordAt words 1))
      | some .remove => some (client.removeCommand (wordAt words 1))
      | none => some (client.unknownCommand (wordAt words 0)) := by
  rw [run]
  cases given : Command.ofName (wordAt words 0) with
  | none => simp only [dispatch, if_neg (Command.ne_of_ofName_eq_none given _)]
  | some command =>
      rw [Command.ofName_eq_some_iff.mp given]
      cases command <;> rfl

/-- Only `quit` leaves the loop without an exception. -/
theorem interpret_eq_none_iff {line : String} :
    client.interpret line = none ↔ quits line = true := by
  rw [quits, decide_eq_true_iff, argument_eq line (by decide), interpret_eq_run, run_eq]
  cases given : Command.ofName (wordAt (lineWords line) 0) with
  | none => simp [Command.ne_of_ofName_eq_none given .quit]
  | some command =>
      rw [Command.ofName_eq_some_iff.mp given]
      cases command <;> simp [Command.name]

end Client

end GConnman.Connmanctl
