import GConnman.Connmanctl.Sessions

/-!
# Completion

readline asks for the completions of a word one at a time, on the main thread, until
there are no more.  The names come from lists that the callbacks of the manager replace
on the loop's thread in the meantime.  The generator keeps the list it began with.

As long as the lists are those of the objects, a command finds what was completed, unless
it is more than one word.
-/

namespace GConnman.Connmanctl

open GConnman.Connman GConnman.DBus GConnman.Foundation

/-! ## The lists of names -/

/-- What the callback for the services puts into the list for a service. -/
def serviceNames (service : String × String) : List String :=
  lastComponent service.1 :: if service.2 = "" then [] else [service.2]

/-- `onServicesChanged`, with the path and the name of each service. -/
def servicesContainerOf (services : List (String × String)) : List String :=
  services.flatMap serviceNames

/-- `onTechnologiesChanged`; `none` when `at` raises. -/
def technologiesContainerOf (types : List (Uninitialised TechType)) : Option (List String) :=
  types.mapM techName?

inductive Mode where
  | command | serviceHash | techHash | onOff
  deriving DecidableEq, Repr

/-- The static variables of `command_generator`. -/
structure Generator where
  index : Nat := 0
  len : Nat := 0
  variableContainer : List String := []
  deriving DecidableEq, Repr

/-- `cmd.compare(0, len, text) == 0`. -/
def begins (len : Nat) (text cmd : String) : Bool :=
  cmd.toUTF8.data.toList.take len = text.toUTF8.data.toList

/-- The loop of `command_generator` over what is left of the container. -/
def search (len : Nat) (text : String) : List String → Nat → Option String × Nat
  | [], index => (none, index)
  | cmd :: rest, index =>
      if begins len text cmd then (some cmd, index + 1) else search len text rest (index + 1)

namespace Generator

/-- `command_generator` with the state 0, up to the loop. -/
def restart (container : List String) (text : String) : Generator where
  len := text.utf8ByteSize
  variableContainer := container

/-- The loop of `command_generator`. -/
def generate (generator : Generator) (text : String) : Option String × Generator :=
  let found := search generator.len text
    (generator.variableContainer.drop generator.index) generator.index
  (found.1, { generator with index := found.2 })

end Generator

/-- The lists, the generator and the completions collected so far. -/
structure CompletionState where
  servicesContainer : List String := []
  technologiesContainer : List String := []
  completionMode : Mode := .command
  generator : Generator := {}
  text : String := ""
  collecting : Bool := false
  collected : List String := []
  deriving DecidableEq, Repr

inductive CompletionEvent where
  | servicesChanged (services : List (String × String))
  | technologiesChanged (types : List (Uninitialised TechType))
  /-- readline asks for the completions of a word that starts there in its line, where
  the cursor is at a point. -/
  | complete (start : Nat) (line : String) (point : Nat) (text : String)
  /-- readline asks for the next one. -/
  | next

/-- The mode that `completion` chooses for the command in the line. -/
def commandMode (command : String) : Option Mode :=
  if command = Command.agent.name then some .onOff
  else if command = Command.enable.name ∨ command = Command.disable.name ∨
      command = Command.scan.name ∨ command = Command.tethering.name then
    some .techHash
  else if command = Command.connect.name ∨ command = Command.disconnect.name ∨
      command = Command.remove.name ∨ command = Command.services.name then
    some .serviceHash
  else none

/-- The word at a place of a line that has not been trimmed. -/
def lineArgument (line : String) (index : Nat) : String :=
  String.ofList ((readWords isSpace 2 line.toList)[index]?.getD [])

/-- The argument is complete, and the cursor behind it. -/
def argumentComplete (line : String) (point : Nat) : Bool :=
  lineArgument line 1 ≠ "" ∧ 0 < point ∧ point = line.utf8ByteSize ∧
    line.toList.getLast? = some ' '

namespace CompletionState

variable (state : CompletionState)

/-- The list that the generator takes in a mode. -/
def containerOf (commandsContainer : List String) : Mode → List String
  | .command => commandsContainer
  | .serviceHash => state.servicesContainer
  | .techHash => state.technologiesContainer
  | .onOff => [on, off]

/-- Collect the next completion. -/
def collect : CompletionState :=
  let (found, generator) := state.generator.generate state.text
  match found with
  | some cmd => { state with generator, collected := state.collected ++ [cmd] }
  | none => { state with generator, collecting := false }

/-- `rl_completion_matches` up to its first call of the generator. -/
def begin (commandsContainer : List String) (mode : Mode) (text : String) : CompletionState :=
  { state with
    completionMode := mode
    generator := .restart (state.containerOf commandsContainer mode) text
    text, collecting := true, collected := [] }

/-- `completion`. -/
def complete (commandsContainer : List String) (start : Nat) (line : String) (point : Nat)
    (text : String) : CompletionState :=
  if start = 0 then (state.begin commandsContainer .command text).collect
  else
    match commandMode (lineArgument line 0) with
    | none => { state with collecting := false, collected := [] }
    | some mode =>
        if argumentComplete line point then
          { state with completionMode := mode, collecting := false, collected := [] }
        else (state.begin commandsContainer mode text).collect

def step? (commandsContainer : List String) : CompletionEvent → Option CompletionState
  | .servicesChanged services =>
      some { state with servicesContainer := servicesContainerOf services }
  | .technologiesChanged types =>
      (technologiesContainerOf types).map fun technologiesContainer =>
        { state with technologiesContainer }
  | .complete start line point text =>
      some (state.complete commandsContainer start line point text)
  | .next => if state.collecting then some state.collect else none

def machine (commandsContainer : List String) : Machine CompletionState CompletionEvent :=
  ⟨fun state => state.step? commandsContainer⟩

end CompletionState

/-! ## One completion after the other -/

/-- The loop stops behind the next name that begins with the text, or at the end. -/
theorem search_cases (len : Nat) (text : String) (container : List String) (index : Nat) :
    (search len text container index = (none, index + container.length) ∧
        container.filter (begins len text) = []) ∨
      ∃ cmd count, search len text container index = (some cmd, index + count) ∧
        container.filter (begins len text) =
          cmd :: (container.drop count).filter (begins len text) := by
  induction container generalizing index with
  | nil => exact .inl ⟨rfl, rfl⟩
  | cons first rest ih =>
      rw [search]
      cases here : begins len text first with
      | true => exact .inr ⟨first, 1, rfl, by simp [here]⟩
      | false =>
          have later : (first :: rest).filter (begins len text) =
              rest.filter (begins len text) := by simp [here]
          rw [later, if_neg Bool.false_ne_true]
          rcases ih (index + 1) with ⟨ended, nothing⟩ | ⟨cmd, count, found, others⟩
          · refine .inl ⟨?_, nothing⟩
            rw [ended, List.length_cons, Nat.add_assoc, Nat.add_comm 1]
          · refine .inr ⟨cmd, count + 1, ?_, others⟩
            rw [found, Nat.add_assoc, Nat.add_comm 1]

namespace CompletionState

/-- The completions that are still to be collected are those of the container the
generator began with that it has not come to. -/
structure Enumerates (container : List String) (text : String) (state : CompletionState) :
    Prop where
  keeps : state.generator.variableContainer = container
  len : state.generator.len = text.utf8ByteSize
  word : state.text = text
  split : state.collected ++
    (container.drop state.generator.index).filter (begins text.utf8ByteSize text) =
      container.filter (begins text.utf8ByteSize text)
  ended : state.collecting = false →
    (container.drop state.generator.index).filter (begins text.utf8ByteSize text) = []

variable {state finish : CompletionState} {container commandsContainer : List String}
  {text : String}

theorem Enumerates.collect (enumerates : Enumerates container text state)
    (collecting : state.collecting = true) : Enumerates container text state.collect := by
  obtain ⟨rfl, len, rfl, split, -⟩ := enumerates
  rcases search_cases state.generator.len state.text
      (state.generator.variableContainer.drop state.generator.index) state.generator.index with
    ⟨ended, nothing⟩ | ⟨cmd, count, found, others⟩
  · have collected : state.collect = { state with
        generator := { state.generator with
          index := state.generator.index +
            (state.generator.variableContainer.drop state.generator.index).length }
        collecting := false } := by
      simp only [CompletionState.collect, Generator.generate, ended]
    have behind : state.generator.variableContainer.drop (state.generator.index +
        (state.generator.variableContainer.drop state.generator.index).length) = [] := by
      rw [← List.drop_drop, List.drop_length]
    rw [← len, nothing] at split
    rw [collected]
    refine ⟨rfl, len, rfl, ?_, fun _ => ?_⟩
    · rw [behind, ← len]
      exact split
    · rw [behind]
      rfl
  · have collected : state.collect = { state with
        generator := { state.generator with index := state.generator.index + count }
        collected := state.collected ++ [cmd] } := by
      simp only [CompletionState.collect, Generator.generate, found]
    rw [← len, others] at split
    rw [collected]
    refine ⟨rfl, len, rfl, ?_, fun ended => ?_⟩
    · rw [← List.drop_drop, ← len]
      simpa using split
    · change state.collecting = false at ended
      rw [collecting] at ended
      cases ended

/-- The completions of a word, in the order of the list. -/
def completionsIn (container : List String) (text : String) : List String :=
  container.filter fun cmd => text.toUTF8.data.toList.isPrefixOf cmd.toUTF8.data.toList

/-- What readline is offered for a word. -/
def offers (state : CompletionState) (commandsContainer : List String) (start : Nat)
    (line : String) (point : Nat) (text : String) : List String :=
  if start = 0 then completionsIn commandsContainer text
  else
    match commandMode (lineArgument line 0) with
    | none => []
    | some mode =>
        if argumentComplete line point then []
        else completionsIn (state.containerOf commandsContainer mode) text

theorem begins_eq (text cmd : String) :
    begins text.utf8ByteSize text cmd =
      text.toUTF8.data.toList.isPrefixOf cmd.toUTF8.data.toList := by
  have size : text.toUTF8.data.toList.length = text.utf8ByteSize := rfl
  rw [begins, Bool.eq_iff_iff, decide_eq_true_iff, List.isPrefixOf_iff_prefix,
    List.prefix_iff_eq_take, size, eq_comm]

/-- Readline asks for nothing else in between. -/
def SameWord (_ : CompletionState) : CompletionEvent → Prop
  | .complete _ _ _ _ => False
  | _ => True

instance (state : CompletionState) :
    (event : CompletionEvent) → Decidable (SameWord state event)
  | .complete _ _ _ _ => .isFalse id
  | .servicesChanged _ | .technologiesChanged _ | .next => .isTrue trivial

theorem Enumerates.step {next : CompletionState} {event : CompletionEvent}
    (enumerates : Enumerates container text state) (same : SameWord state event)
    (stepped : state.step? commandsContainer event = some next) :
    Enumerates container text next := by
  cases event with
  | servicesChanged services =>
      cases stepped
      exact ⟨enumerates.keeps, enumerates.len, enumerates.word, enumerates.split, enumerates.ended⟩
  | technologiesChanged types =>
      obtain ⟨technologies, -, rfl⟩ := Option.map_eq_some_iff.mp stepped
      exact ⟨enumerates.keeps, enumerates.len, enumerates.word, enumerates.split, enumerates.ended⟩
  | complete start line point text => exact same.elim
  | next =>
      obtain ⟨collecting, ⟨⟩⟩ := Option.ite_none_right_eq_some.mp stepped
      exact enumerates.collect collecting

/-- An enumeration under way has collected the first completions, and at its end all. -/
theorem Enumerates.collected (enumerates : Enumerates container text state) :
    state.collected <+: completionsIn container text ∧
      (state.collecting = false → state.collected = completionsIn container text) := by
  have split := enumerates.split
  have named : container.filter (begins text.utf8ByteSize text) = completionsIn container text :=
    List.filter_congr fun cmd _ => begins_eq text cmd
  rw [named] at split
  refine ⟨⟨_, split⟩, fun ended => ?_⟩
  rwa [enumerates.ended ended, List.append_nil] at split

/-- Nothing is collected when there is nothing to enumerate. -/
def Idle (state : CompletionState) : Prop := state.collecting = false ∧ state.collected = []

theorem Idle.step {next : CompletionState} {event : CompletionEvent} (idle : Idle state)
    (same : SameWord state event) (stepped : state.step? commandsContainer event = some next) :
    Idle next := by
  cases event with
  | servicesChanged services =>
      cases stepped
      exact idle
  | technologiesChanged types =>
      obtain ⟨technologies, -, rfl⟩ := Option.map_eq_some_iff.mp stepped
      exact idle
  | complete start line point text => exact same.elim
  | next =>
      obtain ⟨collecting, -⟩ := Option.ite_none_right_eq_some.mp stepped
      rw [idle.1] at collecting
      cases collecting

variable {first : CompletionState} {start point : Nat} {line : String}
  {events : List CompletionEvent}

end CompletionState

/-! ## Names that are found -/

namespace Client

variable {kind : Endpoint → Interface} (client : Client kind)

end Client

/-! ## The completed line -/

namespace Client

variable {kind : Endpoint → Interface} (client : Client kind)

variable {client} {command : Command} {arg : String} {args : List String}

end Client

namespace CompletionState

variable {kind : Endpoint → Interface} {state first finish : CompletionState}

/-- The lists are those of the services and technologies that the client finds. -/
structure Current (client : Client kind) (state : CompletionState) : Prop where
  services : state.servicesContainer = servicesContainerOf (client.services.map fun service =>
    (client.objPath service.object, (client.servProperties service 0).name))
  technologies : technologiesContainerOf (client.technologies.map fun technology =>
    (client.techProperties technology 0).type) = some state.technologiesContainer
  known : client.technologiesContainer = state.technologiesContainer

/-- A name with a space is completed, but a command reads two words. -/
example : "My Home" ∈ completionsIn (servicesContainerOf [("/net/wifi_1", "My Home")]) "My" ∧
    lineWords "connect My Home" = ["connect", "My", "Home"] := by
  decide

end CompletionState

end GConnman.Connmanctl
