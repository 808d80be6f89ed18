import GConnman.Connmanctl.Lines

/-!
# Exceptions

Nothing catches an exception that leaves a command, so it ends the client.  A type that
is no enumerator raises where it is looked up, and a number that does not fit where it is
converted; nothing else does.
-/

namespace GConnman.Connmanctl

open GConnman.Connman GConnman.DBus GConnman.Foundation

namespace Client

variable {kind : Endpoint → Interface} (client : Client kind)

theorem techName?_eq_none_iff {type : Uninitialised TechType} :
    techName? type = none ↔ type.enumerator TechType.ofByte = none := by
  rw [techName?, Option.map_eq_none_iff]

/-- A technology whose type is no enumerator cannot be printed, and any other can. -/
theorem print_raises_iff (props : TechProperties) :
    (∃ fault, props.print = .error fault) ↔ techName? props.type = none := by
  rw [techName?_eq_none_iff]
  constructor
  · rintro ⟨fault, failed⟩
    by_contra held
    have listed := props.listed_iff.mpr (Option.ne_none_iff_exists'.mp held)
    obtain ⟨text, printed⟩ := TechProperties.exists_print listed
    rw [printed] at failed
    cases failed
  · intro unlisted
    refine ⟨.invalidEnumValue, ?_⟩
    rw [TechProperties.print, TechProperties.typeText, unlisted]
    rfl

theorem technologiesCommand_raises_iff :
    client.technologiesCommand.raised ≠ none ↔
      ∃ technology ∈ client.technologies,
        techName? (client.techProperties technology 0).type = none := by
  rw [technologiesCommand]
  split
  · rename_i empty
    rw [empty]
    simp
  · refine Outcome.forEach_raised_iff _ fun before technology => ?_
    rw [← print_raises_iff, printTechnology]
    cases printed : (client.techProperties technology 0).print <;> simp

theorem withTechnology_raises_iff (arg : String) (before : List (Action kind))
    (next : TechProxy kind → Interpretation kind) :
    (client.withTechnology arg before next).raised ≠ none ↔
      client.Stumbles arg ∨ ∃ technology, client.Finds arg technology ∧
        (next technology).raised ≠ none := by
  constructor
  · intro raises
    rcases client.withTechnology_cases arg before next with
      ⟨technology, finds, goes⟩ | ⟨stumbles, -⟩ | ended
    · rw [goes] at raises
      exact .inr ⟨technology, finds, raises⟩
    · exact .inl stumbles
    · rw [ended] at raises
      exact absurd rfl raises
  · rintro (stumbles | ⟨technology, finds, raises⟩)
    · rw [withTechnology_of_stumbles before next stumbles]
      simp
    · rw [withTechnology_of_finds before next finds]
      exact raises

theorem scanCommand_raises_iff (arg : String) :
    (client.scanCommand arg).raised ≠ none ↔ client.Lists arg ∧ client.Stumbles arg := by
  rw [scanCommand, ← not_usage_iff]
  split
  · rename_i usage
    simp [usage]
  · rename_i usage
    simp only [withTechnology_raises_iff, scanTechnology, Outcome.done_raised]
    simp [usage]

theorem switchPower_raised (enable : Bool) (before : List (Action kind))
    (technology : TechProxy kind) :
    (client.switchPower enable before technology).raised = none := by
  by_cases differs : (client.techProperties technology 1).powered ≠ enable
  · simp only [switchPower, if_pos differs, Outcome.done_raised]
  · simp only [switchPower, if_neg differs, Outcome.done_raised]

theorem powerCommand_raises_iff (enable : Bool) (arg : String) :
    (client.powerCommand enable arg).raised ≠ none ↔ client.Lists arg ∧ client.Stumbles arg := by
  rw [powerCommand, ← not_usage_iff]
  split
  · rename_i usage
    simp [usage]
  · rename_i usage
    simp only [withTechnology_raises_iff, switchPower_raised]
    simp [usage]

/-- The frequency is given as a number that is too large. -/
def LargeFrequency (frequency : String) : Prop :=
  isFrequency frequency = true ∧ intLimit ≤ decimal frequency

theorem stoi_eq_none_iff {digits : String} : stoi digits = none ↔ intLimit ≤ decimal digits := by
  rw [stoi, ← not_lt]
  split <;> simp_all

theorem tetherTechnology_raises_iff (arg arg1 arg2 arg3 arg4 : String)
    (technology : TechProxy kind) :
    (tetherTechnology arg arg1 arg2 arg3 arg4 technology).raised ≠ none ↔
      arg = techName .wifi ∧ shortPassphrase arg3 = false ∧ LargeFrequency arg4 := by
  rw [LargeFrequency, ← stoi_eq_none_iff, tetherTechnology]
  split
  · rename_i wifi
    rw [tetherWifi]
    cases short : shortPassphrase arg3 with
    | true => simp
    | false =>
        cases given : isFrequency arg4 with
        | false => simp [enableTethering]
        | true => cases number : stoi arg4 <;> simp [wifi, enableTethering]
  · rename_i other
    simp [other, enableTethering]

theorem tetherCommand_raises_iff (arg arg1 arg2 arg3 arg4 : String) :
    (client.tetherCommand arg arg1 arg2 arg3 arg4).raised ≠ none ↔
      client.tetherArguments arg arg1 arg2 = true ∧
        (client.Stumbles arg ∨ (∃ technology, client.Finds arg technology) ∧
          arg = techName .wifi ∧ shortPassphrase arg3 = false ∧ LargeFrequency arg4) := by
  rw [tetherCommand]
  split
  · rename_i complete
    simp only [withTechnology_raises_iff, tetherTechnology_raises_iff, exists_and_right]
    simp [complete]
  · rename_i usage
    simp [usage]

/-- No command on a service raises. -/
theorem withService_raised {arg missing : String} {next : ServProxy kind → Interpretation kind}
    (quiet : ∀ service, (next service).raised = none) :
    (client.withService arg missing next).raised = none := by
  rw [withService]
  split
  · rfl
  · exact quiet _

theorem printService_raised (service : ServProxy kind) :
    (client.printService service).raised = none := by
  obtain ⟨text, printed⟩ := ServProperties.exists_print
    (ServProperties.listed (client.servProperties service 1))
  rw [printService, printed]
  rfl

theorem connectService_raised (connect : Bool) (service : ServProxy kind) :
    (client.connectService connect service).raised = none := by
  by_cases differs : isConnected (client.servProperties service 2).state ≠ connect
  · simp only [connectService, if_pos differs, Outcome.done_raised]
  · simp only [connectService, if_neg differs, Outcome.done_raised]

theorem servicesCommand_raised (arg : String) : (client.servicesCommand arg).raised = none := by
  unfold servicesCommand
  split
  · rfl
  · split
    · rfl
    · exact client.withService_raised client.printService_raised

theorem connectCommand_raised (connect : Bool) (arg : String) :
    (client.connectCommand connect arg).raised = none := by
  unfold connectCommand
  split
  · rfl
  · exact client.withService_raised (client.connectService_raised connect)

theorem removeCommand_raised (arg : String) : (client.removeCommand arg).raised = none := by
  unfold removeCommand
  split
  · rfl
  · exact client.withService_raised fun _ => rfl

theorem agentCommand_raised (arg : String) : (client.agentCommand arg).raised = none := by
  unfold agentCommand
  split
  · rfl
  · split <;> rfl

theorem unknownCommand_raised (cmd : String) : (client.unknownCommand cmd).raised = none := by
  unfold unknownCommand
  split <;> rfl

/-- What the client finds when a command raises. -/
def CrashesIn (words : List String) : Command → Prop
  | .technologies => ∃ technology ∈ client.technologies,
      techName? (client.techProperties technology 0).type = none
  | .scan | .enable | .disable =>
      client.Lists (wordAt words 1) ∧ client.Stumbles (wordAt words 1)
  | .tethering =>
      client.tetherArguments (wordAt words 1) (wordAt words 2) (wordAt words 3) = true ∧
        (client.Stumbles (wordAt words 1) ∨
          (∃ technology, client.Finds (wordAt words 1) technology) ∧
            wordAt words 1 = techName .wifi ∧ shortPassphrase (wordAt words 4) = false ∧
            LargeFrequency (wordAt words 5))
  | .services | .connect | .disconnect | .remove | .agent | .quit => False

/-- The client ends with an exception exactly when a line has it look at a technology whose
type is no enumerator, in the list or on the way to the first one of the given name, or
set up an access point with a frequency of digits that is no `int`. -/
theorem interpret_raises_iff (line : String) :
    (∃ interpretation, client.interpret line = some interpretation ∧
        interpretation.raised ≠ none) ↔
      ∃ command, Gives (lineWords line) command ∧ client.CrashesIn (lineWords line) command := by
  rw [interpret_eq_run, run_eq]
  unfold Gives
  cases given : Command.ofName (wordAt (lineWords line) 0) with
  | none => simp [unknownCommand_raised]
  | some command =>
      simp only [Option.some.injEq, exists_eq_left']
      cases command with
      | technologies => simpa [CrashesIn] using client.technologiesCommand_raises_iff
      | scan => simpa [CrashesIn] using client.scanCommand_raises_iff _
      | enable => simpa [CrashesIn] using client.powerCommand_raises_iff true _
      | disable => simpa [CrashesIn] using client.powerCommand_raises_iff false _
      | tethering => simpa [CrashesIn] using client.tetherCommand_raises_iff _ _ _ _ _
      | services => simp [CrashesIn, servicesCommand_raised]
      | connect => simp [CrashesIn, connectCommand_raised]
      | disconnect => simp [CrashesIn, connectCommand_raised]
      | remove => simp [CrashesIn, removeCommand_raised]
      | agent => simp [CrashesIn, agentCommand_raised]
      | quit => simp [CrashesIn]

end Client

end GConnman.Connmanctl
