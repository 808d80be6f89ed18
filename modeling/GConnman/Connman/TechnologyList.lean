import GConnman.Connman.Announcements

/-!
# The technology list and its signals

A handler connected to a detailed signal gets the bare member name of the signal
and its body tuple.  The handler of the technology signals compares the name with
the detailed one, so neither branch is ever taken: the list stays what the last
reply made it, and only sequences of signals that ask for no change are followed.
-/

namespace GConnman.Connman

open GConnman.GLib GConnman.DBus GConnman.Foundation

/-- The two signals of the daemon.  `byte` is what the uninitialised type of a
technology built for the signal holds. -/
inductive TechnologySignal where
  | added (path : String) (entries : List (String × GVariant)) (byte : UInt8)
  | removed (path : String) (byte : UInt8)

namespace TechnologySignal

/-- The member name the handler is called with. -/
def signalName : TechnologySignal → String
  | added _ _ _ => "TechnologyAdded"
  | removed _ _ => "TechnologyRemoved"

/-- The body tuple the handler is called with. -/
def parameters : TechnologySignal → GVariant
  | added path entries _ => .tuple [.objectPath path, .dictionary entries]
  | removed path _ => .tuple [.objectPath path]

def byte : TechnologySignal → UInt8
  | added _ _ byte => byte
  | removed _ byte => byte

end TechnologySignal

/-- Deliver one signal to `on_technology_added_removed_cb`. -/
def Manager.onTechnologySignal (manager : Manager) (signal : TechnologySignal) : Reaction :=
  manager.onTechnologyAddedRemovedCb signal.byte signal.signalName signal.parameters

/-- The manager after a sequence of signals. -/
def Manager.afterSignals (manager : Manager) (signals : List TechnologySignal) : Manager :=
  signals.foldl (fun before signal => (before.onTechnologySignal signal).manager) manager

/-- The listed technologies as pairs of a path and properties. -/
def technologyView (technologies : SharedList Technology) : List (String × TechProperties) :=
  technologies.objects.map fun technology => (technology.objPath, technology.props)

/-- What a signal means for the listed technologies. -/
def technologyReference (listed : List (String × TechProperties)) :
    TechnologySignal → List (String × TechProperties)
  | .added path entries byte =>
      listed ++ [(path, fold (Technology.new byte path).props entries)]
  | .removed path _ => listed.filter fun technology => technology.1 ≠ path

/-- After every prefix of the signals the list is the reference list, and every
signal hands the list it leaves behind to the callback in force. -/
structure TracksTechnologies (manager : Manager) (signals : List TechnologySignal) : Prop where
  views : ∀ count ≤ signals.length,
    technologyView (manager.afterSignals (signals.take count)).technologies =
      (signals.take count).foldl technologyReference (technologyView manager.technologies)
  calls : ∀ (count : Nat) (inside : count < signals.length),
    let reaction := (manager.afterSignals (signals.take count)).onTechnologySignal
      (signals.get ⟨count, inside⟩)
    reaction.raised = none ∧
      reaction.calls = (manager.afterSignals (signals.take count)).technologiesChangedCb.toList.map
        (.technologiesChanged · reaction.manager.technologies.refs)

/-- Neither name the handler compares with is the name it gets. -/
theorem signalName_bare (signal : TechnologySignal) :
    signal.signalName ≠ "g-signal::TechnologyAdded" ∧
      signal.signalName ≠ "g-signal::TechnologyRemoved" := by
  cases signal with
  | added path entries byte =>
      change "TechnologyAdded" ≠ _ ∧ "TechnologyAdded" ≠ _
      decide
  | removed path byte =>
      change "TechnologyRemoved" ≠ _ ∧ "TechnologyRemoved" ≠ _
      decide

theorem updateTechnologies_signal (technologies : SharedList Technology)
    (signal : TechnologySignal) :
    updateTechnologies signal.byte technologies signal.signalName signal.parameters =
      .done technologies := by
  obtain ⟨notAdded, notRemoved⟩ := signalName_bare signal
  unfold updateTechnologies
  rw [if_neg notAdded, if_neg notRemoved]

/-- A signal changes nothing and hands the unchanged list to the callback. -/
theorem onTechnologySignal_eq (manager : Manager) (signal : TechnologySignal) :
    manager.onTechnologySignal signal =
      { manager
        calls := manager.technologiesChangedCb.toList.map
          (.technologiesChanged · manager.technologies.refs) } := by
  unfold Manager.onTechnologySignal Manager.onTechnologyAddedRemovedCb
  rw [updateTechnologies_signal]
  rfl

theorem afterSignals_eq (manager : Manager) (signals : List TechnologySignal) :
    manager.afterSignals signals = manager := by
  unfold Manager.afterSignals
  induction signals with
  | nil => rfl
  | cons signal rest ih =>
      rw [List.foldl_cons, onTechnologySignal_eq]
      exact ih

/-- A signal asks for no change exactly when it removes an unlisted path. -/
theorem technologyReference_eq_self_iff (listed : List (String × TechProperties))
    (signal : TechnologySignal) :
    technologyReference listed signal = listed ↔
      ∃ path byte, signal = .removed path byte ∧ path ∉ listed.map Prod.fst := by
  cases signal with
  | added path entries byte =>
      constructor
      · intro same
        have length := congrArg List.length same
        simp [technologyReference] at length
      · rintro ⟨_, _, same, _⟩
        cases same
  | removed path byte =>
      have kept : technologyReference listed (.removed path byte) = listed ↔
          path ∉ listed.map Prod.fst := by
        unfold technologyReference
        rw [List.filter_eq_self, List.mem_map]
        simp only [ne_eq, decide_not, Bool.not_eq_true', decide_eq_false_iff_not, not_exists,
          not_and]
      rw [kept]
      constructor
      · exact fun absent => ⟨path, byte, rfl, absent⟩
      · rintro ⟨_, _, same, absent⟩
        cases same
        exact absent

/-- The reference list stays put along every prefix exactly when no signal asks
for a change. -/
theorem foldl_technologyReference_const (listed : List (String × TechProperties))
    (signals : List TechnologySignal) :
    (∀ count ≤ signals.length, listed = (signals.take count).foldl technologyReference listed) ↔
      ∀ signal ∈ signals, technologyReference listed signal = listed := by
  constructor
  · intro constant signal member
    obtain ⟨index, inside, rfl⟩ := List.getElem_of_mem member
    have before := constant index (Nat.le_of_lt inside)
    have after := constant (index + 1) inside
    rw [List.take_succ_eq_append_getElem inside, List.foldl_append, ← before] at after
    exact after.symm
  · intro unchanged count _
    have prefixUnchanged : ∀ signal ∈ signals.take count,
        technologyReference listed signal = listed :=
      fun signal member => unchanged signal (List.mem_of_mem_take member)
    generalize signals.take count = taken at prefixUnchanged
    induction taken with
    | nil => rfl
    | cons signal rest ih =>
        obtain ⟨head, tail⟩ := List.forall_mem_cons.mp prefixUnchanged
        rw [List.foldl_cons, head]
        exact ih tail

/-- From any starting list, the technology list follows exactly the sequences that
consist of removals of paths that are not listed. -/
theorem tracksTechnologies_iff (manager : Manager) (signals : List TechnologySignal) :
    TracksTechnologies manager signals ↔
      ∀ signal ∈ signals, ∃ path byte, signal = .removed path byte ∧
        path ∉ (technologyView manager.technologies).map Prod.fst := by
  have constant := foldl_technologyReference_const (technologyView manager.technologies) signals
  simp only [technologyReference_eq_self_iff] at constant
  rw [← constant]
  constructor
  · intro tracks count bounded
    have view := tracks.views count bounded
    rw [afterSignals_eq] at view
    exact view
  · intro same
    constructor
    · intro count bounded
      rw [afterSignals_eq]
      exact same count bounded
    · intro count inside
      rw [afterSignals_eq, onTechnologySignal_eq]
      exact ⟨rfl, rfl⟩

/-- A technology that is added to the empty list never appears. -/
theorem technology_added_is_missed :
    ¬ ∀ (manager : Manager) (signals : List TechnologySignal),
      TracksTechnologies manager signals := by
  intro claim
  have view := (claim { servicesChangedCb := none, technologiesChangedCb := none }
    [.added "/wifi" [("Powered", .boolean true)] 0]).views 1 (Nat.le_refl 1)
  have length := congrArg List.length view
  exact absurd length (by decide)

end GConnman.Connman
