import Mathlib.Logic.Function.Basic
import GConnman.Connman.ServiceList
import GConnman.DBus.CurrentValues

/-!
# Services as mirrors of the daemon's

The daemon holds the current properties of its services, announces services with
dictionaries and reports every later change in a signal of its own.  All messages
travel in one queue.  The handlers of the two announcements are taken apart here:
a service is subscribed to its changes by its constructor, in the middle of the
handling, and the daemon may change properties between any two steps of a handler.
A handler that is not interrupted does what the whole handlers of the manager do.
-/

namespace GConnman.Connman

open GConnman.GLib GConnman.DBus GConnman.Foundation

/-- The daemon: the properties of each of its services, and the paths it last
announced to this client. -/
structure Daemon where
  properties : String → List (String × GVariant)
  announced : List String

namespace Daemon

variable (daemon : Daemon)

/-- A property changes. -/
def change (path name : String) (value : GVariant) : Daemon :=
  { daemon with
    properties :=
      Function.update daemon.properties path (assign name value (daemon.properties path)) }

theorem change_properties_self (path name : String) (value : GVariant) :
    (daemon.change path name value).properties path =
      assign name value (daemon.properties path) :=
  Function.update_self ..

theorem change_properties_of_ne {path other : String} (different : other ≠ path) (name : String)
    (value : GVariant) :
    (daemon.change path name value).properties other = daemon.properties other :=
  Function.update_of_ne different ..

/-- What ServicesChanged says about a path: everything when the path is newly
announced, and otherwise the properties with the given names. -/
def announcement (removed : List String) (entry : String × List String) : Announcement :=
  (entry.1,
    if entry.1 ∈ daemon.announced ∧ entry.1 ∉ removed then
      (daemon.properties entry.1).filter fun pair => pair.1 ∈ entry.2
    else daemon.properties entry.1)

/-- What GetServices says about a path. -/
def listing (path : String) : Announcement := (path, daemon.properties path)

/-- An announcement carries current values only. -/
theorem announcement_takenFrom (removed : List String) (entry : String × List String) :
    TakenFrom (daemon.announcement removed entry).2
      (daemon.properties (daemon.announcement removed entry).1) := by
  change TakenFrom (if _ then _ else _) (daemon.properties entry.1)
  split
  · exact TakenFrom.names _ _
  · exact TakenFrom.refl _

/-- The daemon announces values the decoders know when it holds such values only. -/
theorem announcement_known (removed : List String) (entry : String × List String)
    (known : knownEntries ServProperties (daemon.properties entry.1) = true) :
    knownEntries ServProperties (daemon.announcement removed entry).2 = true := by
  change knownEntries ServProperties (if _ then _ else _) = true
  split
  · have all := List.all_eq_true.mp known
    exact List.all_eq_true.mpr fun pair member => all pair (List.mem_of_mem_filter member)
  · exact known

end Daemon

/-- What the daemon sends.  A change is sent once to each proxy of the path that
is subscribed when it is emitted. -/
inductive DaemonMessage where
  | services (all : List Announcement)
  | servicesChanged (changed : List Announcement) (removed : List String)
  | propertyChanged (ref : Ref) (name : String) (value : GVariant)

/-- An announcement being handled: the list built so far, the announcements left,
whether they are looked up in the list in force, and the service that has its
place but not yet its dictionary. -/
structure Intake where
  draft : Draft Service
  left : List Announcement
  lookups : Bool
  target : Option (Ref × List (String × GVariant)) := none

namespace Intake

variable (intake : Intake)

/-- The listed service a path leads to. -/
def listed (path : String) : Option Ref :=
  if intake.lookups then lookup intake.draft.list path else none

theorem listed_some {intake : Intake} {path : String} {ref : Ref}
    (found : intake.listed path = some ref) :
    ref ∈ intake.draft.list.refs ∧
      ∃ service, intake.draft.list.store.get? ref = some service ∧ service.objPath = path := by
  unfold listed at found
  split at found
  · exact lookup_some found
  · cases found

/-- Give the next announcement its service: the one that is listed, or a new one,
whose constructor subscribes it. -/
def place (first : Announcement) (rest : List Announcement) : Intake :=
  match found : intake.listed first.1 with
  | some ref =>
      { intake with
        draft := intake.draft.push ref (intake.draft.list.linked ref (listed_some found).1)
        left := rest
        target := some (ref, first.2) }
  | none =>
      { intake with
        draft := intake.draft.pushNew (Service.new first.1)
        left := rest
        target := some (intake.draft.list.store.size, first.2) }

def place? : Option Intake :=
  match intake.target, intake.left with
  | none, first :: rest => some (intake.place first rest)
  | _, _ => none

/-- Pass the dictionary to the service; `none` when the update raises. -/
def update? : Option Intake :=
  match intake.target with
  | none => none
  | some (ref, entries) =>
      let updated := intake.draft.perform ref fun service =>
        service.updateProperties (GVariant.dictionary entries)
      match updated.raised with
      | none => some { intake with draft := updated.state, target := none }
      | some _ => none

/-- Put the new list in force. -/
def commit? : Option (SharedList Service) :=
  match intake.target, intake.left with
  | none, [] => some intake.draft.commit
  | _, _ => none

theorem place_of_listed {first : Announcement} {ref : Ref}
    (found : intake.listed first.1 = some ref) (rest : List Announcement) :
    ∃ inside, intake.place first rest =
      { intake with
        draft := intake.draft.push ref inside
        left := rest
        target := some (ref, first.2) } := by
  unfold place
  split
  · rename_i other same
    have equal : some other = some ref := same.symm.trans found
    cases equal
    exact ⟨intake.draft.list.linked ref (listed_some found).1, rfl⟩
  · rename_i missing
    exact absurd (missing.symm.trans found) (by simp)

theorem place_of_unlisted {first : Announcement} (missing : intake.listed first.1 = none)
    (rest : List Announcement) :
    intake.place first rest =
      { intake with
        draft := intake.draft.pushNew (Service.new first.1)
        left := rest
        target := some (intake.draft.list.store.size, first.2) } := by
  unfold place
  split
  · rename_i other same
    exact absurd (same.symm.trans missing) (by simp)
  · rfl

/-- The reference an announcement is given. -/
def placement (path : String) : Ref := (intake.listed path).getD intake.draft.list.store.size

variable (first : Announcement) (rest : List Announcement)

theorem place_left : (intake.place first rest).left = rest := by
  cases found : intake.listed first.1 with
  | none => rw [place_of_unlisted intake found]
  | some ref =>
      obtain ⟨inside, placed⟩ := place_of_listed intake found rest
      rw [placed]

theorem place_target :
    (intake.place first rest).target = some (intake.placement first.1, first.2) := by
  unfold placement
  cases found : intake.listed first.1 with
  | none =>
      rw [place_of_unlisted intake found]
      rfl
  | some ref =>
      obtain ⟨inside, placed⟩ := place_of_listed intake found rest
      rw [placed]
      rfl

theorem place_built :
    (intake.place first rest).draft.built = intake.draft.built ++ [intake.placement first.1] := by
  unfold placement
  cases found : intake.listed first.1 with
  | none =>
      rw [place_of_unlisted intake found]
      rfl
  | some ref =>
      obtain ⟨inside, placed⟩ := place_of_listed intake found rest
      rw [placed]
      rfl

theorem place_get?_old {ref : Ref} (inside : ref < intake.draft.list.store.size) :
    (intake.place first rest).draft.list.store.get? ref = intake.draft.list.store.get? ref := by
  cases found : intake.listed first.1 with
  | none =>
      rw [place_of_unlisted intake found]
      exact ObjectStore.get?_alloc_of_lt _ _ inside
  | some target =>
      obtain ⟨_, placed⟩ := place_of_listed intake found rest
      rw [placed]
      rfl

theorem place_get?_new {first : Announcement} (missing : intake.listed first.1 = none) :
    (intake.place first rest).draft.list.store.get? intake.draft.list.store.size =
      some (Service.new first.1) := by
  rw [place_of_unlisted intake missing]
  exact ObjectStore.get?_alloc_self _ _

/-- Giving an announcement its service changes no lookup. -/
theorem listed_place (path : String) :
    (intake.place first rest).listed path = intake.listed path := by
  cases found : intake.listed first.1 with
  | none =>
      rw [place_of_unlisted intake found]
      unfold listed
      split
      · have sameRefs : (intake.draft.pushNew (Service.new first.1)).list.refs =
            intake.draft.list.refs := rfl
        refine lookup_congr sameRefs ?_ path
        intro ref member
        exact congrArg _ (ObjectStore.get?_alloc_of_lt _ _ (intake.draft.list.linked ref member))
      · rfl
  | some ref =>
      obtain ⟨inside, placed⟩ := place_of_listed intake found rest
      rw [placed]
      rfl

theorem place?_eq_some {intake next : Intake} (placed : intake.place? = some next) :
    intake.target = none ∧ ∃ first rest, intake.left = first :: rest ∧
      next = intake.place first rest := by
  obtain ⟨draft, left, lookups, target⟩ := intake
  cases target with
  | some target => cases placed
  | none =>
      cases left with
      | nil => cases placed
      | cons first rest =>
          cases placed
          exact ⟨rfl, first, rest, rfl, rfl⟩

theorem update?_eq_some {intake next : Intake} (updated : intake.update? = some next) :
    ∃ ref entries, intake.target = some (ref, entries) ∧
      (intake.draft.perform ref fun service =>
        service.updateProperties (GVariant.dictionary entries)).raised = none ∧
      next =
        { intake with
          draft := (intake.draft.perform ref fun service =>
            service.updateProperties (GVariant.dictionary entries)).state
          target := none } := by
  unfold update? at updated
  cases waiting : intake.target with
  | none =>
      rw [waiting] at updated
      cases updated
  | some target =>
      rw [waiting] at updated
      dsimp only at updated
      split at updated
      · rename_i normal
        cases updated
        exact ⟨target.1, target.2, rfl, normal, rfl⟩
      · cases updated

/-- The dictionary that waits for a service. -/
def waiting (ref : Ref) : List (String × GVariant) :=
  intake.target.elim [] fun target => if target.1 = ref then target.2 else []

/-- The dictionary is folded into the service it waits for, and nothing else changes. -/
theorem update?_spec {intake next : Intake} (updated : intake.update? = some next) :
    next.target = none ∧ next.left = intake.left ∧ next.draft.built = intake.draft.built ∧
      (∀ path, next.listed path = intake.listed path) ∧
      ∀ ref, next.draft.list.store.get? ref =
        (intake.draft.list.store.get? ref).map (withEntries · (intake.waiting ref)) := by
  obtain ⟨target, entries, waits, normal, rfl⟩ := update?_eq_some updated
  have folded : ∀ ref,
      (intake.draft.perform target fun service =>
        service.updateProperties (GVariant.dictionary entries)).state.list.store.get? ref =
        (intake.draft.list.store.get? ref).map (withEntries · (intake.waiting ref)) := by
    intro ref
    rw [waiting, waits, Option.elim_some, Draft.perform_store]
    by_cases same : target = ref
    · subst same
      rw [if_pos rfl]
      cases stored : intake.draft.list.store.get? target with
      | none => rw [ObjectStore.perform, stored, Outcome.done_state, stored, Option.map_none]
      | some service =>
          rw [Draft.perform_raised, ObjectStore.perform_raised _ stored] at normal
          have known := (service.updateProperties_raised entries).mp normal
          rw [ObjectStore.get?_perform_self _ stored, service.updateProperties_of_known known]
          rfl
    · rw [if_neg same, ObjectStore.get?_perform_of_ne _ _ same]
      simp only [withEntries_nil, Option.map_id']
  refine ⟨rfl, rfl, rfl, ?_, folded⟩
  intro path
  unfold listed
  split
  · refine lookup_congr (Draft.perform_refs ..) ?_ path
    intro ref _
    rw [folded, Option.map_map]
    rfl
  · rfl

theorem commit?_eq_some {intake : Intake} {services : SharedList Service}
    (committed : intake.commit? = some services) :
    intake.target = none ∧ intake.left = [] ∧ services = intake.draft.commit := by
  obtain ⟨draft, left, lookups, target⟩ := intake
  cases target with
  | some target => cases committed
  | none =>
      cases left with
      | cons first rest => cases committed
      | nil =>
          cases committed
          exact ⟨rfl, rfl, rfl⟩

end Intake

/-- The proxies of a path, all of them subscribed to its changes. -/
def subscribers (store : ObjectStore Service) (path : String) : List Ref :=
  (List.range store.size).filter fun ref =>
    (store.get? ref).any fun service => service.objPath = path

theorem mem_subscribers {store : ObjectStore Service} {path : String} {ref : Ref}
    {service : Service} (stored : store.get? ref = some service) :
    ref ∈ subscribers store path ↔ service.objPath = path := by
  rw [subscribers, List.mem_filter, List.mem_range, stored,
    and_iff_right (store.lt_size_of_get? stored), Option.any_some, decide_eq_true_eq]

theorem subscribers_nodup (store : ObjectStore Service) (path : String) :
    (subscribers store path).Nodup :=
  List.nodup_range.filter _

/-- The daemon, the messages in flight, and the client between two messages or in
the middle of handling an announcement. -/
structure Mirror where
  daemon : Daemon
  bus : List DaemonMessage
  manager : Manager
  intake : Option Intake

inductive MirrorEvent where
  /-- The daemon changes a property and emits PropertyChanged. -/
  | change (path name : String) (value : GVariant)
  /-- The daemon answers GetServices. -/
  | reply (all : List String)
  /-- The daemon emits ServicesChanged. -/
  | announce (changed : List (String × List String)) (removed : List String)
  /-- The loop dispatches the oldest message. -/
  | receive
  /-- The handler gives the next announcement its service. -/
  | place
  /-- The handler passes the dictionary on. -/
  | update
  /-- The handler puts the new list in force. -/
  | commit

namespace Mirror

variable (mirror : Mirror)

/-- Before the first announcement, with any properties on the daemon's side. -/
def start (noop : CallbackId) (properties : String → List (String × GVariant)) : Mirror where
  daemon := ⟨properties, []⟩
  bus := []
  manager := .constructed noop
  intake := none

/-- All services that exist. -/
def store : ObjectStore Service :=
  match mirror.intake with
  | none => mirror.manager.services.store
  | some intake => intake.draft.list.store

/-- Dispatch one message; `none` when a property update raises. -/
def dispatch? : DaemonMessage → Option Mirror
  | .services all =>
      some { mirror with intake := some ⟨.start mirror.manager.services, all, false, none⟩ }
  | .servicesChanged changed removed =>
      some { mirror with
        intake := some ⟨.start (eraseRemoved mirror.manager.services removed), changed, true,
          none⟩ }
  | .propertyChanged ref name value =>
      (mirror.manager.handle (.propertyChanged ref (name, value))).next?.map fun manager =>
        { mirror with manager }

def step? : MirrorEvent → Option Mirror
  | .change path name value =>
      some { mirror with
        daemon := mirror.daemon.change path name value
        bus := mirror.bus ++ (subscribers mirror.store path).map (.propertyChanged · name value) }
  | .reply all =>
      some { mirror with
        daemon := { mirror.daemon with announced := all }
        bus := mirror.bus ++ [.services (all.map mirror.daemon.listing)] }
  | .announce changed removed =>
      some { mirror with
        daemon := { mirror.daemon with announced := changed.map Prod.fst }
        bus := mirror.bus ++
          [.servicesChanged (changed.map (mirror.daemon.announcement removed)) removed] }
  | .receive =>
      match mirror.intake, mirror.bus with
      | none, message :: rest => { mirror with bus := rest }.dispatch? message
      | _, _ => none
  | .place =>
      (mirror.intake.bind Intake.place?).map fun next => { mirror with intake := some next }
  | .update =>
      (mirror.intake.bind Intake.update?).map fun next => { mirror with intake := some next }
  | .commit =>
      (mirror.intake.bind Intake.commit?).map fun services =>
        { mirror with manager := { mirror.manager with services }, intake := none }

end Mirror

def mirrorMachine : Machine Mirror MirrorEvent := ⟨Mirror.step?⟩

/-! ## What the steps of the client do -/

namespace Mirror

variable {mirror next : Mirror}

theorem receive_cases (stepped : mirrorMachine.step? mirror .receive = some next) :
    mirror.intake = none ∧ ∃ message rest, mirror.bus = message :: rest ∧
      { mirror with bus := rest }.dispatch? message = some next := by
  obtain ⟨daemon, bus, manager, intake⟩ := mirror
  cases intake with
  | some intake => cases stepped
  | none =>
      cases bus with
      | nil => cases stepped
      | cons message rest => exact ⟨rfl, message, rest, rfl, stepped⟩

theorem dispatchChange_cases {ref : Ref} {name : String} {value : GVariant}
    (stepped : mirror.dispatch? (.propertyChanged ref name value) = some next) :
    next = { mirror with manager := (mirror.manager.handle
      (.propertyChanged ref (name, value))).manager } := by
  obtain ⟨updated, survived, rfl⟩ := Option.map_eq_some_iff.mp stepped
  obtain ⟨-, rfl⟩ := Reaction.next?_eq_some.mp survived
  rfl

theorem place_cases (stepped : mirrorMachine.step? mirror .place = some next) :
    ∃ intake first rest, mirror.intake = some intake ∧ intake.target = none ∧
      intake.left = first :: rest ∧
      next = { mirror with intake := some (intake.place first rest) } := by
  obtain ⟨placed, handled, rfl⟩ := Option.map_eq_some_iff.mp stepped
  obtain ⟨intake, here, advanced⟩ := Option.bind_eq_some_iff.mp handled
  obtain ⟨idle, first, rest, left, rfl⟩ := Intake.place?_eq_some advanced
  exact ⟨intake, first, rest, here, idle, left, rfl⟩

theorem update_cases (stepped : mirrorMachine.step? mirror .update = some next) :
    ∃ intake updated, mirror.intake = some intake ∧ intake.update? = some updated ∧
      next = { mirror with intake := some updated } := by
  obtain ⟨updated, handled, rfl⟩ := Option.map_eq_some_iff.mp stepped
  obtain ⟨intake, here, advanced⟩ := Option.bind_eq_some_iff.mp handled
  exact ⟨intake, updated, here, advanced, rfl⟩

theorem commit_cases (stepped : mirrorMachine.step? mirror .commit = some next) :
    ∃ intake services, mirror.intake = some intake ∧ intake.commit? = some services ∧
      next = { mirror with manager := { mirror.manager with services }, intake := none } := by
  obtain ⟨services, handled, rfl⟩ := Option.map_eq_some_iff.mp stepped
  obtain ⟨intake, here, committed⟩ := Option.bind_eq_some_iff.mp handled
  exact ⟨intake, services, here, committed, rfl⟩

end Mirror

/-! ## Handlers that are not interrupted -/

namespace Intake

/-- The loop body the steps of an intake stand for. -/
def body (lookups : Bool) : Draft Service → String × GVariant → Outcome Fault (Draft Service) :=
  if lookups then placeService else dictToProxy Service.new

variable (intake : Intake)

theorem body_of_listed {first : Announcement} {ref : Ref}
    (found : intake.listed first.1 = some ref) :
    ∃ inside, body intake.lookups intake.draft first.pathProp =
      (intake.draft.push ref inside).perform ref
        (fun service => service.updateProperties (GVariant.dictionary first.2)) := by
  unfold listed at found
  split at found
  · rename_i looked
    rw [body, if_pos looked]
    exact placeService_of_listed intake.draft first found
  · cases found

theorem body_of_unlisted {first : Announcement} (missing : intake.listed first.1 = none) :
    body intake.lookups intake.draft first.pathProp =
      dictToProxy Service.new intake.draft first.pathProp := by
  unfold listed at missing
  split at missing
  · rename_i looked
    rw [body, if_pos looked]
    exact placeService_of_unlisted intake.draft first missing
  · rename_i fresh
    rw [body, if_neg fresh]

/-- The two steps for an announcement are one iteration of the loop. -/
theorem update?_place {first : Announcement} {rest : List Announcement}
    (normal : (body intake.lookups intake.draft first.pathProp).raised = none) :
    (intake.place first rest).update? =
      some ⟨(body intake.lookups intake.draft first.pathProp).state, rest, intake.lookups,
        none⟩ := by
  cases found : intake.listed first.1 with
  | none =>
      rw [body_of_unlisted intake found] at normal ⊢
      rw [place_of_unlisted intake found]
      change (match (dictToProxy Service.new intake.draft first.pathProp).raised with
        | none => _
        | some _ => _) = _
      rw [normal]
      rfl
  | some ref =>
      obtain ⟨inside, placed⟩ := body_of_listed intake found
      obtain ⟨_, same⟩ := place_of_listed intake found rest
      rw [placed] at normal ⊢
      rw [same]
      unfold update?
      simp only [normal]

end Intake

namespace Mirror

variable (mirror : Mirror)

/-- An intake that is not interrupted is the loop over its announcements. -/
theorem run_loop (lookups : Bool) (draft : Draft Service) (left : List Announcement)
    (normal : (Outcome.forEach (Intake.body lookups) draft
      (left.map Announcement.pathProp)).raised = none) :
    mirrorMachine.Run Machine.anyStep { mirror with intake := some ⟨draft, left, lookups, none⟩ }
      (left.flatMap fun _ => [.place, .update])
      { mirror with
        intake := some ⟨(Outcome.forEach (Intake.body lookups) draft
          (left.map Announcement.pathProp)).state, [], lookups, none⟩ } := by
  induction left generalizing draft with
  | nil => exact .refl
  | cons first rest ih =>
      rw [List.map_cons, Outcome.forEach_cons] at normal ⊢
      cases ended : (Intake.body lookups draft first.pathProp).raised with
      | some fault =>
          rw [Outcome.andThen_of_raised ended, ended] at normal
          cases normal
      | none =>
          rw [Outcome.andThen_of_done ended] at normal ⊢
          let intake : Intake := ⟨draft, first :: rest, lookups, none⟩
          have placed : mirrorMachine.step? { mirror with intake := some intake } .place =
              some { mirror with intake := some (intake.place first rest) } := rfl
          have stored : mirrorMachine.step?
              { mirror with intake := some (intake.place first rest) } .update =
                some { mirror with
                  intake := some ⟨(Intake.body lookups draft first.pathProp).state, rest, lookups,
                    none⟩ } := by
            change (intake.place first rest).update?.map _ = _
            rw [intake.update?_place ended]
            rfl
          exact (Machine.Run.single trivial placed |>.tail trivial stored).trans (ih _ normal)

/-- The steps that handle a list of announcements. -/
def handling (all : List Announcement) : List MirrorEvent :=
  [.receive] ++ all.flatMap (fun _ => [.place, .update]) ++ [.commit]

theorem run_handling {mirror : Mirror} (started : Mirror) (lookups : Bool) {draft : Draft Service}
    {all : List Announcement} (received : mirrorMachine.step? mirror .receive = some
      { started with intake := some ⟨draft, all, lookups, none⟩ })
    (normal : (Outcome.forEach (Intake.body lookups) draft
      (all.map Announcement.pathProp)).raised = none) :
    mirrorMachine.Run Machine.anyStep mirror (handling all)
      { started with
        manager := { started.manager with
          services := (Outcome.forEach (Intake.body lookups) draft
            (all.map Announcement.pathProp)).state.commit }
        intake := none } := by
  have looped := started.run_loop lookups draft all normal
  exact (Machine.Run.single trivial received |>.trans looped).tail trivial rfl

/-- A reply whose handling is not interrupted does what `get_proxies_cb` does. -/
theorem run_reply (daemon : Daemon) (rest : List DaemonMessage) (manager : Manager)
    {all : List Announcement}
    (normal : (manager.handle (.getServicesReply (some all))).raised = none) :
    mirrorMachine.Run Machine.anyStep ⟨daemon, .services all :: rest, manager, none⟩
      (handling all)
      ⟨daemon, rest, (manager.handle (.getServicesReply (some all))).manager, none⟩ := by
  have known := (getServicesCb_raised manager all).mp normal
  have ended := (proxies_raised Service.new (.start manager.services) all).mpr known
  have handled : (manager.handle (.getServicesReply (some all))).manager =
      { manager with
        services := (Outcome.forEach (dictToProxy Service.new) (.start manager.services)
          (all.map Announcement.pathProp)).state.commit } := by
    change (manager.getServicesCb (some (announcements all))).manager = _
    unfold Manager.getServicesCb
    simp only [arraysToProxies_announcements, ended]
  rw [handled]
  exact run_handling ⟨daemon, rest, manager, none⟩ false rfl ended

/-- A signal whose handling is not interrupted does what `on_services_changed_cb` does. -/
theorem run_signal (daemon : Daemon) (rest : List DaemonMessage) (manager : Manager)
    {changed : List Announcement} {removed : List String}
    (normal : (manager.handle (.servicesChanged changed removed)).raised = none) :
    mirrorMachine.Run Machine.anyStep ⟨daemon, .servicesChanged changed removed :: rest, manager,
        none⟩ (handling changed)
      ⟨daemon, rest, (manager.handle (.servicesChanged changed removed)).manager, none⟩ := by
  have known := (onServicesChangedCb_raised manager changed removed).mp normal
  have ended := (placeServices_raised (.start (eraseRemoved manager.services removed))
    changed).mpr known
  have handled : (manager.handle (.servicesChanged changed removed)).manager =
      { manager with
        services := (placeServices (.start (eraseRemoved manager.services removed))
          changed).state.commit } := by
    change (manager.onServicesChangedCb _).manager = _
    rw [onServicesChangedCb_parameters]
    simp only [ended]
  rw [handled]
  exact run_handling ⟨daemon, rest, manager, none⟩ true rfl ended

end Mirror

end GConnman.Connman
