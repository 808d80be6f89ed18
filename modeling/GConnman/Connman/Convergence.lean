import GConnman.Connman.Mirror
import GConnman.Connman.ServiceSlots

/-!
# Convergence of the services

A service converges when its properties, with everything folded in that is still
on its way to it, agree with the daemon's.  Every step keeps this for the services
that are there; the one place where it can fail is the creation of a service.  A
change the daemon makes after it sent the dictionary and before the constructor
subscribed the service is in neither, and nothing fetches the properties again.
-/

namespace GConnman.Connman

open GConnman.GLib GConnman.DBus GConnman.Foundation
open PropertyRecord KnownProperties
open PropertyMessage (knownEntries_append)

/-! ## What is on its way to a service -/

/-- The entries that announcements carry for a path, in order. -/
def entriesFor (path : String) (all : List Announcement) : List (String × GVariant) :=
  (all.filter fun announced => announced.1 = path).flatMap Prod.snd

namespace DaemonMessage

/-- A service that is listed before the message is listed after it. -/
def keeps (path : String) : DaemonMessage → Bool
  | services _ => false
  | servicesChanged changed removed => path ∈ changed.map Prod.fst ∧ path ∉ removed
  | propertyChanged _ _ _ => true

/-- The entries a message has for a service that is listed or not. -/
def entriesFor (path : String) (ref : Ref) (listed : Bool) :
    DaemonMessage → List (String × GVariant)
  | services _ => []
  | servicesChanged changed removed =>
      if listed ∧ path ∉ removed then Connman.entriesFor path changed else []
  | propertyChanged target name value => if target = ref then [(name, value)] else []

/-- The message announces distinct paths, and the decoders know all its values. -/
def Formed : DaemonMessage → Prop
  | services all => WellFormed all
  | servicesChanged changed _ => WellFormed changed
  | propertyChanged _ name value => known ServProperties name value = true

/-- The paths that are listed after a message. -/
def listing (listed : List String) : DaemonMessage → List String
  | services all => all.map Prod.fst
  | servicesChanged changed _ => changed.map Prod.fst
  | propertyChanged _ _ _ => listed

theorem foldl_listing_change (listed : List String) (refs : List Ref) (name : String)
    (value : GVariant) :
    (refs.map (propertyChanged · name value)).foldl
      (fun listed message => message.listing listed) listed = listed := by
  induction refs with
  | nil => rfl
  | cons first rest ih => exact ih

end DaemonMessage

/-- The entries the queue has for a service that is listed or not. -/
def pending (path : String) (ref : Ref) : Bool → List DaemonMessage → List (String × GVariant)
  | _, [] => []
  | listed, message :: rest =>
      message.entriesFor path ref listed ++ pending path ref (listed && message.keeps path) rest

theorem pending_append (path : String) (ref : Ref) (listed : Bool)
    (queue sent : List DaemonMessage) :
    ∃ still, pending path ref listed (queue ++ sent) =
      pending path ref listed queue ++ pending path ref still sent := by
  induction queue generalizing listed with
  | nil => exact ⟨listed, rfl⟩
  | cons message rest ih =>
      obtain ⟨still, same⟩ := ih (listed && message.keeps path)
      refine ⟨still, ?_⟩
      rw [List.cons_append, pending, same, pending, List.append_assoc]

/-- A change reaches each subscribed proxy once. -/
theorem pending_change (path : String) (ref : Ref) (listed : Bool) (name : String)
    (value : GVariant) {refs : List Ref} (distinct : refs.Nodup) :
    pending path ref listed (refs.map (.propertyChanged · name value)) =
      if ref ∈ refs then [(name, value)] else [] := by
  induction refs generalizing listed with
  | nil => rfl
  | cons first rest ih =>
      obtain ⟨fresh, distinct⟩ := List.nodup_cons.mp distinct
      rw [List.map_cons, pending, ih _ distinct, DaemonMessage.entriesFor]
      by_cases same : first = ref
      · subst same
        rw [if_pos rfl, if_neg fresh, if_pos List.mem_cons_self, List.append_nil]
      · simp [same, Ne.symm same]

theorem knownEntries_flatMap {Source : Type*} {sources : List Source}
    {pieces : Source → List (String × GVariant)}
    (each : ∀ source ∈ sources, knownEntries ServProperties (pieces source) = true) :
    knownEntries ServProperties (sources.flatMap pieces) = true := by
  induction sources with
  | nil => rfl
  | cons source rest ih =>
      obtain ⟨head, tail⟩ := List.forall_mem_cons.mp each
      rw [List.flatMap_cons, knownEntries_append, head, ih tail]
      rfl

theorem DaemonMessage.knownEntries_of_formed {message : DaemonMessage} (formed : message.Formed)
    (path : String) (ref : Ref) (listed : Bool) :
    knownEntries ServProperties (message.entriesFor path ref listed) = true := by
  cases message with
  | services all => rfl
  | servicesChanged changed removed =>
      have accepted : ∀ announced ∈ changed, knownEntries ServProperties announced.2 = true :=
        formed.2
      rw [entriesFor]
      split
      · exact knownEntries_flatMap fun announced member =>
          accepted announced (List.mem_of_mem_filter member)
      · rfl
  | propertyChanged target name value =>
      have accepted : known ServProperties name value = true := formed
      rw [entriesFor]
      split
      · simpa [knownEntries] using accepted
      · rfl

theorem knownEntries_pending {queue : List DaemonMessage}
    (formed : ∀ message ∈ queue, message.Formed) (path : String) (ref : Ref) (listed : Bool) :
    knownEntries ServProperties (pending path ref listed queue) = true := by
  induction queue generalizing listed with
  | nil => rfl
  | cons message rest ih =>
      obtain ⟨head, tail⟩ := List.forall_mem_cons.mp formed
      rw [pending, knownEntries_append,
        DaemonMessage.knownEntries_of_formed head path ref listed, ih tail]
      rfl

/-! ## The list an announcement in hand leads to -/

/-- Two listed references to services of one path are the same. -/
theorem ref_eq_of_path {services : SharedList Service} (distinct : (paths services).Nodup)
    {first second : Ref} (left : first ∈ services.refs) (right : second ∈ services.refs)
    {one other : Service} (stored : services.store.get? first = some one)
    (held : services.store.get? second = some other) (same : one.objPath = other.objPath) :
    first = second := by
  obtain ⟨store, refs, linked⟩ := services
  change ((refs.filterMap store.get?).map DBusProxy.objPath).Nodup at distinct
  change first ∈ refs at left
  change second ∈ refs at right
  change store.get? first = some one at stored
  change store.get? second = some other at held
  induction refs with
  | nil => cases left
  | cons ref rest ih =>
      obtain ⟨service, found⟩ := store.exists_get? (linked ref List.mem_cons_self)
      rw [List.filterMap_cons_some found, List.map_cons, List.nodup_cons] at distinct
      have apart : ∀ {next : Ref} {later : Service}, store.get? next = some later →
          next ∈ rest → later.objPath ≠ service.objPath := by
        intro next later stored member equal
        exact distinct.1 (List.mem_map.mpr
          ⟨later, List.mem_filterMap.mpr ⟨next, member, stored⟩, equal⟩)
      rcases List.mem_cons.mp left with first_eq | behind <;>
        rcases List.mem_cons.mp right with second_eq | after
      · rw [first_eq, second_eq]
      · rw [first_eq, found, Option.some.injEq] at stored
        exact absurd (same.symm.trans (congrArg _ stored.symm)) (apart held after)
      · rw [second_eq, found, Option.some.injEq] at held
        exact absurd (same.trans (congrArg _ held.symm)) (apart stored behind)
      · exact ih (fun next member => linked next (List.mem_cons_of_mem _ member)) distinct.2
          behind after

/-- In a list of distinct paths a lookup finds every listed service. -/
theorem lookup_of_mem {services : SharedList Service} (distinct : (paths services).Nodup)
    {ref : Ref} (member : ref ∈ services.refs) {service : Service}
    (stored : services.store.get? ref = some service) :
    lookup services service.objPath = some ref := by
  have listed : service.objPath ∈ paths services :=
    List.mem_map.mpr ⟨service, services.mem_objects.mpr ⟨ref, member, stored⟩, rfl⟩
  cases found : lookup services service.objPath with
  | none => exact absurd listed (lookup_none.mp found)
  | some other =>
      obtain ⟨also, held, there, same⟩ := lookup_some found
      rw [ref_eq_of_path distinct member also stored there same.symm]

/-- After the erasing loop a path still leads to a service exactly if it is the
path of the service, which was listed and is not removed. -/
theorem lookup_eraseRemoved {services : SharedList Service} (distinct : (paths services).Nodup)
    (removed : List String) {ref : Ref} {service : Service}
    (stored : services.store.get? ref = some service) (path : String) :
    lookup (eraseRemoved services removed) path = some ref ↔
      path = service.objPath ∧ ref ∈ services.refs ∧ service.objPath ∉ removed := by
  have member : ref ∈ (eraseRemoved services removed).refs ↔
      ref ∈ services.refs ∧ service.objPath ∉ removed := by
    rw [eraseRemoved_eq]
    change ref ∈ services.refs.filter _ ↔ _
    rw [List.mem_filter, SharedList.test_eq _ stored]
    simp
  rw [← member]
  rw [← eraseRemoved_store services removed] at stored
  constructor
  · intro found
    obtain ⟨left, other, held, same⟩ := lookup_some found
    rw [stored, Option.some.injEq] at held
    exact ⟨by rw [held, same], left⟩
  · rintro ⟨rfl, left⟩
    have apart : (paths (eraseRemoved services removed)).Nodup := by
      rw [eraseRemoved_paths]
      exact distinct.filter _
    exact lookup_of_mem apart left stored

@[simp] theorem paths_commit (draft : Draft Service) :
    paths draft.commit = (draft.built.filterMap draft.list.store.get?).map DBusProxy.objPath := rfl

namespace Intake

variable {intake : Intake} {first : Announcement} {rest : List Announcement}

/-- The paths of the list the announcement in hand leads to. -/
def outcome (intake : Intake) : List String :=
  paths intake.draft.commit ++ intake.left.map Prod.fst

/-- What the announcement in hand still has for a service. -/
def coming (intake : Intake) (ref : Ref) : List (String × GVariant) :=
  intake.waiting ref ++
    (intake.left.filter fun announced => intake.listed announced.1 = some ref).flatMap Prod.snd

/-- The service will be listed when the announcement in hand is handled. -/
def Keeps (intake : Intake) (ref : Ref) : Prop :=
  ref ∈ intake.draft.built ∨ ∃ announced ∈ intake.left, intake.listed announced.1 = some ref

theorem Keeps.inside {ref : Ref} (keeps : intake.Keeps ref) :
    ref < intake.draft.list.store.size := by
  rcases keeps with built | ⟨announced, _, found⟩
  · exact intake.draft.builtLinked ref built
  · exact intake.draft.list.linked ref (listed_some found).1

/-- The reference given to an announcement leads to a service of its path. -/
theorem place_get?_placement (intake : Intake) (first : Announcement)
    (rest : List Announcement) :
    ∃ service, (intake.place first rest).draft.list.store.get? (intake.placement first.1) =
      some service ∧ service.objPath = first.1 := by
  unfold placement
  cases found : intake.listed first.1 with
  | none => exact ⟨Service.new first.1, place_get?_new intake rest found, rfl⟩
  | some ref =>
      obtain ⟨member, service, stored, path⟩ := listed_some found
      refine ⟨service, ?_, path⟩
      rw [Option.getD_some, place_get?_old _ _ _ (intake.draft.list.linked ref member), stored]

theorem outcome_place (left : intake.left = first :: rest) :
    (intake.place first rest).outcome = intake.outcome := by
  obtain ⟨service, stored, path⟩ := intake.place_get?_placement first rest
  have before : ∀ ref ∈ intake.draft.built,
      (intake.place first rest).draft.list.store.get? ref = intake.draft.list.store.get? ref :=
    fun ref member => place_get?_old _ _ _ (intake.draft.builtLinked ref member)
  rw [outcome, outcome, paths_commit, paths_commit, place_built, place_left, left,
    List.filterMap_append, List.filterMap_congr before, List.filterMap_cons_some stored]
  simp [path]

theorem outcome_update {next : Intake} (updated : intake.update? = some next) :
    next.outcome = intake.outcome := by
  obtain ⟨-, left, built, -, folded⟩ := update?_spec updated
  have samePath : ∀ ref ∈ intake.draft.built,
      (next.draft.list.store.get? ref).map DBusProxy.objPath =
        (intake.draft.list.store.get? ref).map DBusProxy.objPath := by
    intro ref _
    rw [folded, Option.map_map]
    rfl
  rw [outcome, outcome, paths_commit, paths_commit, left, built, List.map_filterMap,
    List.map_filterMap, List.filterMap_congr samePath]

theorem outcome_commit {services : SharedList Service}
    (committed : intake.commit? = some services) : intake.outcome = paths services := by
  obtain ⟨-, left, rfl⟩ := commit?_eq_some committed
  rw [outcome, left, List.map_nil, List.append_nil]

/-- A service that was there is kept when an announcement gets its service exactly
if it was kept before. -/
theorem keeps_place_old (left : intake.left = first :: rest) {ref : Ref}
    (inside : ref < intake.draft.list.store.size) :
    (intake.place first rest).Keeps ref ↔ intake.Keeps ref := by
  have leads : ref = intake.placement first.1 ↔ intake.listed first.1 = some ref := by
    unfold placement
    cases intake.listed first.1 with
    | none => simpa using Nat.ne_of_lt inside
    | some target => simp [eq_comm]
  unfold Keeps
  rw [place_built, place_left, left, List.mem_append, List.mem_singleton, leads]
  simp only [listed_place, List.mem_cons, exists_eq_or_imp, or_assoc]

/-- A new service is kept. -/
theorem keeps_place_new (missing : intake.listed first.1 = none) :
    (intake.place first rest).Keeps intake.draft.list.store.size := by
  unfold Keeps
  rw [place_built, placement, missing]
  exact .inl (List.mem_append_right _ List.mem_cons_self)

theorem coming_place (ref : Ref) :
    (intake.place first rest).coming ref =
      (if intake.placement first.1 = ref then first.2 else []) ++
        (rest.filter fun announced => intake.listed announced.1 = some ref).flatMap Prod.snd := by
  unfold coming waiting
  rw [place_target, place_left]
  simp only [listed_place, Option.elim_some]

/-- The services there are when an announcement got its service: those that were
there, and the new one if there is one. -/
theorem place_inside {ref : Ref}
    (inside : ref < (intake.place first rest).draft.list.store.size) :
    ref < intake.draft.list.store.size ∨
      intake.listed first.1 = none ∧ ref = intake.draft.list.store.size := by
  cases found : intake.listed first.1 with
  | none =>
      rw [place_of_unlisted intake found, Draft.pushNew_store, ObjectStore.size_alloc] at inside
      rcases Nat.lt_succ_iff_lt_or_eq.mp inside with old | new
      · exact .inl old
      · exact .inr ⟨rfl, new⟩
  | some target =>
      obtain ⟨_, placed⟩ := place_of_listed intake found rest
      rw [placed] at inside
      exact .inl inside

/-- What is coming for a service that was there is what was coming for it. -/
theorem coming_place_old (idle : intake.target = none) (left : intake.left = first :: rest)
    {ref : Ref} (inside : ref < intake.draft.list.store.size) :
    (intake.place first rest).coming ref = intake.coming ref := by
  have leads : intake.placement first.1 = ref ↔ intake.listed first.1 = some ref := by
    unfold placement
    cases intake.listed first.1 with
    | none => simpa using Nat.ne_of_gt inside
    | some target => simp
  rw [coming_place, coming, waiting, idle, left, List.filter_cons]
  by_cases found : intake.listed first.1 = some ref
  · rw [if_pos (leads.mpr found), if_pos (decide_eq_true found)]
    rfl
  · rw [if_neg (mt leads.mp found), if_neg (by simpa using found)]
    rfl

/-- The dictionary of its announcement is coming for a new service. -/
theorem coming_place_new (missing : intake.listed first.1 = none) :
    (intake.place first rest).coming intake.draft.list.store.size = first.2 := by
  have others : rest.filter (fun announced =>
      intake.listed announced.1 = some intake.draft.list.store.size) = [] := by
    apply List.filter_eq_nil_iff.mpr
    intro announced _ found
    have member := (listed_some (of_decide_eq_true found)).1
    exact Nat.lt_irrefl _ (intake.draft.list.linked _ member)
  rw [coming_place, placement, missing, others]
  simp

end Intake

namespace Mirror

variable (mirror : Mirror)

/-- The paths of the list in force, or of the one the announcement in hand leads to. -/
def outcome : List String :=
  match mirror.intake with
  | none => paths mirror.manager.services
  | some intake => intake.outcome

/-- What the announcement in hand still has for a service. -/
def coming (ref : Ref) : List (String × GVariant) :=
  match mirror.intake with
  | none => []
  | some intake => intake.coming ref

/-- The service is listed, or will be when the announcement in hand is handled. -/
def Keeps (ref : Ref) : Prop :=
  match mirror.intake with
  | none => ref ∈ mirror.manager.services.refs
  | some intake => intake.Keeps ref

/-- Every service, with everything folded in that is on its way to it, agrees with
the daemon. -/
structure Faithful : Prop where
  daemon_known : ∀ path, knownEntries ServProperties (mirror.daemon.properties path) = true
  bus_formed : ∀ message ∈ mirror.bus, message.Formed
  left_known : ∀ intake, mirror.intake = some intake → ∀ announced ∈ intake.left,
    knownEntries ServProperties announced.2 = true
  distinct : mirror.outcome.Nodup
  agrees : ∀ ref service listed, (listed = true ↔ mirror.Keeps ref) →
    mirror.store.get? ref = some service →
      AgreesWith
        (fold service.props
          (mirror.coming ref ++ pending service.objPath ref listed mirror.bus))
        (mirror.daemon.properties service.objPath)

/-- Nothing is in flight and no announcement is being handled. -/
def Settled : Prop := mirror.intake = none ∧ mirror.bus = []

/-- Every property a service reads, listed or not, is the daemon's current one. -/
def Converged : Prop :=
  ∀ ref service, mirror.store.get? ref = some service →
    AgreesWith service.props (mirror.daemon.properties service.objPath)

/-- The daemon announces no path twice in a message, and the decoders know the
values it sets. -/
def Assumed (_ : Mirror) : MirrorEvent → Prop
  | .change _ name value => known ServProperties name value = true
  | .reply all => all.Nodup
  | .announce changed _ => (changed.map Prod.fst).Nodup
  | _ => True

/-- When a new service is subscribed, the dictionary it was announced with,
followed by what is in flight for it, ends in the daemon's current values. -/
def UpToDate (mirror : Mirror) : MirrorEvent → Prop
  | .place =>
      ∀ intake, mirror.intake = some intake → ∀ first rest, intake.left = first :: rest →
        intake.listed first.1 = none →
          Covers ServProperties
            (first.2 ++ pending first.1 intake.draft.list.store.size true mirror.bus)
            (mirror.daemon.properties first.1)
  | _ => True

/-- The assumptions on the daemon, and the condition on its changes. -/
def Covered (mirror : Mirror) (event : MirrorEvent) : Prop :=
  Assumed mirror event ∧ UpToDate mirror event

instance (event : MirrorEvent) : Decidable (Assumed mirror event) :=
  match event with
  | .change _ name value =>
      inferInstanceAs (Decidable (known ServProperties name value = true))
  | .reply all => inferInstanceAs (Decidable all.Nodup)
  | .announce changed _ => inferInstanceAs (Decidable (changed.map Prod.fst).Nodup)
  | .receive => .isTrue trivial
  | .place => .isTrue trivial
  | .update => .isTrue trivial
  | .commit => .isTrue trivial

/-! ## Steps of the daemon -/

section Daemon

variable {mirror}

/-- A step of the daemon keeps the services faithful when what it sends makes up
for what it changes. -/
theorem Faithful.send (faithful : mirror.Faithful) {daemon : Daemon} {sent : List DaemonMessage}
    (daemonKnown : ∀ path, knownEntries ServProperties (daemon.properties path) = true)
    (sentFormed : ∀ message ∈ sent, message.Formed)
    (follows : ∀ ref service listed, mirror.store.get? ref = some service →
      ∀ props : ServProperties, AgreesWith props (mirror.daemon.properties service.objPath) →
        AgreesWith (fold props (pending service.objPath ref listed sent))
          (daemon.properties service.objPath)) :
    Faithful { mirror with daemon, bus := mirror.bus ++ sent } where
  daemon_known := daemonKnown
  bus_formed message member := by
    rcases List.mem_append.mp member with queued | added
    · exact faithful.bus_formed message queued
    · exact sentFormed message added
  left_known := faithful.left_known
  distinct := faithful.distinct
  agrees ref service listed keeps stored := by
    obtain ⟨still, joined⟩ := pending_append service.objPath ref listed mirror.bus sent
    have before := faithful.agrees ref service listed keeps stored
    have after := follows ref service still stored _ before
    change AgreesWith (fold service.props (mirror.coming ref ++
      pending service.objPath ref listed (mirror.bus ++ sent))) _
    rw [joined, ← List.append_assoc, fold_append]
    exact after

theorem Faithful.change (faithful : mirror.Faithful) (path : String) {name : String}
    {value : GVariant} (accepted : known ServProperties name value = true) :
    Faithful { mirror with
      daemon := mirror.daemon.change path name value
      bus := mirror.bus ++
        (subscribers mirror.store path).map (.propertyChanged · name value) } := by
  apply faithful.send
  · intro other
    by_cases same : other = path
    · subst same
      have kept := List.all_eq_true.mp (faithful.daemon_known other)
      rw [Daemon.change_properties_self, assign, knownEntries_append, Bool.and_eq_true]
      constructor
      · exact List.all_eq_true.mpr fun pair member => kept pair (List.mem_of_mem_filter member)
      · simpa [knownEntries] using accepted
    · rw [Daemon.change_properties_of_ne _ same]
      exact faithful.daemon_known other
  · intro message member
    obtain ⟨ref, _, rfl⟩ := List.mem_map.mp member
    exact accepted
  · intro ref service listed stored props agrees
    rw [pending_change _ _ _ _ _ (subscribers_nodup ..)]
    by_cases same : service.objPath = path
    · rw [if_pos ((mem_subscribers stored).mpr same), same, Daemon.change_properties_self]
      rw [same] at agrees
      exact agrees.fold_assign accepted
    · rw [if_neg (mt (mem_subscribers stored).mp same), Daemon.change_properties_of_ne _ same]
      exact agrees

theorem Faithful.reply (faithful : mirror.Faithful) {all : List String} (distinct : all.Nodup) :
    Faithful { mirror with
      daemon := { mirror.daemon with announced := all }
      bus := mirror.bus ++ [.services (all.map mirror.daemon.listing)] } := by
  apply faithful.send
  · exact faithful.daemon_known
  · intro message member
    rw [List.mem_singleton.mp member]
    constructor
    · rw [List.map_map]
      exact (List.map_id all).symm ▸ distinct
    · intro announced listed
      obtain ⟨path, _, rfl⟩ := List.mem_map.mp listed
      exact faithful.daemon_known path
  · intro ref service listed _ props agrees
    exact agrees

theorem Faithful.announce (faithful : mirror.Faithful) {changed : List (String × List String)}
    (distinct : (changed.map Prod.fst).Nodup) (removed : List String) :
    Faithful { mirror with
      daemon := { mirror.daemon with announced := changed.map Prod.fst }
      bus := mirror.bus ++
        [.servicesChanged (changed.map (mirror.daemon.announcement removed)) removed] } := by
  have carried : ∀ announced ∈ changed.map (mirror.daemon.announcement removed),
      knownEntries ServProperties announced.2 = true ∧
        TakenFrom announced.2 (mirror.daemon.properties announced.1) := by
    intro announced member
    obtain ⟨entry, _, rfl⟩ := List.mem_map.mp member
    exact ⟨mirror.daemon.announcement_known removed entry (faithful.daemon_known entry.1),
      mirror.daemon.announcement_takenFrom removed entry⟩
  have formed : (DaemonMessage.servicesChanged
      (changed.map (mirror.daemon.announcement removed)) removed).Formed := by
    constructor
    · rw [List.map_map]
      exact distinct
    · exact fun announced listed => (carried announced listed).1
  apply faithful.send
  · exact faithful.daemon_known
  · intro message member
    rw [List.mem_singleton.mp member]
    exact formed
  · intro ref service listed _ props agrees
    rw [pending, pending, List.append_nil]
    apply agrees.fold_takenFrom
    · exact DaemonMessage.knownEntries_of_formed formed ..
    · rw [DaemonMessage.entriesFor]
      split
      · refine TakenFrom.flatMap fun announced member => ?_
        obtain ⟨listed, same⟩ := List.mem_filter.mp member
        rw [← of_decide_eq_true same]
        exact (carried announced listed).2
      · exact TakenFrom.nil _

end Daemon

/-! ## Dispatched messages -/

section Dispatch

variable {daemon : Daemon} {rest : List DaemonMessage} {manager : Manager}

/-- A reply replaces every listed service. -/
theorem Faithful.startReply {all : List Announcement}
    (faithful : Faithful ⟨daemon, .services all :: rest, manager, none⟩) :
    Faithful ⟨daemon, rest, manager, some ⟨.start manager.services, all, false, none⟩⟩ := by
  have formed : WellFormed all := faithful.bus_formed _ List.mem_cons_self
  constructor
  case daemon_known => exact faithful.daemon_known
  case bus_formed =>
    exact fun message member => faithful.bus_formed message (List.mem_cons_of_mem _ member)
  case left_known =>
    intro intake handled
    cases handled
    exact formed.2
  case distinct => exact formed.1
  case agrees =>
    intro ref service listed keeps stored
    have dropped : listed = false := by
      rw [← Bool.not_eq_true, keeps]
      rintro (built | ⟨announced, _, found⟩)
      · cases built
      · cases found
    have coming : Mirror.coming ⟨daemon, rest, manager,
        some ⟨.start manager.services, all, false, none⟩⟩ ref = [] := by
      change [] ++ (all.filter fun announced => none = some ref).flatMap Prod.snd = []
      simp
    obtain ⟨before, same⟩ : ∃ before, before = true ↔ ref ∈ manager.services.refs :=
      ⟨decide (ref ∈ manager.services.refs), decide_eq_true_iff⟩
    have agrees := faithful.agrees ref service before same stored
    change AgreesWith (fold service.props ([] ++ ([] ++ pending _ _ (before && false) rest))) _
      at agrees
    rw [coming, dropped]
    rw [Bool.and_false] at agrees
    exact agrees

/-- A listed service that a signal keeps has its entries for the path coming. -/
theorem Faithful.startSignal {changed : List Announcement} {removed : List String}
    (faithful : Faithful ⟨daemon, .servicesChanged changed removed :: rest, manager, none⟩) :
    Faithful ⟨daemon, rest, manager,
      some ⟨.start (eraseRemoved manager.services removed), changed, true, none⟩⟩ := by
  have formed : WellFormed changed := faithful.bus_formed _ List.mem_cons_self
  constructor
  case daemon_known => exact faithful.daemon_known
  case bus_formed =>
    exact fun message member => faithful.bus_formed message (List.mem_cons_of_mem _ member)
  case left_known =>
    intro intake handled
    cases handled
    exact formed.2
  case distinct => exact formed.1
  case agrees =>
    intro ref service listed keeps stored
    change (eraseRemoved manager.services removed).store.get? ref = some service at stored
    rw [eraseRemoved_store] at stored
    have distinct : (paths manager.services).Nodup := faithful.distinct
    have leads := lookup_eraseRemoved distinct removed stored
    obtain ⟨before, same⟩ : ∃ before, before = true ↔ ref ∈ manager.services.refs :=
      ⟨decide (ref ∈ manager.services.refs), decide_eq_true_iff⟩
    rw [← same] at leads
    have coming : Mirror.coming ⟨daemon, rest, manager,
        some ⟨.start (eraseRemoved manager.services removed), changed, true, none⟩⟩ ref =
          if before ∧ service.objPath ∉ removed then entriesFor service.objPath changed
          else [] := by
      change [] ++ (changed.filter fun announced =>
        lookup (eraseRemoved manager.services removed) announced.1 = some ref).flatMap _ = _
      simp only [leads, entriesFor, List.nil_append]
      split
      · rename_i kept
        simp only [kept, not_false_eq_true, and_true]
      · rename_i dropped
        simp [dropped]
    have still : listed = (before &&
        decide (service.objPath ∈ changed.map Prod.fst ∧ service.objPath ∉ removed)) := by
      rw [Bool.eq_iff_iff, keeps, Bool.and_eq_true, decide_eq_true_iff]
      constructor
      · rintro (built | ⟨announced, member, found⟩)
        · cases built
        · obtain ⟨path, here, kept⟩ := (leads _).mp found
          exact ⟨here, List.mem_map.mpr ⟨announced, member, path⟩, kept⟩
      · rintro ⟨here, named, kept⟩
        obtain ⟨announced, member, path⟩ := List.mem_map.mp named
        exact .inr ⟨announced, member, (leads _).mpr ⟨path, here, kept⟩⟩
    have agrees := faithful.agrees ref service before same stored
    rw [coming, still]
    exact agrees

/-- A change that is dispatched is folded into its service. -/
theorem Faithful.dispatchChange {target : Ref} {name : String} {value : GVariant}
    (faithful : Faithful ⟨daemon, .propertyChanged target name value :: rest, manager, none⟩) :
    Faithful ⟨daemon, rest, (manager.handle (.propertyChanged target (name, value))).manager,
      none⟩ := by
  have accepted : known ServProperties (name, value).1 (name, value).2 = true :=
    faithful.bus_formed _ List.mem_cons_self
  constructor
  case daemon_known => exact faithful.daemon_known
  case bus_formed =>
    exact fun message member => faithful.bus_formed message (List.mem_cons_of_mem _ member)
  case left_known => nofun
  case distinct =>
    change (paths (manager.updateService target _).manager.services).Nodup
    rw [paths_updateService manager target fun service => updateProperty_objPath service _]
    exact faithful.distinct
  case agrees =>
    intro ref service listed keeps stored
    change (manager.services.store.perform target fun service => service.updateProperty
      (GVariant.entry (name, value))).state.get? ref = some service at stored
    have whole : ∀ before, manager.services.store.get? ref = some before →
        AgreesWith
          (fold (fold before.props (if target = ref then [(name, value)] else []))
            (pending before.objPath ref (listed && true) rest))
          (daemon.properties before.objPath) := by
      intro before held
      rw [← fold_append]
      exact faithful.agrees ref before listed keeps held
    rw [Bool.and_true] at whole
    by_cases same : target = ref
    · subst same
      obtain ⟨before, held⟩ := manager.services.store.exists_get?
        (by simpa using ObjectStore.lt_size_of_get? _ stored)
      rw [ObjectStore.get?_perform_self _ held, before.updateProperty_of_known accepted,
        Option.some.injEq] at stored
      have agrees := whole before held
      rw [if_pos rfl] at agrees
      rw [← stored]
      exact agrees
    · rw [ObjectStore.get?_perform_of_ne _ _ same] at stored
      have agrees := whole service stored
      rw [if_neg same] at agrees
      exact agrees

end Dispatch

/-! ## Handling an announcement -/

section Handling

variable {daemon : Daemon} {bus : List DaemonMessage} {manager : Manager} {intake : Intake}

theorem Faithful.place {first : Announcement} {rest : List Announcement}
    (faithful : Faithful ⟨daemon, bus, manager, some intake⟩) (idle : intake.target = none)
    (left : intake.left = first :: rest)
    (current : UpToDate ⟨daemon, bus, manager, some intake⟩ .place) :
    Faithful ⟨daemon, bus, manager, some (intake.place first rest)⟩ := by
  constructor
  case daemon_known => exact faithful.daemon_known
  case bus_formed => exact faithful.bus_formed
  case left_known =>
    intro next handled announced member
    cases handled
    rw [Intake.place_left] at member
    exact faithful.left_known intake rfl announced (left ▸ List.mem_cons_of_mem _ member)
  case distinct =>
    change (intake.place first rest).outcome.Nodup
    rw [Intake.outcome_place left]
    exact faithful.distinct
  case agrees =>
    intro ref service listed keeps stored
    change listed = true ↔ (intake.place first rest).Keeps ref at keeps
    change (intake.place first rest).draft.list.store.get? ref = some service at stored
    change AgreesWith (fold service.props ((intake.place first rest).coming ref ++
      pending service.objPath ref listed bus)) _
    rcases Intake.place_inside (ObjectStore.lt_size_of_get? _ stored) with old | ⟨missing, rfl⟩
    · rw [Intake.place_get?_old _ _ _ old] at stored
      rw [Intake.keeps_place_old left old] at keeps
      rw [Intake.coming_place_old idle left old]
      exact faithful.agrees ref service listed keeps stored
    · rw [Intake.place_get?_new _ _ missing, Option.some.injEq] at stored
      subst stored
      rw [Intake.coming_place_new missing, keeps.mpr (Intake.keeps_place_new missing)]
      apply agreesWith_of_covers
      · have known := faithful.left_known intake rfl first (left ▸ List.mem_cons_self)
        rw [knownEntries_append, known, knownEntries_pending faithful.bus_formed]
        rfl
      · exact current intake rfl first rest left missing

theorem Faithful.update {next : Intake}
    (faithful : Faithful ⟨daemon, bus, manager, some intake⟩)
    (updated : intake.update? = some next) :
    Faithful ⟨daemon, bus, manager, some next⟩ := by
  obtain ⟨done, left, built, leads, folded⟩ := Intake.update?_spec updated
  have coming : ∀ ref, intake.coming ref = intake.waiting ref ++ next.coming ref := by
    intro ref
    unfold Intake.coming
    rw [left]
    simp only [leads, Intake.waiting, done, Option.elim_none, List.nil_append]
  have kept : ∀ ref, next.Keeps ref ↔ intake.Keeps ref := by
    intro ref
    unfold Intake.Keeps
    rw [left, built]
    simp only [leads]
  constructor
  case daemon_known => exact faithful.daemon_known
  case bus_formed => exact faithful.bus_formed
  case left_known =>
    intro other handled announced member
    cases handled
    exact faithful.left_known intake rfl announced (left ▸ member)
  case distinct =>
    change next.outcome.Nodup
    rw [Intake.outcome_update updated]
    exact faithful.distinct
  case agrees =>
    intro ref service listed keeps stored
    change next.draft.list.store.get? ref = some service at stored
    rw [folded, Option.map_eq_some_iff] at stored
    obtain ⟨before, held, rfl⟩ := stored
    have agrees := faithful.agrees ref before listed (keeps.trans (kept ref)) held
    change AgreesWith (fold before.props (intake.coming ref ++ _)) _ at agrees
    rw [coming, List.append_assoc, fold_append] at agrees
    exact agrees

theorem Faithful.commit {services : SharedList Service}
    (faithful : Faithful ⟨daemon, bus, manager, some intake⟩)
    (committed : intake.commit? = some services) :
    Faithful ⟨daemon, bus, { manager with services }, none⟩ := by
  obtain ⟨done, left, rfl⟩ := Intake.commit?_eq_some committed
  constructor
  case daemon_known => exact faithful.daemon_known
  case bus_formed => exact faithful.bus_formed
  case left_known => nofun
  case distinct =>
    have distinct : intake.outcome.Nodup := faithful.distinct
    rw [Intake.outcome_commit committed] at distinct
    exact distinct
  case agrees =>
    intro ref service listed keeps stored
    have kept : intake.Keeps ref ↔ ref ∈ intake.draft.built := by
      unfold Intake.Keeps
      rw [left]
      simp
    have agrees := faithful.agrees ref service listed (keeps.trans kept.symm) stored
    change AgreesWith (fold service.props (intake.coming ref ++ _)) _ at agrees
    rw [Intake.coming, Intake.waiting, done, left] at agrees
    exact agrees

end Handling

/-! ## Runs -/

variable {mirror}

theorem Faithful.receive {next : Mirror} (faithful : mirror.Faithful)
    (received : mirrorMachine.step? mirror .receive = some next) : next.Faithful := by
  obtain ⟨idle, message, rest, queued, dispatched⟩ := receive_cases received
  obtain ⟨daemon, bus, manager, intake⟩ := mirror
  cases idle
  cases queued
  cases message with
  | services all =>
      cases dispatched
      exact faithful.startReply
  | servicesChanged changed removed =>
      cases dispatched
      exact faithful.startSignal
  | propertyChanged target name value =>
      rw [dispatchChange_cases dispatched]
      exact faithful.dispatchChange

theorem Faithful.step {next : Mirror} {event : MirrorEvent} (faithful : mirror.Faithful)
    (covered : Covered mirror event) (stepped : mirrorMachine.step? mirror event = some next) :
    next.Faithful := by
  obtain ⟨assumed, current⟩ := covered
  cases event with
  | change path name value =>
      cases stepped
      exact faithful.change path assumed
  | reply all =>
      cases stepped
      exact faithful.reply assumed
  | announce changed removed =>
      cases stepped
      exact faithful.announce assumed removed
  | receive => exact faithful.receive stepped
  | place =>
      obtain ⟨intake, first, rest, here, idle, left, rfl⟩ := place_cases stepped
      obtain ⟨daemon, bus, manager, _⟩ := mirror
      cases here
      exact faithful.place idle left current
  | update =>
      obtain ⟨intake, updated, here, advanced, rfl⟩ := update_cases stepped
      obtain ⟨daemon, bus, manager, _⟩ := mirror
      cases here
      exact faithful.update advanced
  | commit =>
      obtain ⟨intake, services, here, committed, rfl⟩ := commit_cases stepped
      obtain ⟨daemon, bus, manager, _⟩ := mirror
      cases here
      exact faithful.commit committed

theorem faithful_start (noop : CallbackId) {properties : String → List (String × GVariant)}
    (known : ∀ path, knownEntries ServProperties (properties path) = true) :
    (start noop properties).Faithful where
  daemon_known := known
  bus_formed := nofun
  left_known := nofun
  distinct := List.nodup_nil
  agrees ref service _ _ stored := by
    have outside : (start noop properties).store.get? ref = none := rfl
    rw [outside] at stored
    cases stored

/-- When every service is subscribed before its announcement gets out of date, its
properties are the daemon's whenever nothing is in flight. -/
theorem services_converge {noop : CallbackId} {properties : String → List (String × GVariant)}
    (known : ∀ path, knownEntries ServProperties (properties path) = true)
    {events : List MirrorEvent}
    (run : mirrorMachine.Run Covered (start noop properties) events mirror)
    (settled : mirror.Settled) : mirror.Converged := by
  have faithful : mirror.Faithful :=
    run.invariant (fun _ _ _ faithful covered stepped => faithful.step covered stepped)
      (faithful_start noop known)
  obtain ⟨daemon, bus, manager, intake⟩ := mirror
  obtain ⟨idle, empty⟩ := settled
  cases idle
  cases empty
  intro ref service stored
  exact faithful.agrees ref service (decide (ref ∈ manager.services.refs)) decide_eq_true_iff stored

/-! ## What is listed -/

/-- The paths that are listed once the queue is handled. -/
def expected (mirror : Mirror) : List String :=
  mirror.bus.foldl (fun listed message => message.listing listed) mirror.outcome

/-- The list the client is led to is always the one the daemon announced last. -/
theorem expected_step {next : Mirror} {event : MirrorEvent}
    (stepped : mirrorMachine.step? mirror event = some next)
    (same : mirror.expected = mirror.daemon.announced) :
    next.expected = next.daemon.announced := by
  obtain ⟨daemon, bus, manager, intake⟩ := mirror
  cases event with
  | change path name value =>
      cases stepped
      unfold expected
      rw [List.foldl_append, DaemonMessage.foldl_listing_change]
      exact same
  | reply all =>
      cases stepped
      unfold expected
      rw [List.foldl_append]
      change (all.map daemon.listing).map Prod.fst = all
      rw [List.map_map]
      exact List.map_id all
  | announce changed removed =>
      cases stepped
      unfold expected
      rw [List.foldl_append]
      change (changed.map (daemon.announcement removed)).map Prod.fst = changed.map Prod.fst
      rw [List.map_map]
      rfl
  | receive =>
      obtain ⟨idle, message, rest, queued, dispatched⟩ := receive_cases stepped
      cases idle
      cases queued
      cases message with
      | services all =>
          cases dispatched
          exact same
      | servicesChanged changed removed =>
          cases dispatched
          exact same
      | propertyChanged target name value =>
          have kept := paths_updateService manager target fun service =>
            updateProperty_objPath service (.tuple [.string name, .variant value])
          rw [dispatchChange_cases dispatched]
          change rest.foldl _ (paths (manager.updateService target _).manager.services) = _
          rw [kept]
          exact same
  | place =>
      obtain ⟨current, first, rest, here, -, left, rfl⟩ := place_cases stepped
      cases here
      change bus.foldl _ (current.place first rest).outcome = _
      rw [Intake.outcome_place left]
      exact same
  | update =>
      obtain ⟨current, updated, here, advanced, rfl⟩ := update_cases stepped
      cases here
      change bus.foldl _ updated.outcome = _
      rw [Intake.outcome_update advanced]
      exact same
  | commit =>
      obtain ⟨current, services, here, committed, rfl⟩ := commit_cases stepped
      cases here
      change bus.foldl _ (paths services) = _
      rw [← Intake.outcome_commit committed]
      exact same

theorem run_expected {noop : CallbackId} {properties : String → List (String × GVariant)}
    {events : List MirrorEvent}
    (run : mirrorMachine.Run Machine.anyStep (start noop properties) events mirror) :
    mirror.expected = mirror.daemon.announced := by
  induction run with
  | refl => rfl
  | tail _ _ stepped same => exact expected_step stepped same

/-- Whenever nothing is in flight the list holds the services announced last. -/
theorem settled_lists_announced {noop : CallbackId}
    {properties : String → List (String × GVariant)} {events : List MirrorEvent}
    (run : mirrorMachine.Run Machine.anyStep (start noop properties) events mirror)
    (settled : mirror.Settled) : paths mirror.manager.services = mirror.daemon.announced := by
  have same := run_expected run
  obtain ⟨daemon, bus, manager, intake⟩ := mirror
  obtain ⟨idle, empty⟩ := settled
  cases idle
  cases empty
  exact same

/-! ## A change on either side of the subscription -/

/-- One service with a name. -/
def named (path : String) : List (String × GVariant) :=
  if path = "/wifi" then [("Name", .string "Home")] else []

theorem named_known (path : String) : knownEntries ServProperties (named path) = true := by
  unfold named
  split <;> rfl

/-- An announcement that still says what the daemon holds is not out of date. -/
theorem upToDate_of_unchanged (empty : mirror.bus = [])
    (unchanged : ∀ intake, mirror.intake = some intake → ∀ first rest,
      intake.left = first :: rest → mirror.daemon.properties first.1 = first.2) :
    UpToDate mirror .place := by
  intro intake handled first rest left _ name _ value current
  rw [empty, pending, List.append_nil, ← unchanged intake handled first rest left]
  exact current

/-- A name that changes after the service is subscribed reaches it. -/
theorem later_change_converges :
    ∃ mirror, mirrorMachine.Run Covered (start 0 named)
        [.announce [("/wifi", [])] [], .receive, .place,
          .change "/wifi" "Name" (.string "Office"), .update, .commit, .receive] mirror ∧
      mirror.Settled ∧ mirror.Converged := by
  have announced : mirrorMachine.Run Covered (start 0 named) [.announce [("/wifi", [])] []] _ :=
    .single ⟨by decide, trivial⟩ rfl
  have received := announced.tail (show Covered _ .receive from ⟨trivial, trivial⟩) rfl
  have placed := received.tail
    (show Covered _ .place from ⟨trivial, upToDate_of_unchanged rfl (by
      rintro intake ⟨⟩ first rest ⟨⟩
      rfl)⟩) rfl
  have changed := placed.tail
    (show Covered _ (.change "/wifi" "Name" (.string "Office")) from ⟨by decide, trivial⟩) rfl
  have updated := changed.tail (show Covered _ .update from ⟨trivial, trivial⟩) rfl
  have committed := updated.tail (show Covered _ .commit from ⟨trivial, trivial⟩) rfl
  have finished := committed.tail (show Covered _ .receive from ⟨trivial, trivial⟩) rfl
  exact ⟨_, finished, ⟨rfl, rfl⟩, services_converge named_known finished ⟨rfl, rfl⟩⟩

/-- A name that changes after the announcement and before the service is subscribed
is lost: no handled message carries it, and nothing asks for it. -/
theorem earlier_change_lost :
    ¬ ∀ (noop : CallbackId) (properties : String → List (String × GVariant)),
      (∀ path, knownEntries ServProperties (properties path) = true) →
        ∀ (events : List MirrorEvent) (mirror : Mirror),
          mirrorMachine.Run Assumed (start noop properties) events mirror →
            mirror.Settled → mirror.Converged := by
  intro claim
  have run : mirrorMachine.Run Assumed (start 0 named)
      [.announce [("/wifi", [])] [], .change "/wifi" "Name" (.string "Office"), .receive, .place,
        .update, .commit] _ := Machine.Run.of_exec rfl
  have agrees := claim 0 named named_known _ _ run ⟨rfl, rfl⟩ 0 _ rfl
  have read : "Office" = "Home" :=
    Except.ok.inj (agrees ServSlot.name "Name" (.string "Office") rfl rfl)
  exact absurd read (by decide)

end Mirror

end GConnman.Connman
