import GConnman.Connman.InputRequest
import GConnman.Connman.ServiceList

/-!
# Replies to input requests

Which mandatory fields a reply answers, and which of its entries the request has
asked for.  A kind of request has a fixed set of fields it can supply, so a
request whose mandatory fields mix the shapes is left partly unanswered; and two
of the kinds may send an alternative the request does not offer.
-/

namespace GConnman.Connman

open GConnman.GLib GConnman.DBus GConnman.Foundation

/-- The entries of a dictionary value. -/
def entriesOf (value : GVariant) : List (String × GVariant) :=
  value.children.filterMap GVariant.asEntry

@[simp] theorem entriesOf_dictionary (entries : List (String × GVariant)) :
    entriesOf (.dictionary entries) = entries := by
  unfold entriesOf
  rw [GVariant.children_dictionary, List.filterMap_map]
  exact List.filterMap_some

theorem requestInput_of_listed {manager : Manager} {servicePath : String} {service : Ref}
    (listed : lookup manager.services servicePath = some service)
    (fields : List (String × GVariant)) :
    manager.requestInput servicePath (.dictionary fields) =
      .dictionary (replyEntries manager.requestInputCb service
        (requestFlags fields).inputType) := by
  unfold Manager.requestInput
  rw [listed, classifyInput_dictionary]

/-! ## Mandatory fields -/

/-- The fields the handler knows how to supply. -/
def suppliedNames : List String := ["Name", "Passphrase", "Identity", "Username", "Password"]

/-- The fields that may be sent in place of another one. -/
def alternates : List (String × String) := [("Passphrase", "WPS"), ("Name", "SSID")]

/-- The reply has the field or an alternate of it. -/
def Answers (reply : GVariant) (name : String) : Prop :=
  ∃ entry ∈ entriesOf reply, entry.1 = name ∨ (name, entry.1) ∈ alternates

/-- All four request-input callbacks are installed. -/
def RequestInputCallbacks.AllInstalled (callbacks : RequestInputCallbacks) : Prop :=
  callbacks.passphrase.isSome ∧ callbacks.hiddenNetworkName.isSome ∧
    callbacks.wpaEnterprise.isSome ∧ callbacks.wisprEnabled.isSome

/-- The fields a kind of request gets answered. -/
def InputType.answered : InputType → List String
  | .inputUnknown => []
  | .inputWpA2Passphrase => ["Passphrase"]
  | .inputWpA2PassphraseWpsAlternative => ["Passphrase"]
  | .inputHiddenNetworkName => ["Name"]
  | .inputWpaEnterprise => ["Identity", "Passphrase"]
  | .inputWispr => ["Username", "Password"]
  | .inputChallengeResponse => ["Identity", "Passphrase"]

/-- The mandatory fields of the request are exactly these. -/
def DemandsExactly (fields : List (String × GVariant)) (names : List String) : Prop :=
  ∀ name, demands fields name = true ↔ name ∈ names

/-- The shapes of requests that are answered in full. -/
def Answerable (fields : List (String × GVariant)) : Prop :=
  DemandsExactly fields [] ∨
  (DemandsExactly fields ["Passphrase"] ∧
    (offers fields "WPS" = true ∨ offers fields "Identity" = false ∨
      offers fields "Name" = false)) ∨
  DemandsExactly fields ["Name"] ∨
  (DemandsExactly fields ["Identity"] ∧ challenges fields = true ∧
    offers fields "Name" = false) ∨
  (DemandsExactly fields ["Identity", "Passphrase"] ∧ offers fields "WPS" = false ∧
    offers fields "Name" = false) ∨
  ((DemandsExactly fields ["Username"] ∨ DemandsExactly fields ["Password"] ∨
      DemandsExactly fields ["Username", "Password"]) ∧
    offers fields "Username" = true ∧ offers fields "Password" = true ∧
    offers fields "Name" = false ∧
    (offers fields "Identity" = false ∨ challenges fields = false))

theorem answers_iff {callbacks : RequestInputCallbacks} (installed : callbacks.AllInstalled)
    (service : Ref) (kind : InputType) {name : String} (supplied : name ∈ suppliedNames) :
    Answers (.dictionary (replyEntries callbacks service kind)) name ↔ name ∈ kind.answered := by
  obtain ⟨passphrase, hiddenNetworkName, wpaEnterprise, wisprEnabled⟩ := callbacks
  obtain ⟨passphraseSome, hiddenSome, enterpriseSome, wisprSome⟩ := installed
  obtain ⟨askPassphrase, rfl⟩ := Option.isSome_iff_exists.mp passphraseSome
  obtain ⟨askName, rfl⟩ := Option.isSome_iff_exists.mp hiddenSome
  obtain ⟨askIdentity, rfl⟩ := Option.isSome_iff_exists.mp enterpriseSome
  obtain ⟨askUsername, rfl⟩ := Option.isSome_iff_exists.mp wisprSome
  unfold Answers
  rw [entriesOf_dictionary]
  simp only [suppliedNames, List.mem_cons, List.not_mem_nil, or_false] at supplied
  cases kind with
  | inputUnknown => simp [replyEntries, InputType.answered]
  | inputWpA2Passphrase =>
      simp only [replyEntries, InputType.answered]
      rcases supplied with rfl | rfl | rfl | rfl | rfl <;> simp [alternates]
  | inputWpA2PassphraseWpsAlternative =>
      simp only [replyEntries, InputType.answered]
      cases (askPassphrase service).1 <;>
        rcases supplied with rfl | rfl | rfl | rfl | rfl <;> simp [alternates]
  | inputHiddenNetworkName =>
      simp only [replyEntries, InputType.answered]
      cases (askName service).1 <;>
        rcases supplied with rfl | rfl | rfl | rfl | rfl <;> simp [alternates]
  | inputWispr =>
      simp only [replyEntries, InputType.answered]
      rcases supplied with rfl | rfl | rfl | rfl | rfl <;> simp [alternates]
  | inputWpaEnterprise | inputChallengeResponse =>
      simp only [replyEntries, InputType.answered, enterpriseReply]
      cases (askIdentity service).2.1 <;>
        rcases supplied with rfl | rfl | rfl | rfl | rfl <;> simp [alternates]

/-- With mandatory fields among the five names, a list of them is matched name by name. -/
theorem demandsExactly_iff {fields : List (String × GVariant)}
    (supported : ∀ name, demands fields name = true → name ∈ suppliedNames) {names : List String}
    (known : ∀ name ∈ names, name ∈ suppliedNames) :
    DemandsExactly fields names ↔
      ∀ name ∈ suppliedNames, (demands fields name = true ↔ name ∈ names) := by
  constructor
  · exact fun exactly name _ => exactly name
  · intro exactly name
    constructor
    · exact fun demanded => (exactly name (supported name demanded)).mp demanded
    · exact fun member => (exactly name (known name member)).mpr member

/-- The kind of a request answers its mandatory fields exactly in the answerable
shapes. -/
theorem answered_iff {fields : List (String × GVariant)}
    (supported : ∀ name, demands fields name = true → name ∈ suppliedNames) :
    (∀ name, demands fields name = true → name ∈ (requestFlags fields).inputType.answered) ↔
      Answerable fields := by
  have within : (∀ name, demands fields name = true →
      name ∈ (requestFlags fields).inputType.answered) ↔
        ∀ name ∈ suppliedNames, demands fields name = true →
          name ∈ (requestFlags fields).inputType.answered :=
    ⟨fun all name _ => all name,
      fun all name demanded => all name (supported name demanded) demanded⟩
  have name := @offers_of_demands fields "Name"
  have identity := @offers_of_demands fields "Identity"
  have username := @offers_of_demands fields "Username"
  have password := @offers_of_demands fields "Password"
  rw [within]
  unfold Answerable
  rw [demandsExactly_iff supported (by decide), demandsExactly_iff supported (by decide),
    demandsExactly_iff supported (by decide), demandsExactly_iff supported (by decide),
    demandsExactly_iff supported (by decide), demandsExactly_iff supported (by decide),
    demandsExactly_iff supported (by decide), demandsExactly_iff supported (by decide)]
  clear within supported
  -- In each kind the flags leave a propositional question about the five demands.
  simp only [suppliedNames, List.forall_mem_cons]
  rcases (requestFlags fields).inputType_cases with ⟨kind, facts⟩ | ⟨kind, facts⟩ | ⟨kind, facts⟩ |
    ⟨kind, facts⟩ | ⟨kind, facts⟩ | ⟨kind, facts⟩ | ⟨kind, facts⟩ <;>
  rw [kind] <;> simp only [requestFlags, InputType.answered] at facts ⊢ <;> grind

/-- Every mandatory field of a request is answered exactly when the request has
one of the answerable shapes. -/
theorem mandatory_fields_answered_iff {manager : Manager} {servicePath : String} {service : Ref}
    (listed : lookup manager.services servicePath = some service)
    (installed : manager.requestInputCb.AllInstalled) {fields : List (String × GVariant)}
    (supported : ∀ name, demands fields name = true → name ∈ suppliedNames) :
    (∀ name, demands fields name = true →
        Answers (manager.requestInput servicePath (.dictionary fields)) name) ↔
      Answerable fields := by
  rw [requestInput_of_listed listed, ← answered_iff supported]
  exact forall_congr' fun name => forall_congr' fun demanded =>
    answers_iff installed service _ (supported name demanded)

/-- A manager with one listed service and callbacks that offer the primary field. -/
def Manager.answering : Manager :=
  { (Manager.constructed 0) with
    services := ⟨⟨[Service.new "/wifi"]⟩, [0], by decide⟩
    requestInputCb :=
      { passphrase := some fun _ => (true, "secret")
        hiddenNetworkName := some fun _ => (true, "Home")
        wpaEnterprise := some fun _ => ("me", true, "secret")
        wisprEnabled := some fun _ => ("me", "secret") } }

/-- A field with a requirement. -/
def fieldWith (name requirement : String) : String × GVariant :=
  (name, .dictionary [("Type", .string "string"), ("Requirement", .string requirement)])

/-- A lone mandatory passphrase is answered. -/
theorem passphrase_answered :
    Answers (Manager.answering.requestInput "/wifi"
      (.dictionary [fieldWith "Passphrase" "mandatory"])) "Passphrase" := by
  have listed : lookup Manager.answering.services "/wifi" = some 0 := by decide
  have demanded : ∀ name, demands [fieldWith "Passphrase" "mandatory"] name = true →
      name ∈ ["Passphrase"] := fun name isDemanded => offers_iff.mp (offers_of_demands isDemanded)
  have only : DemandsExactly [fieldWith "Passphrase" "mandatory"] ["Passphrase"] := by
    refine fun name => ⟨demanded name, fun member => ?_⟩
    rw [List.mem_singleton.mp member]
    decide
  refine (mandatory_fields_answered_iff listed ⟨rfl, rfl, rfl, rfl⟩ ?_).mpr ?_ "Passphrase"
    (by decide)
  · intro name isDemanded
    rw [List.mem_singleton.mp (demanded name isDemanded)]
    decide
  · exact .inr (.inl ⟨only, .inr (.inl (by decide))⟩)

/-- A hidden network with a mandatory name and a mandatory passphrase only gets
the passphrase. -/
theorem hidden_name_unanswered :
    ¬ ∀ (manager : Manager) (servicePath : String) (service : Ref)
      (fields : List (String × GVariant)),
      lookup manager.services servicePath = some service →
        manager.requestInputCb.AllInstalled →
          (∀ name, demands fields name = true → name ∈ suppliedNames) →
            ∀ name, demands fields name = true →
              Answers (manager.requestInput servicePath (.dictionary fields)) name := by
  intro claim
  have listed : lookup Manager.answering.services "/wifi" = some 0 := by decide
  have supported : ∀ name,
      demands [fieldWith "Name" "mandatory", fieldWith "Passphrase" "mandatory"] name = true →
        name ∈ suppliedNames := by
    intro name isDemanded
    have member : name ∈ ["Name", "Passphrase"] := offers_iff.mp (offers_of_demands isDemanded)
    exact List.mem_append_left ["Identity", "Username", "Password"] member
  obtain ⟨entry, member, same⟩ := claim Manager.answering "/wifi" 0 _ listed ⟨rfl, rfl, rfl, rfl⟩
    supported "Name" (by decide)
  have reply : entriesOf (Manager.answering.requestInput "/wifi" (.dictionary
      [fieldWith "Name" "mandatory", fieldWith "Passphrase" "mandatory"])) =
        [("Passphrase", .newString "secret")] := rfl
  rw [reply, List.mem_singleton] at member
  subst member
  revert same
  decide

/-! ## Well-formed replies -/

/-- The type of the value a key stands for. -/
def keyType (key : String) : GVariantType := if key = "SSID" then .bytes else .string

/-- The reply only has fields of the request, each once and with the type of its key. -/
structure WellFormedReply (fields : List (String × GVariant)) (reply : GVariant) : Prop where
  offered : ∀ entry ∈ entriesOf reply, offers fields entry.1 = true
  distinct : ((entriesOf reply).map Prod.fst).Nodup
  typed : ∀ entry ∈ entriesOf reply, entry.2.typeOf = keyType entry.1

/-- The request is taken for one of a hidden network's name. -/
def asksName (fields : List (String × GVariant)) : Bool :=
  offers fields "Name" &&
    !(demands fields "Passphrase" && (offers fields "WPS" || !offers fields "Identity"))

/-- The request is taken for one of an identity with a passphrase. -/
def asksIdentity (fields : List (String × GVariant)) : Bool :=
  offers fields "Identity" && !offers fields "Name" &&
    !(demands fields "Passphrase" && offers fields "WPS") &&
      (demands fields "Passphrase" || challenges fields)

theorem wellFormedReply_dictionary (fields entries : List (String × GVariant)) :
    WellFormedReply fields (.dictionary entries) ↔
      (∀ entry ∈ entries, offers fields entry.1 = true ∧ entry.2.typeOf = keyType entry.1) ∧
        (entries.map Prod.fst).Nodup := by
  constructor
  · rintro ⟨offered, distinct, typed⟩
    rw [entriesOf_dictionary] at offered distinct typed
    exact ⟨fun entry member => ⟨offered entry member, typed entry member⟩, distinct⟩
  · rintro ⟨each, distinct⟩
    constructor <;> rw [entriesOf_dictionary]
    · exact fun entry member => (each entry member).1
    · exact distinct
    · exact fun entry member => (each entry member).2

theorem wellFormedReply_nil (fields : List (String × GVariant)) :
    WellFormedReply fields (.dictionary []) :=
  (wellFormedReply_dictionary fields []).mpr ⟨List.forall_mem_nil _, List.nodup_nil⟩

theorem wellFormedReply_singleton (fields : List (String × GVariant))
    (entry : String × GVariant) :
    WellFormedReply fields (.dictionary [entry]) ↔
      offers fields entry.1 = true ∧ entry.2.typeOf = keyType entry.1 := by
  rw [wellFormedReply_dictionary, List.forall_mem_singleton]
  exact and_iff_left (by simp)

theorem wellFormedReply_pair (fields : List (String × GVariant))
    {first second : String × GVariant} (different : first.1 ≠ second.1) :
    WellFormedReply fields (.dictionary [first, second]) ↔
      (offers fields first.1 = true ∧ first.2.typeOf = keyType first.1) ∧
        offers fields second.1 = true ∧ second.2.typeOf = keyType second.1 := by
  rw [wellFormedReply_dictionary, List.forall_mem_cons, List.forall_mem_singleton]
  exact and_iff_left (by simpa using different)

/-- An enterprise reply is well formed when it does not use the alternative. -/
theorem wellFormed_enterpriseReply {fields : List (String × GVariant)}
    (identity : offers fields "Identity" = true) (passphrase : offers fields "Passphrase" = true)
    (identityPassword : String × (Bool × String)) :
    WellFormedReply fields (.dictionary (enterpriseReply identityPassword)) ↔
      identityPassword.2.1 = true := by
  obtain ⟨name, primary, secret⟩ := identityPassword
  cases primary with
  | true =>
      have different : "Identity" ≠ "Passphrase" := by decide
      refine iff_of_true ((wellFormedReply_pair fields ?_).mpr ?_) rfl
      · exact different
      · exact ⟨⟨identity, rfl⟩, passphrase, rfl⟩
  | false =>
      have different : "Identity" ≠ "WPS" := by decide
      refine iff_of_false ?_ Bool.false_ne_true
      intro formed
      have typed := ((wellFormedReply_pair fields different).mp formed).2.2
      cases typed

/-- A reply with a hidden network's name is well formed when it has the name, or
when the request also offers the alternative. -/
theorem wellFormed_hiddenReply {fields : List (String × GVariant)}
    (name : offers fields "Name" = true) (answer : Bool × String) :
    WellFormedReply fields (.dictionary
        [if answer.1 then ("Name", .newString answer.2) else ("SSID", .newBytes answer.2)]) ↔
      (answer.1 = false → offers fields "SSID" = true) := by
  obtain ⟨primary, text⟩ := answer
  rw [wellFormedReply_singleton]
  cases primary with
  | true => exact iff_of_true ⟨name, rfl⟩ fun alternative => nomatch alternative
  | false => exact ⟨fun formed _ => formed.1, fun offered => ⟨offered rfl, rfl⟩⟩

theorem asksName_iff (fields : List (String × GVariant)) :
    asksName fields = true ↔ (requestFlags fields).inputType = .inputHiddenNetworkName :=
  (requestFlags fields).inputType_eq_hiddenNetworkName.symm

theorem asksIdentity_iff (fields : List (String × GVariant)) :
    asksIdentity fields = true ↔
      (requestFlags fields).inputType = .inputChallengeResponse ∨
        (requestFlags fields).inputType = .inputWpaEnterprise :=
  (requestFlags fields).inputType_eq_enterprise.symm

/-- The fields that a kind of request is known to offer. -/
def InputType.offered : InputType → List String
  | .inputUnknown => []
  | .inputWpA2Passphrase => ["Passphrase"]
  | .inputWpA2PassphraseWpsAlternative => ["Passphrase", "WPS"]
  | .inputHiddenNetworkName => ["Name"]
  | .inputWpaEnterprise => ["Identity", "Passphrase"]
  | .inputWispr => ["Username", "Password"]
  | .inputChallengeResponse => ["Identity", "Passphrase"]

theorem offers_of_kind (fields : List (String × GVariant)) :
    ∀ name ∈ (requestFlags fields).inputType.offered, offers fields name = true := by
  have passphrase := @offers_of_demands fields "Passphrase"
  have challenge := @offers_of_challenges fields
  rcases (requestFlags fields).inputType_cases with ⟨kind, facts⟩ | ⟨kind, facts⟩ | ⟨kind, facts⟩ |
    ⟨kind, facts⟩ | ⟨kind, facts⟩ | ⟨kind, facts⟩ | ⟨kind, facts⟩ <;>
  rw [kind] <;> simp only [requestFlags, InputType.offered] at facts ⊢ <;> grind

/-- The reply to each kind of request, as far as the fields it is known to offer go. -/
theorem wellFormed_replyEntries {fields : List (String × GVariant)}
    (callbacks : RequestInputCallbacks) (service : Ref) (kind : InputType)
    (offered : ∀ name ∈ kind.offered, offers fields name = true) :
    WellFormedReply fields (.dictionary (replyEntries callbacks service kind)) ↔
      (kind = .inputHiddenNetworkName →
        ∀ callback, callbacks.hiddenNetworkName = some callback →
          (callback service).1 = false → offers fields "SSID" = true) ∧
      (kind = .inputChallengeResponse ∨ kind = .inputWpaEnterprise →
        ∀ callback, callbacks.wpaEnterprise = some callback →
          (callback service).2.1 = true) := by
  obtain ⟨passphrase, hiddenNetworkName, wpaEnterprise, wisprEnabled⟩ := callbacks
  cases kind with
  | inputUnknown => exact iff_of_true (wellFormedReply_nil fields) (by simp)
  | inputWpA2Passphrase =>
      refine iff_of_true ?_ (by simp)
      cases passphrase with
      | none => exact wellFormedReply_nil fields
      | some callback =>
          exact (wellFormedReply_singleton fields _).mpr ⟨offered "Passphrase" (by decide), rfl⟩
  | inputWpA2PassphraseWpsAlternative =>
      refine iff_of_true ?_ (by simp)
      cases passphrase with
      | none => exact wellFormedReply_nil fields
      | some callback =>
          refine (wellFormedReply_singleton fields _).mpr ?_
          cases (callback service).1 with
          | true => exact ⟨offered "Passphrase" (by decide), rfl⟩
          | false => exact ⟨offered "WPS" (by decide), rfl⟩
  | inputHiddenNetworkName =>
      cases hiddenNetworkName with
      | none => exact iff_of_true (wellFormedReply_nil fields) (by simp)
      | some callback =>
          have name := offered "Name" (by decide)
          simpa [replyEntries] using wellFormed_hiddenReply name (callback service)
  | inputWispr =>
      refine iff_of_true ?_ (by simp)
      cases wisprEnabled with
      | none => exact wellFormedReply_nil fields
      | some callback =>
          have different : "Username" ≠ "Password" := by decide
          exact (wellFormedReply_pair fields different).mpr
            ⟨⟨offered "Username" (by decide), rfl⟩, offered "Password" (by decide), rfl⟩
  | inputWpaEnterprise | inputChallengeResponse =>
      cases wpaEnterprise with
      | none => exact iff_of_true (wellFormedReply_nil fields) (by simp)
      | some callback =>
          have identity := offered "Identity" (by decide)
          have passphrase := offered "Passphrase" (by decide)
          simpa [replyEntries] using
            wellFormed_enterpriseReply identity passphrase (callback service)

/-- A reply is well formed exactly when neither kind with an unguarded alternative
uses it: a request taken for one of a network's name must offer the SSID where the
callback answers with it, and the callback of a request taken for one of an
identity must answer with the passphrase. -/
theorem request_input_reply_wellFormed_iff (manager : Manager) (servicePath : String)
    (fields : List (String × GVariant)) :
    WellFormedReply fields (manager.requestInput servicePath (.dictionary fields)) ↔
      ∀ service, lookup manager.services servicePath = some service →
        (asksName fields = true →
          ∀ callback, manager.requestInputCb.hiddenNetworkName = some callback →
            (callback service).1 = false → offers fields "SSID" = true) ∧
        (asksIdentity fields = true →
          ∀ callback, manager.requestInputCb.wpaEnterprise = some callback →
            (callback service).2.1 = true) := by
  cases listed : lookup manager.services servicePath with
  | none =>
      unfold Manager.requestInput
      rw [listed]
      exact iff_of_true (wellFormedReply_nil fields) fun _ found => nomatch found
  | some service =>
      rw [requestInput_of_listed listed, wellFormed_replyEntries _ _ _ (offers_of_kind fields),
        asksName_iff, asksIdentity_iff]
      simp only [Option.some.injEq, forall_eq']

/-- The alternative of an enterprise reply is a byte array under a key that
otherwise stands for a string, and one the request does not offer. -/
theorem enterprise_alternative_malformed :
    ¬ ∀ (manager : Manager) (servicePath : String) (fields : List (String × GVariant)),
      WellFormedReply fields (manager.requestInput servicePath (.dictionary fields)) := by
  intro claim
  have formed := claim
    { Manager.answering with
      requestInputCb := { wpaEnterprise := some fun _ => ("me", false, "") } }
    "/wifi" [fieldWith "Identity" "mandatory", fieldWith "Passphrase" "mandatory"]
  have offered := formed.offered ("WPS", .newBytes "")
    (List.mem_cons_of_mem _ (List.mem_cons_self ..))
  exact absurd offered (by decide)

end GConnman.Connman
