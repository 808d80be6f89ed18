import GConnman.Connman.ServiceOrder

/-!
# Input requests

The handler of RequestInput: the parser of the fields dictionary, the
classification of the request by seven flags, and the reply that each kind of
request gets.  The flags only depend on which fields are offered, whether a
passphrase is mandatory and whether it is to answer a challenge.
-/

namespace GConnman.Connman

open GConnman.GLib GConnman.DBus GConnman.Foundation

/-- A parsed field.  A missing attribute, and one that is not a string, is null. -/
structure FieldDescription where
  fieldName : String
  type : Option String := none
  requirement : Option String := none
  deriving DecidableEq, Repr

/-- The inner loop of `parse_fields`; it ends at the first child that is no entry. -/
def readAttributes (desc : FieldDescription) : List GVariant → FieldDescription
  | [] => desc
  | prop :: rest =>
      match prop.asEntry with
      | none => desc
      | some (propName, propValue) =>
          if propName = "Type" then
            readAttributes { desc with type := propValue.getString } rest
          else if propName = "Requirement" then
            readAttributes { desc with requirement := propValue.getString } rest
          else readAttributes desc rest

/-- `parse_fields`. -/
def parseFields (fields : GVariant) : List FieldDescription :=
  fields.children.filterMap fun field =>
    field.asEntry.map fun entry => readAttributes { fieldName := entry.1 } entry.2.children

/-- The flags `classify_input` collects. -/
structure InputFlags where
  hasPassphrase : Bool := false
  hasWps : Bool := false
  hasName : Bool := false
  hasIdentity : Bool := false
  hasUsername : Bool := false
  hasPassword : Bool := false
  hasChallenge : Bool := false
  deriving DecidableEq, Repr

/-- One iteration of the loop of `classify_input`. -/
def noteField (flags : InputFlags) (desc : FieldDescription) : InputFlags where
  hasPassphrase := flags.hasPassphrase ||
    (desc.fieldName = "Passphrase" && desc.requirement = some "mandatory")
  hasWps := flags.hasWps || desc.fieldName = "WPS"
  hasName := flags.hasName || desc.fieldName = "Name"
  hasIdentity := flags.hasIdentity || desc.fieldName = "Identity"
  hasUsername := flags.hasUsername || desc.fieldName = "Username"
  hasPassword := flags.hasPassword || desc.fieldName = "Password"
  hasChallenge := flags.hasChallenge ||
    (desc.fieldName = "Passphrase" && desc.type = some "response")

inductive InputType where
  | inputUnknown
  | inputWpA2Passphrase
  | inputWpA2PassphraseWpsAlternative
  | inputHiddenNetworkName
  | inputWpaEnterprise
  | inputWispr
  | inputChallengeResponse
  deriving DecidableEq, Repr

/-- The cascade at the end of `classify_input`. -/
def InputFlags.inputType (flags : InputFlags) : InputType :=
  if flags.hasPassphrase && !flags.hasWps && !flags.hasIdentity then .inputWpA2Passphrase
  else if flags.hasPassphrase && flags.hasWps then .inputWpA2PassphraseWpsAlternative
  else if flags.hasName then .inputHiddenNetworkName
  else if flags.hasIdentity && flags.hasChallenge then .inputChallengeResponse
  else if flags.hasIdentity && flags.hasPassphrase then .inputWpaEnterprise
  else if flags.hasUsername && flags.hasPassword then .inputWispr
  else .inputUnknown

/-- When the cascade ends in which kind. -/
theorem InputFlags.inputType_cases (flags : InputFlags) :
    (flags.inputType = .inputWpA2Passphrase ∧ flags.hasPassphrase = true ∧
      flags.hasWps = false ∧ flags.hasIdentity = false) ∨
    (flags.inputType = .inputWpA2PassphraseWpsAlternative ∧ flags.hasPassphrase = true ∧
      flags.hasWps = true) ∨
    (flags.inputType = .inputHiddenNetworkName ∧ flags.hasName = true ∧
      (flags.hasPassphrase = false ∨ flags.hasWps = false ∧ flags.hasIdentity = true)) ∨
    (flags.inputType = .inputChallengeResponse ∧ flags.hasName = false ∧
      flags.hasIdentity = true ∧ flags.hasChallenge = true ∧
      (flags.hasPassphrase = false ∨ flags.hasWps = false)) ∨
    (flags.inputType = .inputWpaEnterprise ∧ flags.hasName = false ∧ flags.hasIdentity = true ∧
      flags.hasChallenge = false ∧ flags.hasPassphrase = true ∧ flags.hasWps = false) ∨
    (flags.inputType = .inputWispr ∧ flags.hasName = false ∧ flags.hasPassphrase = false ∧
      (flags.hasIdentity = false ∨ flags.hasChallenge = false) ∧ flags.hasUsername = true ∧
      flags.hasPassword = true) ∨
    (flags.inputType = .inputUnknown ∧ flags.hasName = false ∧ flags.hasPassphrase = false ∧
      (flags.hasIdentity = false ∨ flags.hasChallenge = false) ∧
      (flags.hasUsername = false ∨ flags.hasPassword = false)) := by
  obtain ⟨passphrase, wps, name, identity, username, password, challenge⟩ := flags
  revert passphrase wps name identity username password challenge
  decide

/-- When the cascade ends in the kind that asks for a network's name. -/
theorem InputFlags.inputType_eq_hiddenNetworkName (flags : InputFlags) :
    flags.inputType = .inputHiddenNetworkName ↔
      (flags.hasName &&
        !(flags.hasPassphrase && (flags.hasWps || !flags.hasIdentity))) = true := by
  obtain ⟨passphrase, wps, name, identity, username, password, challenge⟩ := flags
  revert passphrase wps name identity username password challenge
  decide

/-- When the cascade ends in a kind that asks for an identity. -/
theorem InputFlags.inputType_eq_enterprise (flags : InputFlags) :
    flags.inputType = .inputChallengeResponse ∨ flags.inputType = .inputWpaEnterprise ↔
      (flags.hasIdentity && !flags.hasName && !(flags.hasPassphrase && flags.hasWps) &&
        (flags.hasPassphrase || flags.hasChallenge)) = true := by
  obtain ⟨passphrase, wps, name, identity, username, password, challenge⟩ := flags
  revert passphrase wps name identity username password challenge
  decide

/-- `classify_input`. -/
def classifyInput (fields : List FieldDescription) : InputType :=
  (fields.foldl noteField {}).inputType

/-- The `Identity` entry and the second entry of an enterprise reply. -/
def enterpriseReply (identityPassword : String × (Bool × String)) : List (String × GVariant) :=
  [("Identity", .newString identityPassword.1),
    if identityPassword.2.1 then ("Passphrase", .newString identityPassword.2.2)
    else ("WPS", .newBytes identityPassword.2.2)]

/-- The entries the handler adds to the reply for a kind of request. -/
def replyEntries (callbacks : RequestInputCallbacks) (foundService : Ref) :
    InputType → List (String × GVariant)
  | .inputWpA2Passphrase =>
      match callbacks.passphrase with
      | none => []
      | some callback => [("Passphrase", .newString (callback foundService).2)]
  | .inputWpA2PassphraseWpsAlternative =>
      match callbacks.passphrase with
      | none => []
      | some callback =>
          [(if (callback foundService).1 then "Passphrase" else "WPS",
            .newString (callback foundService).2)]
  | .inputHiddenNetworkName =>
      match callbacks.hiddenNetworkName with
      | none => []
      | some callback =>
          [if (callback foundService).1 then ("Name", .newString (callback foundService).2)
            else ("SSID", .newBytes (callback foundService).2)]
  | .inputChallengeResponse =>
      match callbacks.wpaEnterprise with
      | none => []
      | some callback => enterpriseReply (callback foundService)
  | .inputWpaEnterprise =>
      match callbacks.wpaEnterprise with
      | none => []
      | some callback => enterpriseReply (callback foundService)
  | .inputWispr =>
      match callbacks.wisprEnabled with
      | none => []
      | some callback =>
          [("Username", .newString (callback foundService).1),
            ("Password", .newString (callback foundService).2)]
  | .inputUnknown => []

/-- The request-input handler `setup_agent` installs.  A path that is not listed
gets the empty dictionary. -/
def Manager.requestInput (manager : Manager) (servicePath : String) (fields : GVariant) :
    GVariant :=
  match lookup manager.services servicePath with
  | none => .dictionary []
  | some foundService =>
      .dictionary (replyEntries manager.requestInputCb foundService
        (classifyInput (parseFields fields)))

/-! ## What a request asks for -/

/-- The leading entries of an attribute dictionary. -/
def attributes : List GVariant → List (String × GVariant)
  | [] => []
  | prop :: rest =>
      match prop.asEntry with
      | none => []
      | some entry => entry :: attributes rest

/-- The value of the last attribute of a name, if it is a string. -/
def lastString (name : String) (held : Option String) (entries : List (String × GVariant)) :
    Option String :=
  entries.foldl (fun held entry => if entry.1 = name then entry.2.getString else held) held

/-- An attribute of a field. -/
def attributeOf (field : String × GVariant) (name : String) : Option String :=
  lastString name none (attributes field.2.children)

/-- The request has a field of this name. -/
def offers (fields : List (String × GVariant)) (name : String) : Bool :=
  fields.any fun field => field.1 = name

/-- The request has a mandatory field of this name. -/
def demands (fields : List (String × GVariant)) (name : String) : Bool :=
  fields.any fun field =>
    field.1 = name && attributeOf field "Requirement" = some "mandatory"

/-- The request wants the response to a challenge. -/
def challenges (fields : List (String × GVariant)) : Bool :=
  fields.any fun field => field.1 = "Passphrase" && attributeOf field "Type" = some "response"

theorem offers_of_demands {fields : List (String × GVariant)} {name : String}
    (demanded : demands fields name = true) : offers fields name = true := by
  obtain ⟨field, member, both⟩ := List.any_eq_true.mp demanded
  exact List.any_eq_true.mpr ⟨field, member, (Bool.and_eq_true_iff.mp both).1⟩

theorem offers_of_challenges {fields : List (String × GVariant)}
    (challenged : challenges fields = true) : offers fields "Passphrase" = true := by
  obtain ⟨field, member, both⟩ := List.any_eq_true.mp challenged
  exact List.any_eq_true.mpr ⟨field, member, (Bool.and_eq_true_iff.mp both).1⟩

theorem offers_iff {fields : List (String × GVariant)} {name : String} :
    offers fields name = true ↔ name ∈ fields.map Prod.fst := by
  simp [offers, List.any_eq_true]

/-! ## The flags of a request -/

theorem readAttributes_eq (desc : FieldDescription) (inner : List GVariant) :
    readAttributes desc inner =
      { desc with
        type := lastString "Type" desc.type (attributes inner)
        requirement := lastString "Requirement" desc.requirement (attributes inner) } := by
  induction inner generalizing desc with
  | nil => rfl
  | cons prop rest ih =>
      rw [readAttributes, attributes]
      cases decoded : prop.asEntry with
      | none => rfl
      | some entry =>
          obtain ⟨propName, propValue⟩ := entry
          by_cases isType : propName = "Type"
          · subst isType
            simp [ih, lastString]
          · by_cases isRequirement : propName = "Requirement"
            · subst isRequirement
              simp [ih, lastString]
            · simp [ih, lastString, isType, isRequirement]

/-- What the parser makes of a field. -/
def describe (field : String × GVariant) : FieldDescription where
  fieldName := field.1
  type := attributeOf field "Type"
  requirement := attributeOf field "Requirement"

theorem parseFields_dictionary (fields : List (String × GVariant)) :
    parseFields (.dictionary fields) = fields.map describe := by
  unfold parseFields
  rw [GVariant.children_dictionary, List.filterMap_map, ← List.filterMap_eq_map]
  apply List.filterMap_congr
  intro field _
  simp only [Function.comp_apply, GVariant.asEntry_entry, Option.map_some, readAttributes_eq]
  rfl

/-- The flags of a request. -/
def requestFlags (fields : List (String × GVariant)) : InputFlags where
  hasPassphrase := demands fields "Passphrase"
  hasWps := offers fields "WPS"
  hasName := offers fields "Name"
  hasIdentity := offers fields "Identity"
  hasUsername := offers fields "Username"
  hasPassword := offers fields "Password"
  hasChallenge := challenges fields

theorem foldl_noteField (flags : InputFlags) (fields : List (String × GVariant)) :
    (fields.map describe).foldl noteField flags =
      { hasPassphrase := flags.hasPassphrase || demands fields "Passphrase"
        hasWps := flags.hasWps || offers fields "WPS"
        hasName := flags.hasName || offers fields "Name"
        hasIdentity := flags.hasIdentity || offers fields "Identity"
        hasUsername := flags.hasUsername || offers fields "Username"
        hasPassword := flags.hasPassword || offers fields "Password"
        hasChallenge := flags.hasChallenge || challenges fields } := by
  induction fields generalizing flags with
  | nil => simp [demands, offers, challenges]
  | cons field rest ih =>
      rw [List.map_cons, List.foldl_cons, ih]
      simp only [noteField, demands, offers, challenges, List.any_cons, Bool.or_assoc]
      rfl

/-- The kind of a request is decided by its flags. -/
theorem classifyInput_dictionary (fields : List (String × GVariant)) :
    classifyInput (parseFields (.dictionary fields)) = (requestFlags fields).inputType := by
  unfold classifyInput
  rw [parseFields_dictionary, foldl_noteField]
  simp [requestFlags]

end GConnman.Connman
