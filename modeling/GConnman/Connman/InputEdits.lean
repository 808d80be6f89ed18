import Mathlib.Data.List.Nodup
import Mathlib.Logic.Relation
import GConnman.Connman.InputRequest

/-!
# Requests that are classified alike

The fields of a request come in no fixed order, neither do the attributes of a
field, and connman adds fields and attributes the library does not know.  The
edits below change a request in these respects only: every one of them keeps the
seven flags, and so does every chain of edits, taken in either direction.
-/

namespace GConnman.Connman

open GConnman.GLib GConnman.Foundation

/-! ## Edits -/

/-- The field names `classify_input` compares with. -/
def inspectedNames : List String :=
  ["Passphrase", "WPS", "Name", "Identity", "Username", "Password"]

/-- The attribute names `parse_fields` compares with. -/
def inspectedAttributes : List String := ["Type", "Requirement"]

/-- An edit of the attributes of a field of the given name. -/
inductive AttributeEdit (fieldName : String) :
    List (String × GVariant) → List (String × GVariant) → Prop where
  | reorder {entries others : List (String × GVariant)}
      (distinct : (entries.map Prod.fst).Nodup) (same : entries.Perm others) :
      AttributeEdit fieldName entries others
  | add (before after : List (String × GVariant)) (added : String × GVariant)
      (unknown : added.1 ∉ inspectedAttributes) :
      AttributeEdit fieldName (before ++ after) (before ++ added :: after)
  /-- A field that is no passphrase gets an attribute, be it a type or a requirement. -/
  | supply (before after : List (String × GVariant)) (supplied : String × GVariant)
      (other : fieldName ≠ "Passphrase") :
      AttributeEdit fieldName (before ++ after) (before ++ supplied :: after)
  /-- A field that is no passphrase gets another type or another requirement. -/
  | change (before after : List (String × GVariant)) (name : String) (old new : GVariant)
      (other : fieldName ≠ "Passphrase") :
      AttributeEdit fieldName (before ++ (name, old) :: after) (before ++ (name, new) :: after)

/-- An edit of the fields of a request. -/
inductive FieldEdit : List (String × GVariant) → List (String × GVariant) → Prop where
  | reorder {fields others : List (String × GVariant)} (same : fields.Perm others) :
      FieldEdit fields others
  | add (before after : List (String × GVariant)) (added : String × GVariant)
      (unknown : added.1 ∉ inspectedNames) :
      FieldEdit (before ++ after) (before ++ added :: after)
  | attributes (before after : List (String × GVariant)) {name : String}
      {entries others : List (String × GVariant)} (edit : AttributeEdit name entries others) :
      FieldEdit (before ++ (name, .dictionary entries) :: after)
        (before ++ (name, .dictionary others) :: after)

/-! ## What the parser reads of an edited field -/

theorem attributes_entries (entries : List (String × GVariant)) :
    attributes (entries.map GVariant.entry) = entries := by
  induction entries with
  | nil => rfl
  | cons entry rest ih =>
      rw [List.map_cons, attributes, GVariant.asEntry_entry]
      exact congrArg _ ih

theorem attributeOf_dictionary (fieldName name : String) (entries : List (String × GVariant)) :
    attributeOf (fieldName, .dictionary entries) name = lastString name none entries := by
  rw [attributeOf, GVariant.children_dictionary, attributes_entries]

/-- Two attributes of different names can be read in any order. -/
theorem lastString_perm (name : String) (held : Option String)
    {entries others : List (String × GVariant)} (distinct : (entries.map Prod.fst).Nodup)
    (same : entries.Perm others) : lastString name held entries = lastString name held others := by
  apply same.foldl_eq'
  intro first firstIn second secondIn current
  by_cases firstNamed : first.1 = name
  · by_cases secondNamed : second.1 = name
    · have one : first = second :=
        List.inj_on_of_nodup_map distinct firstIn secondIn (firstNamed.trans secondNamed.symm)
      rw [one]
    · simp only [firstNamed, secondNamed, if_true, if_false]
  · simp only [firstNamed, if_false]

theorem lastString_add (name : String) (held : Option String)
    (before after : List (String × GVariant)) {added : String × GVariant}
    (other : added.1 ≠ name) :
    lastString name held (before ++ added :: after) = lastString name held (before ++ after) := by
  simp only [lastString, List.foldl_append, List.foldl_cons, other, if_false]

/-- An edit leaves the type and the requirement of a passphrase as they are. -/
theorem AttributeEdit.lastString_eq {fieldName name : String}
    {entries others : List (String × GVariant)} (edit : AttributeEdit fieldName entries others)
    (passphrase : fieldName = "Passphrase") (inspected : name ∈ inspectedAttributes) :
    lastString name none entries = lastString name none others := by
  cases edit with
  | reorder distinct same => exact lastString_perm name none distinct same
  | add before after added unknown =>
      refine (lastString_add name none before after ?_).symm
      rintro rfl
      exact unknown inspected
  | supply _ _ _ other => exact absurd passphrase other
  | change _ _ _ _ _ other => exact absurd passphrase other

/-! ## What the flags depend on -/

/-- Of a field that is no passphrase only the name counts. -/
theorem noteField_congr (flags : InputFlags) {desc other : FieldDescription}
    (name : desc.fieldName = other.fieldName)
    (passphrase : desc.fieldName = "Passphrase" → desc = other) :
    noteField flags desc = noteField flags other := by
  by_cases named : desc.fieldName = "Passphrase"
  · rw [passphrase named]
  · have otherNamed : other.fieldName ≠ "Passphrase" := name ▸ named
    simp only [noteField, name, otherNamed, decide_false, Bool.false_and]

theorem noteField_unknown (flags : InputFlags) {desc : FieldDescription}
    (unknown : desc.fieldName ∉ inspectedNames) : noteField flags desc = flags := by
  simp only [inspectedNames, List.mem_cons, List.not_mem_nil, or_false, not_or] at unknown
  obtain ⟨passphrase, wps, name, identity, username, password⟩ := unknown
  simp only [noteField, passphrase, wps, name, identity, username, password, decide_false,
    Bool.false_and, Bool.or_false]

theorem noteField_comm (flags : InputFlags) (first second : FieldDescription) :
    noteField (noteField flags first) second = noteField (noteField flags second) first := by
  simp only [noteField, Bool.or_right_comm]

/-- An edited field counts like the field it was. -/
theorem AttributeEdit.noteField_eq {name : String} {entries others : List (String × GVariant)}
    (edit : AttributeEdit name entries others) (flags : InputFlags) :
    noteField flags (describe (name, .dictionary entries)) =
      noteField flags (describe (name, .dictionary others)) := by
  refine noteField_congr flags (show name = name from rfl) ?_
  intro passphrase
  have kept : ∀ inspected ∈ inspectedAttributes,
      lastString inspected none entries = lastString inspected none others :=
    fun _ member => edit.lastString_eq passphrase member
  simp only [describe, attributeOf_dictionary, kept "Type" (by decide),
    kept "Requirement" (by decide)]

/-- An edit keeps the flags. -/
theorem FieldEdit.flags_eq {fields others : List (String × GVariant)}
    (edit : FieldEdit fields others) (flags : InputFlags) :
    (fields.map describe).foldl noteField flags = (others.map describe).foldl noteField flags := by
  cases edit with
  | reorder same =>
      apply (same.map describe).foldl_eq'
      intro first _ second _ current
      exact noteField_comm current first second
  | add before after added unknown =>
      have skipped : ∀ current, noteField current (describe added) = current :=
        fun current => noteField_unknown current unknown
      simp only [List.map_append, List.map_cons, List.foldl_append, List.foldl_cons, skipped]
  | attributes before after edit =>
      simp only [List.map_append, List.map_cons, List.foldl_append, List.foldl_cons,
        edit.noteField_eq]

/-- So does every chain of edits, made or undone. -/
theorem flags_eq_of_edits {fields others : List (String × GVariant)}
    (edits : Relation.EqvGen FieldEdit fields others) (flags : InputFlags) :
    (fields.map describe).foldl noteField flags =
      (others.map describe).foldl noteField flags := by
  induction edits with
  | rel _ _ edit => exact edit.flags_eq flags
  | refl _ => rfl
  | symm _ _ _ ih => exact ih.symm
  | trans _ _ _ _ _ first second => exact first.trans second

/-- Requests that differ by edits are of the same kind. -/
theorem classifyInput_eq_of_edits {fields others : List (String × GVariant)}
    (edits : Relation.EqvGen FieldEdit fields others) :
    classifyInput (parseFields (.dictionary fields)) =
      classifyInput (parseFields (.dictionary others)) := by
  rw [classifyInput, classifyInput, parseFields_dictionary, parseFields_dictionary,
    flags_eq_of_edits edits]

/-- A request of connman for a passphrase, with and without the passphrase it used
before, in another order. -/
theorem classifyInput_previousPassphrase :
    classifyInput (parseFields (.dictionary
        [("PreviousPassphrase", .dictionary [("Type", .string "psk")]),
          ("Passphrase", .dictionary
            [("Type", .string "psk"), ("Requirement", .string "mandatory")])])) =
      classifyInput (parseFields (.dictionary
        [("Passphrase", .dictionary
          [("Requirement", .string "mandatory"), ("Type", .string "psk"),
            ("Alternates", .array .string [.string "WPS"])])])) := by
  refine classifyInput_eq_of_edits ?_
  have removed := Relation.EqvGen.symm _ _ (.rel _ _ (FieldEdit.add []
    [("Passphrase", .dictionary [("Type", .string "psk"), ("Requirement", .string "mandatory")])]
    ("PreviousPassphrase", .dictionary [("Type", .string "psk")]) (by decide)))
  have swapped := Relation.EqvGen.rel _ _ (@FieldEdit.attributes [] [] "Passphrase" _ _
    (.reorder (by decide)
      (.swap ("Requirement", .string "mandatory") ("Type", .string "psk") [])))
  have extended := Relation.EqvGen.rel _ _ (@FieldEdit.attributes [] [] "Passphrase" _ _
    (.add [("Requirement", .string "mandatory"), ("Type", .string "psk")] []
      ("Alternates", .array .string [.string "WPS"]) (by decide)))
  exact (removed.trans _ _ _ swapped).trans _ _ _ extended

/-- The handler answers requests that differ by edits with the same dictionary. -/
theorem Manager.requestInput_eq_of_edits (manager : Manager) (servicePath : String)
    {fields others : List (String × GVariant)} (edits : Relation.EqvGen FieldEdit fields others) :
    manager.requestInput servicePath (.dictionary fields) =
      manager.requestInput servicePath (.dictionary others) := by
  simp only [Manager.requestInput, classifyInput, parseFields_dictionary, flags_eq_of_edits edits]

end GConnman.Connman
