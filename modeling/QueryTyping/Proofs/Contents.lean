import Mathlib.Data.List.Forall2
import QueryTyping.Document.Catalog
import QueryTyping.Document.Schema
import QueryTyping.Proofs.NarrowerArguments
import QueryTyping.Proofs.Row

/-! What is in a document that could be read. Each part of what it was read as comes from the member
of that name or from its place, and the items of a list come from those of an array, one from each. -/

namespace QueryTyping

namespace Json

/-- The members of a record, by these keys where it is given as an array. -/
def record? (keys : List String) : Json → Option Members
  | object members => some members
  | array items => some (keys.zip items)
  | _ => none

def part? (keys : List String) (key : String) (document : Json) : Option Json :=
  (document.record? keys).bind (List.lookup key)

/-- The items of the array that a member of a record holds. -/
def items (keys : List String) (key : String) (document : Json) : List Json :=
  match document.part? keys key with
  | some (array items) => items
  | _ => []

/-- Documents that are read as these values, one by one. -/
abbrev ReadEach (read : Json → Except Refusal α) (documents : List Json) (values : List α) : Prop :=
  List.Forall₂ (fun document value => read document = .ok value) documents values

variable {read : Json → Except Refusal α} {members : Members} {key : String} {values : List α}
  {document : Json} {keys : List String}

theorem mapM_eq_ok_iff {documents : List Json} :
    documents.mapM read = .ok values ↔ ReadEach read documents values := by
  induction documents generalizing values with
  | nil => cases values <;> simp [pure, Except.pure]
  | cons document rest ih =>
    simp only [List.mapM_cons, bind_eq_ok_iff]
    constructor
    · intro taken
      obtain ⟨value, here, others, later, same⟩ := taken
      cases same
      exact .cons here (ih.mp later)
    · intro each
      cases each with
      | cons here later => exact ⟨_, here, _, ih.mpr later, rfl⟩

theorem Members.find_eq_ok_iff {value : α} :
    members.find key read = some (.ok value) ↔
      ∃ document, members.lookup key = some document ∧ read document = .ok value := by
  rw [find, Option.map_eq_some_iff]

theorem part?_eq (given : document.record? keys = some members) (key : String) :
    document.part? keys key = members.lookup key := by
  rw [part?, given, Option.bind_some]

theorem items_of_find (given : document.record? keys = some members)
    (found : members.find key (readList read) = some (.ok values)) :
    ReadEach read (document.items keys key) values := by
  obtain ⟨list, there, taken⟩ := Members.find_eq_ok_iff.mp found
  cases list with
  | array documents =>
    rw [items, part?_eq given, there]
    exact mapM_eq_ok_iff.mp taken
  | _ => cases taken

theorem items_of_missing (given : document.record? keys = some members)
    (missing : members.find key (readList read) = none) : document.items keys key = [] := by
  rw [Members.find, Option.map_eq_none_iff] at missing
  rw [items, part?_eq given, missing]

theorem Members.lookup_eq_filter (members : Members) (key : String) :
    members.lookup key = (members.filter (·.1 = key)).head?.map Prod.snd := by
  induction members with
  | nil => rfl
  | cons member rest ih =>
    rw [List.lookup_cons, List.filter_cons]
    by_cases same : member.1 = key
    · simp [same]
    · have other : (key == member.1) = false := beq_false_of_ne (Ne.symm same)
      simp [same, other, ih]

/-- A record is read by its members, however they are spelled. -/
theorem of_readRecord {read : Members → Except Refusal α} {value : α}
    (taken : readRecord keys read document = .ok value) :
    ∃ members, document.record? keys = some members ∧ read members = .ok value := by
  cases document with
  | object members => exact ⟨members, rfl, taken⟩
  | array items =>
    obtain ⟨other, inside, rest⟩ := bind_eq_ok_iff.mp taken
    split at rest
    · cases rest
      exact ⟨keys.zip items, rfl, inside⟩
    · cases rest
  | _ => cases taken

theorem of_readTagged {read : String → Json → Except Refusal α} {value : α}
    (taken : readTagged key read document = .ok value) :
    ∃ tag, document.tag? key = some (.string tag) ∧ read tag document.untagged = .ok value := by
  unfold readTagged at taken
  split at taken
  · next tag named => exact ⟨tag, named, taken⟩
  · cases taken

end Json

namespace Form

variable {members : Json.Members} {result : α}

theorem value_of_read {form : Form α} (taken : form.read members = .ok result) :
    form.value = some result := by
  unfold read at taken
  split at taken
  · cases taken
  · next value _ found =>
    cases taken
    exact found
  · cases taken

theorem value_of_readClosed {form : Form α} {others : List String}
    (taken : form.readClosed others members = .ok result) : form.value = some result := by
  unfold readClosed at taken
  split at taken
  · exact value_of_read taken
  · cases taken

theorem seq_value_eq_some_iff {function : Form (β → α)} {argument : Form β} :
    (function <*> argument).value = some result ↔ ∃ change, function.value = some change ∧
      ∃ value, argument.value = some value ∧ change value = result := by
  change (do return (← function.value) (← argument.value)) = some result ↔ _
  simp [Option.bind_eq_some_iff]

theorem map_value_eq_some_iff {form : Form β} {change : β → α} :
    (change <$> form).value = some result ↔
      ∃ value, form.value = some value ∧ change value = result := by
  change (pure change <*> form).value = some result ↔ _
  simp [seq_value_eq_some_iff, pure]

theorem required_value_eq_some_iff {key : String} {found : Option (Except Refusal α)} :
    (required key found).value = some result ↔ found = some (.ok result) := by
  rcases found with _ | _ | _ <;> simp [required]

theorem optional_value_eq_some_iff {key : String} {default : α}
    {found : Option (Except Refusal α)} :
    (optional key default found).value = some result ↔
      found = some (.ok result) ∨ found = none ∧ default = result := by
  cases found with
  | none => simp [optional]
  | some value => simp [optional, required_value_eq_some_iff]

end Form

theorem Form.of_readRecord {form : Json.Members → Form α} {document : Json} {value : α}
    (taken : Form.readRecord form document = .ok value) :
    ∃ members, document.record? (form []).keys = some members ∧
      (form members).value = some value := by
  obtain ⟨members, given, read⟩ := Json.of_readRecord taken
  exact ⟨members, given, value_of_read read⟩

theorem Form.of_readClosedRecord {form : Json.Members → Form α} {document : Json} {value : α}
    (taken : Form.readClosedRecord form document = .ok value) :
    ∃ members, document.record? (form []).keys = some members ∧
      (form members).value = some value := by
  obtain ⟨members, given, read⟩ := Json.of_readRecord taken
  exact ⟨members, given, value_of_readClosed read⟩

theorem Json.readString_eq_ok_iff {document : Json} {text : String} :
    readString document = .ok text ↔ document = .string text := by
  cases document <;> simp [readString]

open Json (ReadEach)

section

variable {document : Json} {keys : List String} {members : Json.Members} {key : String}

theorem Form.items_of_required {read : Json → Except Refusal α} {values : List α}
    (given : document.record? keys = some members)
    (found : (required key (members.find key (Json.readList read))).value = some values) :
    ReadEach read (document.items keys key) values :=
  Json.items_of_find given (required_value_eq_some_iff.mp found)

/-- A list that may be left out has no items then. -/
theorem Form.items_of_optional {read : Json → Except Refusal α} {values : List α}
    (given : document.record? keys = some members)
    (found : (optional key [] (members.find key (Json.readList read))).value = some values) :
    ReadEach read (document.items keys key) values := by
  rcases optional_value_eq_some_iff.mp found with there | ⟨missing, rfl⟩
  · exact Json.items_of_find given there
  · rw [Json.items_of_missing given missing]
    exact .nil

theorem Form.string_of_required {text : String}
    (found : (required key (members.find key Json.readString)).value = some text) :
    members.lookup key = some (.string text) := by
  have given := required_value_eq_some_iff.mp found
  obtain ⟨document, there, taken⟩ := Json.Members.find_eq_ok_iff.mp given
  rw [there, Json.readString_eq_ok_iff.mp taken]

end

theorem ReturnRule.not_isCustom_of_form {kind : String} {members : Json.Members}
    {rule : ReturnRule} (made : (form kind members).value = some rule) : ¬ rule.isCustom := by
  unfold form at made
  dsimp only at made
  split at made
  · obtain ⟨index, _, rfl⟩ := Form.map_value_eq_some_iff.mp made
    exact nofun
  · obtain ⟨index, _, rfl⟩ := Form.map_value_eq_some_iff.mp made
    exact nofun
  · cases made
    exact nofun
  · obtain ⟨type, _, rfl⟩ := Form.map_value_eq_some_iff.mp made
    exact nofun
  · obtain ⟨type, _, rfl⟩ := Option.map_eq_some_iff.mp made
    exact nofun

/-- A catalog document cannot spell out a rule of its own. -/
theorem ReturnRule.not_isCustom_of_ofJson {document : Json} {rule : ReturnRule}
    (taken : ReturnRule.ofJson document = .ok rule) : ¬ rule.isCustom := by
  obtain ⟨kind, _, inside⟩ := Json.of_readTagged taken
  obtain ⟨members, _, made⟩ := Form.of_readRecord inside
  exact not_isCustom_of_form made

theorem Param.of_ofJson_exact {document type : Json} {param : Param}
    (taken : Param.ofJson document = .ok param)
    (kind : document.tag? "kind" = some (.string "exact"))
    (given : document.untagged.part? ["type"] "type" = some type) :
    ∃ shape, SqlType.ofNestedJson type = .ok shape ∧ param = .exact shape := by
  obtain ⟨tag, named, inside⟩ := Json.of_readTagged taken
  cases kind.symm.trans named
  obtain ⟨members, whole, made⟩ := Form.of_readRecord inside
  obtain ⟨shape, found, rfl⟩ := Form.map_value_eq_some_iff.mp made
  obtain ⟨other, there, read⟩ :=
    Json.Members.find_eq_ok_iff.mp (Form.required_value_eq_some_iff.mp found)
  cases ((Json.part?_eq whole "type").trans there).symm.trans given
  exact ⟨shape, read, rfl⟩

namespace Json

/-! The members of the records of a catalog, in their order. -/

def catalogKeys : List String :=
  ["groups", "functions"]

def groupKeys : List String :=
  ["name", "functions"]

def functionKeys : List String :=
  ["name", "description", "signatures"]

def usageKeys : List String :=
  ["params", "variadic", "return"]

/-- The functions that a catalog declares, in groups and outside of them. -/
def functions (catalog : Json) : List Json :=
  (catalog.items catalogKeys "groups").flatMap (·.items groupKeys "functions") ++
    catalog.items catalogKeys "functions"

/-- The columns of a row. -/
def columns (row : Json) : List Json :=
  row.items ["name", "fields", "caseSensitivity"] "fields"

end Json

theorem Usage.of_ofJson {document : Json} {usage : Usage}
    (taken : Usage.ofJson document = .ok usage) :
    ReadEach Param.ofJson (document.items Json.usageKeys "params") usage.params ∧
      ¬ usage.returns.isCustom := by
  obtain ⟨members, given, whole⟩ := Form.of_readClosedRecord taken
  simp only [form, Form.seq_value_eq_some_iff, Form.map_value_eq_some_iff] at whole
  obtain ⟨_, ⟨_, ⟨params, first, rfl⟩, variadic, _, rfl⟩, returns, last, rfl⟩ := whole
  refine ⟨Form.items_of_optional given first, ?_⟩
  obtain ⟨_, _, rule⟩ := Json.Members.find_eq_ok_iff.mp (Form.required_value_eq_some_iff.mp last)
  exact ReturnRule.not_isCustom_of_ofJson rule

theorem FunctionDeclaration.of_ofJson {document : Json} {function : FunctionDeclaration}
    (taken : FunctionDeclaration.ofJson document = .ok function) :
    document.part? Json.functionKeys "name" = some (.string function.name) ∧
      ReadEach Usage.ofJson (document.items Json.functionKeys "signatures") function.usages := by
  obtain ⟨members, given, whole⟩ := Form.of_readClosedRecord taken
  simp only [form, Form.seq_value_eq_some_iff, Form.map_value_eq_some_iff] at whole
  obtain ⟨_, ⟨_, ⟨name, first, rfl⟩, description, _, rfl⟩, usages, last, rfl⟩ := whole
  refine ⟨?_, Form.items_of_required given last⟩
  exact (Json.part?_eq given "name").trans (Form.string_of_required first)

theorem FunctionGroup.of_ofJson {document : Json} {group : FunctionGroup}
    (taken : FunctionGroup.ofJson document = .ok group) :
    ReadEach FunctionDeclaration.ofJson (document.items Json.groupKeys "functions")
      group.functions := by
  obtain ⟨members, given, whole⟩ := Form.of_readClosedRecord taken
  simp only [form, Form.seq_value_eq_some_iff, Form.map_value_eq_some_iff] at whole
  obtain ⟨_, ⟨name, first, rfl⟩, functions, last, rfl⟩ := whole
  exact Form.items_of_optional given last

theorem Declarations.of_ofJson {catalog : Json} {declarations : Declarations}
    (taken : Declarations.ofJson catalog = .ok declarations) :
    ReadEach FunctionDeclaration.ofJson catalog.functions
      (declarations.groups.flatMap FunctionGroup.functions ++ declarations.functions) := by
  obtain ⟨members, given, whole⟩ := Form.of_readClosedRecord taken
  simp only [form, Form.seq_value_eq_some_iff, Form.map_value_eq_some_iff] at whole
  obtain ⟨_, ⟨groups, first, rfl⟩, functions, last, rfl⟩ := whole
  refine List.rel_append ?_ (Form.items_of_optional given last)
  exact List.rel_flatMap (Form.items_of_optional given first) fun _ _ => FunctionGroup.of_ofJson

/-- A catalog that is an empty array declares nothing. -/
example : Declarations.ofJson (.array []) = .ok { groups := [], functions := [] } := rfl

theorem Schema.of_ofJson {row : Json} {schema : Schema} (taken : Schema.ofJson row = .ok schema) :
    ∃ fields, ReadEach Field.ofJson row.columns fields ∧
      schema.fields = Field.renameAll schema.casePolicy.fold fields := by
  obtain ⟨⟨name, fields, policy⟩, parts, built⟩ := bind_eq_ok_iff.mp taken
  obtain ⟨members, given, whole⟩ := Form.of_readClosedRecord parts
  simp only [rowForm, Form.seq_value_eq_some_iff, Form.map_value_eq_some_iff] at whole
  obtain ⟨_, ⟨_, ⟨label, _, rfl⟩, row, listed, rfl⟩, _, _, same⟩ := whole
  cases same
  obtain ⟨_, folded, rfl⟩ := Schema.build_eq_ok_iff.mp (mapError_eq_ok_iff.mp built)
  exact ⟨_, Form.items_of_required given listed, folded⟩

theorem Field.of_ofJson {column : Json.Members} {field : Field}
    (taken : Field.ofJson (.object column) = .ok field) :
    column.lookup "name" = some (.string field.name) ∧
      SqlType.ofMembers ["name", "nullable"] column (SqlType.atKey column)
        (Field.listAt column "fields") = .ok field.type := by
  rw [Field.ofJson, Field.ofMembers] at taken
  obtain ⟨⟨name, nullable⟩, parts, later⟩ := bind_eq_ok_iff.mp taken
  obtain ⟨type, described, made⟩ := bind_eq_ok_iff.mp later
  cases made
  have whole := Form.value_of_read parts
  simp only [Form.seq_value_eq_some_iff, Form.map_value_eq_some_iff] at whole
  obtain ⟨_, ⟨label, first, rfl⟩, _, _, same⟩ := whole
  cases same
  exact ⟨Form.string_of_required first, described⟩

end QueryTyping
