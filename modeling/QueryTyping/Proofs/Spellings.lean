import QueryTyping.Proofs.Contents
import QueryTyping.Proofs.RoundTrip

/-! The spellings of a type in a document. A type is an object or an array, stands alone or among the
members of a field, and names its kind or, inside another document, gives its number. What it is
depends on the members that all spellings have in common. -/

namespace QueryTyping

namespace Json

/-- The members of the document of a type. In an array the tag is followed by their values. -/
def typeMembers? : Json → Option Members
  | object members => some members
  | array (tag :: items) =>
    (nestedTag? SqlType.kinds tag).map fun kind =>
      ("type", tag) :: (SqlType.keysOf kind).zip items
  | _ => none

/-- A column has the members of a type beside its own. -/
def Members.Describes (column : Members) (type : Json) : Prop :=
  ∃ members, type.typeMembers? = some members ∧ ∀ key, key ≠ "name" → key ≠ "nullable" →
    column.filter (·.1 = key) = members.filter (·.1 = key)

end Json

theorem SqlType.atPlace_eq (items : List Json) (keys : List String) (key : String) :
    atPlace items keys key = Json.Members.find (keys.zip items) key ofNestedJson := by
  induction items generalizing keys with
  | nil => cases keys <;> rfl
  | cons item rest ih =>
    cases keys with
    | nil => rfl
    | cons name names => rw [atPlace, List.zip_cons_cons, Json.Members.find_cons, ih]

theorem Field.listAtPlace_eq (items : List Json) (keys : List String) (key : String) :
    listAtPlace items keys key =
      Json.Members.find (keys.zip items) key (Json.readList Field.ofJson) := by
  induction items generalizing keys with
  | nil => cases keys <;> rfl
  | cons item rest ih =>
    cases keys with
    | nil => cases item <;> rfl
    | cons name names =>
      rw [List.zip_cons_cons, Json.Members.find_cons, ← ih]
      cases item with
      | array documents => rw [listAtPlace, listOf_eq, Json.readList]
      | _ => rfl

namespace SqlType

/-- The type that these members spell out, by the kind among them. -/
def Spelled (members : Json.Members) (type : SqlType) : Prop :=
  ∃ kind, (members.only? "type").bind (Json.nestedTag? kinds) = some kind ∧
    (form kind (members.find · ofNestedJson)
      (members.find "fields" (Json.readList Field.ofJson))).value = some type

variable {members others : Json.Members} {type : SqlType}

theorem spelled_of_ofMembers {names : List String}
    (taken : ofMembers names members (atKey members) (Field.listAt members "fields") = .ok type) :
    Spelled members type := by
  rw [ofMembers, funext (atKey_eq members), Field.listAt_eq] at taken
  split at taken
  · next kind named =>
    refine ⟨kind, named, ?_⟩
    dsimp only at taken
    split at taken
    · exact Form.value_of_read taken
    · exact Form.value_of_readClosed taken
  · cases taken

/-- The form of a kind looks at the members of its kind alone. -/
theorem form_congr {kind : String}
    (same : ∀ key ∈ keysOf kind, members.lookup key = others.lookup key) :
    form kind (members.find · ofNestedJson)
        (members.find "fields" (Json.readList Field.ofJson)) =
      form kind (others.find · ofNestedJson)
        (others.find "fields" (Json.readList Field.ofJson)) := by
  unfold keysOf form at same
  unfold form Json.Members.find
  split
  all_goals
    simp only [Form.seq_keys, Form.map_keys, Form.required_keys, List.forall_mem_append,
      List.forall_mem_singleton] at same
    simp [same]

theorem notMem_keysOf {kind key : String} (other : key ∉ ["items", "key", "value", "fields"]) :
    key ∉ keysOf kind := by
  unfold keysOf form
  split <;> simp_all [pure]

theorem spelled_of_ofNestedJson {document : Json} (taken : ofNestedJson document = .ok type)
    (whole : document.typeMembers? = some members) : Spelled members type := by
  cases document with
  | object =>
    cases whole
    rw [ofNestedJson] at taken
    exact spelled_of_ofMembers taken
  | array documents =>
    cases documents with
    | nil => cases whole
    | cons tag items =>
      obtain ⟨kind, named, rfl⟩ := Option.map_eq_some_iff.mp whole
      have fresh : "type" ∉ keysOf kind := notMem_keysOf (by decide)
      rw [ofNestedJson, named] at taken
      simp only [funext (atPlace_eq items (keysOf kind)), Field.listAtPlace_eq] at taken
      obtain ⟨others, given, read⟩ := Json.of_readRecord taken
      refine ⟨kind, ?_, ?_⟩
      · have none : ((keysOf kind).zip items).filter (·.1 = "type") = [] := by
          rw [List.filter_eq_nil_iff]
          rintro ⟨key, item⟩ member same
          exact fresh (of_decide_eq_true same ▸ (List.of_mem_zip member).1)
        rw [Json.Members.only?, List.filter_cons_of_pos (by simp), none]
        exact named
      · rw [← Form.value_of_read read]
        apply congrArg Form.value (form_congr _)
        intro key inside
        have other : (key == "type") = false := beq_false_of_ne fun same => fresh (same ▸ inside)
        rw [List.lookup_cons, other]
  | _ => cases whole

/-- An array of `INT32`, whose kind is the number zero. -/
example : ofNestedJson (.array [.string "array", .array [.int 0]]) = .ok (.array .int32) := rfl

/-- Beside the members of a column, a type is what it is on its own. -/
theorem eq_of_spelled {first second : SqlType} (one : Spelled members first)
    (two : Spelled others second) (same : ∀ key, key ≠ "name" → key ≠ "nullable" →
      members.filter (·.1 = key) = others.filter (·.1 = key)) : first = second := by
  obtain ⟨kind, named, made⟩ := one
  obtain ⟨label, given, built⟩ := two
  have tag : members.only? "type" = others.only? "type" := by
    rw [Json.Members.only?, Json.Members.only?, same "type" (by decide) (by decide)]
  rw [tag] at named
  cases named.symm.trans given
  rw [form_congr] at made
  · exact Option.some.inj (made.symm.trans built)
  · intro key inside
    rw [Json.Members.lookup_eq_filter, Json.Members.lookup_eq_filter, same key]
    · rintro rfl
      exact notMem_keysOf (by decide) inside
    · rintro rfl
      exact notMem_keysOf (by decide) inside

end SqlType

end QueryTyping
