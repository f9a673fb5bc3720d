import QueryTyping.Proofs.ColumnRules
import QueryTyping.Proofs.Row
import QueryTyping.Proofs.Rules

/-! The types inside a type. A row that is accepted has good names at every level, so that this is
true of every part of its columns, and a `STRUCT` among them has one member for each of its names. -/

namespace QueryTyping

namespace SqlType

def isComposite : SqlType → Bool
  | array _ | map _ _ | struct _ => true
  | _ => false

/-- A type that stands somewhere inside another one, or is the whole of it. -/
inductive Part (part : SqlType) : SqlType → Prop where
  | whole : Part part part
  | items {items : SqlType} (inside : Part part items) : Part part (.array items)
  | key {key value : SqlType} (inside : Part part key) : Part part (.map key value)
  | value {key value : SqlType} (inside : Part part value) : Part part (.map key value)
  | member {fields : List Field} {field : Field} (listed : field ∈ fields)
      (inside : Part part field.type) : Part part (.struct fields)

theorem Part.trans {part middle whole : SqlType} (inner : part.Part middle)
    (outer : middle.Part whole) : part.Part whole := by
  induction outer with
  | whole => exact inner
  | items _ ih => exact .items ih
  | key _ ih => exact .key ih
  | value _ ih => exact .value ih
  | member listed _ ih => exact .member listed ih

/-- Scalar types have no parts but themselves. -/
theorem Part.isComposite {part whole : SqlType} (inside : part.Part whole)
    (composite : part.isComposite) : whole.isComposite := by
  cases inside with
  | whole => exact composite
  | _ => rfl

end SqlType

theorem SqlType.rename_of_scalar {type : SqlType} {change : String → String}
    (scalar : ¬ type.isComposite) : type.rename change = type := by
  cases type <;> first | rfl | exact absurd rfl scalar

mutual

/-- Where case counts, folding leaves all names alone. -/
theorem SqlType.rename_same : (type : SqlType) → type.rename CasePolicy.sensitive.fold = type
  | .array items => congrArg SqlType.array (SqlType.rename_same items)
  | .map key value => congrArg₂ SqlType.map (SqlType.rename_same key) (SqlType.rename_same value)
  | .struct fields => congrArg SqlType.struct (Field.renameAll_same fields)
  | .int32 | .int64 | .float64 | .string | .boolean => rfl

theorem Field.renameAll_same :
    (fields : List Field) → Field.renameAll CasePolicy.sensitive.fold fields = fields
  | [] => rfl
  | ⟨name, type, nullable⟩ :: rest => by
    rw [Field.renameAll, SqlType.rename_same type, Field.renameAll_same rest]
    rfl

end

/-- The fields of a row that a renaming leaves alone have names and types that it leaves alone. -/
theorem Field.renamed_of_mem {change : String → String} {fields : List Field}
    (kept : Field.renameAll change fields = fields) {field : Field} (member : field ∈ fields) :
    change field.name = field.name ∧ field.type.rename change = field.type := by
  induction fields with
  | nil => cases member
  | cons first rest ih =>
    obtain ⟨name, type, nullable⟩ := first
    obtain ⟨here, later⟩ := List.cons.inj kept
    rcases List.mem_cons.mp member with rfl | behind
    · exact ⟨congrArg Field.name here, congrArg Field.type here⟩
    · exact ih later behind

theorem SqlType.Part.rename_eq {change : String → String} {part whole : SqlType}
    (inside : part.Part whole) (kept : whole.rename change = whole) : part.rename change = part := by
  induction inside with
  | whole => exact kept
  | items _ ih =>
    apply ih
    simpa only [SqlType.rename, SqlType.array.injEq] using kept
  | key _ ih =>
    simp only [SqlType.rename, SqlType.map.injEq] at kept
    exact ih kept.1
  | value _ ih =>
    simp only [SqlType.rename, SqlType.map.injEq] at kept
    exact ih kept.2
  | member listed _ ih =>
    simp only [SqlType.rename, SqlType.struct.injEq] at kept
    exact ih (Field.renamed_of_mem kept listed).2

theorem SqlType.Selects.part {index container element : SqlType}
    (selects : index.Selects container element) : element.Part container := by
  cases selects with
  | items => exact .items .whole
  | values => exact .value .whole

namespace Schema

variable {schema : Schema}

theorem member_part {parent type : SqlType} {field path : String}
    (found : schema.member parent field path = .ok type) : type.Part parent := by
  obtain ⟨fields, member, rfl, first, rfl⟩ := member_eq_ok_iff.mp found
  obtain ⟨before, after, rfl, _⟩ := first
  exact .member (List.mem_append_right _ List.mem_cons_self) .whole

theorem column?_mem {name : String} {field : Field}
    (found : schema.column? name = .ok (some field)) : field ∈ schema.fields := by
  cases whole : schema.casePolicy.find? name schema.fields with
  | some column =>
    rw [column?_of_whole whole] at found
    cases found
    exact List.mem_of_find?_eq_some whole
  | none =>
    rcases parts : Text.segments name with _ | ⟨segment, _ | ⟨next, rest⟩⟩
    · exact absurd parts (Text.segments_ne_nil name)
    · rw [column?_of_single whole parts] at found
      split at found
      next => cases found
      next column single =>
        cases found
        have listed : field ∈ schema.endingIn name := by rw [single]; exact List.mem_cons_self
        exact (List.mem_filter.mp listed).1
      next => cases found
    · rw [column?_of_qualified whole parts, Except.ok.injEq] at found
      split at found
      · exact List.mem_of_find?_eq_some found
      · cases found

theorem follow_part {path : String} {type : SqlType} {segments : List String}
    {found : ResolvedColumn} (followed : schema.follow path type segments = .ok found) :
    found.type.Part type := by
  induction segments generalizing path type with
  | nil =>
    cases followed
    exact .whole
  | cons segment rest ih =>
    obtain ⟨inner, entered, later⟩ := bind_eq_ok_iff.mp followed
    exact (ih later).trans (member_part entered)

theorem resolveColumn_part {name : String} {found : ResolvedColumn}
    (resolved : schema.resolveColumn name = .ok found) :
    ∃ field ∈ schema.fields, found.type.Part field.type := by
  unfold resolveColumn at resolved
  generalize Text.fronts (Text.segments name) = fronts at resolved
  induction fronts with
  | nil => cases resolved
  | cons cut shorter ih =>
    obtain ⟨front, rest⟩ := cut
    obtain ⟨column, whole, later⟩ := bind_eq_ok_iff.mp resolved
    cases column with
    | none => exact ih later
    | some field => exact ⟨field, column?_mem whole, follow_part later⟩

end Schema

/-- No name is made of blanks alone, and no two names are meant to be the same. -/
structure Field.WellNamed (policy : CasePolicy) (fields : List Field) : Prop where
  named : ∀ field ∈ fields, ¬ Text.isBlankText field.name
  distinct : fields.Pairwise fun first second => ¬ policy.agree first.name second.name

/-- The names are good at every level, below arrays and maps too. -/
def SqlType.WellFormed (policy : CasePolicy) (type : SqlType) : Prop :=
  ∀ fields, (SqlType.struct fields).Part type → Field.WellNamed policy fields

section WellFormed

variable {policy : CasePolicy}

/-- Names that differ when case is ignored differ under every policy. -/
theorem Field.WellNamed.of_insensitive {fields : List Field}
    (good : Field.WellNamed .insensitive fields) : Field.WellNamed policy fields := by
  refine ⟨good.named, good.distinct.imp ?_⟩
  intro first second different same
  cases policy with
  | insensitive => exact different same
  | sensitive =>
    obtain equal : first.name = second.name := by simpa [CasePolicy.agree] using same
    exact different (CasePolicy.agree_iff.mpr (congrArg _ equal))

theorem Field.WellNamed.fold_distinct {fields : List Field} (good : Field.WellNamed policy fields) :
    fields.Pairwise fun first second => policy.fold first.name ≠ policy.fold second.name :=
  good.distinct.imp fun apart same => apart (CasePolicy.agree_iff.mpr same)

theorem SqlType.WellFormed.of_insensitive {type : SqlType} (good : type.WellFormed .insensitive) :
    type.WellFormed policy :=
  fun fields inside => (good fields inside).of_insensitive

theorem SqlType.WellFormed.part {part whole : SqlType} (good : whole.WellFormed policy)
    (inside : part.Part whole) : part.WellFormed policy :=
  fun fields within => good fields (within.trans inside)

mutual

theorem SqlType.wellFormed_of_check {path : String} :
    (type : SqlType) → type.check policy path = .ok () → type.WellFormed policy
  | .array items, accepted, fields, inside => by
    cases inside with
    | items within => exact SqlType.wellFormed_of_check items accepted fields within
  | .map key value, accepted, fields, inside => by
    obtain ⟨_, keys, values⟩ := bind_eq_ok_iff.mp accepted
    cases inside with
    | key within => exact SqlType.wellFormed_of_check key keys fields within
    | value within => exact SqlType.wellFormed_of_check value values fields within
  | .struct members, accepted, fields, inside => by
    have each := Field.wellFormed_of_checkAll members accepted
    cases inside with
    | whole =>
      refine ⟨fun field member => (each field member).1, ?_⟩
      exact (Field.names_of_checkAll accepted).1.imp fun different same =>
        different (CasePolicy.agree_iff.mp same)
    | member listed within => exact (each _ listed).2 fields within
  | .int32, _, _, inside | .int64, _, _, inside | .float64, _, _, inside
  | .string, _, _, inside | .boolean, _, _, inside => by cases inside

theorem Field.wellFormed_of_checkAll {path : String} {earlier : List String} :
    (fields : List Field) → Field.checkAll policy path earlier fields = .ok () →
      ∀ field ∈ fields, ¬ Text.isBlankText field.name ∧ field.type.WellFormed policy
  | ⟨name, type, nullable⟩ :: rest, accepted => by
    simp only [Field.checkAll] at accepted
    split at accepted
    · cases accepted
    split at accepted
    · cases accepted
    next named _ =>
      obtain ⟨_, checked, later⟩ := bind_eq_ok_iff.mp accepted
      have here := SqlType.wellFormed_of_check type checked
      exact List.forall_mem_cons.mpr ⟨⟨named, here⟩, Field.wellFormed_of_checkAll rest later⟩
  | [], _ => by simp

end

/-- The columns of a schema are as well-formed as the check asks for. -/
theorem Schema.wellFormed_of_mem (schema : Schema) {field : Field} (member : field ∈ schema.fields) :
    field.type.WellFormed schema.casePolicy :=
  (Field.wellFormed_of_checkAll schema.fields schema.accepted field member).2

end WellFormed

end QueryTyping
