import QueryTyping.Proofs.Parts
import Mathlib.Data.List.Find

/-! Looking a name up in its folded form. A schema finds the same column by both forms, because it
compares names as they fold and because folding keeps the points at which a name is cut. Where it
finds nothing, the diagnostic is the same too, as it shows the folded form. All this remains true
when the folded form is looked up letter by letter, since the names of a row are folded as well. -/

namespace QueryTyping

namespace Text

theorem upper_append (first second : String) :
    upper (first ++ second) = upper first ++ upper second := by
  simp only [upper, String.toList_append, List.map_append, String.ofList_append]

private theorem toUpper_eq_point_iff {c : Char} : c.toUpper = '.' ↔ c = '.' := by
  rw [← Char.toNat_inj, ← Char.toNat_inj, toNat_toUpper]
  have point : '.'.toNat = 46 := rfl
  split <;> omega

private theorem splitOn_map_toUpper (characters : List Char) :
    (characters.map Char.toUpper).splitOn '.' =
      (characters.splitOn '.').map (List.map Char.toUpper) := by
  induction characters with
  | nil => rfl
  | cons c rest ih =>
    rw [List.map_cons, List.splitOn_cons_eq_if_modifyHead, List.splitOn_cons_eq_if_modifyHead, ih]
    by_cases point : c = '.'
    · simp [point]
    · have other : c.toUpper ≠ '.' := mt toUpper_eq_point_iff.mp point
      cases rest.splitOn '.' <;> simp [point, other]

theorem hasDot_upper (name : String) : hasDot (upper name) = hasDot name := by
  rw [Bool.eq_iff_iff]
  simp [hasDot, upper, toUpper_eq_point_iff]

/-- Every point stays where it is. -/
theorem idxsOf_point_upper (name : String) :
    (upper name).toList.idxsOf '.' = name.toList.idxsOf '.' := by
  have same : (fun c : Char => c.toUpper == '.') = (· == '.') := by
    funext c
    rw [Bool.eq_iff_iff, beq_iff_eq, beq_iff_eq, toUpper_eq_point_iff]
  rw [upper, String.toList_ofList, List.idxsOf_map, same, List.idxsOf]

theorem segments_upper (name : String) : segments (upper name) = (segments name).map upper := by
  simp [segments, upper, splitOn_map_toUpper, Function.comp_def]

theorem dotted_upper (parts : List String) : dotted (parts.map upper) = upper (dotted parts) := by
  have point : upper "." = "." := by decide
  unfold dotted
  induction parts with
  | nil => rfl
  | cons part rest ih =>
    cases rest with
    | nil => simp
    | cons next others =>
      rw [List.map_cons, List.map_cons, String.intercalate_cons_cons, ← List.map_cons, ih,
        String.intercalate_cons_cons, upper_append, upper_append, point]

theorem fronts_map (change : α → β) (items : List α) :
    fronts (items.map change) =
      (fronts items).map fun (front, rest) => (front.map change, rest.map change) := by
  induction items with
  | nil => rfl
  | cons first rest ih => simp [fronts, ih, Function.comp_def]

end Text

namespace CasePolicy

variable {policy : CasePolicy}

theorem fold_append (first second : String) :
    policy.fold (first ++ second) = policy.fold first ++ policy.fold second := by
  cases policy with
  | sensitive => rfl
  | insensitive => exact Text.upper_append first second

theorem hasDot_fold (name : String) : Text.hasDot (policy.fold name) = Text.hasDot name := by
  cases policy with
  | sensitive => rfl
  | insensitive => exact Text.hasDot_upper name

theorem idxsOf_point_fold (name : String) :
    (policy.fold name).toList.idxsOf '.' = name.toList.idxsOf '.' := by
  cases policy with
  | sensitive => rfl
  | insensitive => exact Text.idxsOf_point_upper name

/-- Names that agree have points alike. -/
theorem hasDot_of_agree {name other : String} (agrees : policy.agree name other) :
    Text.hasDot name = Text.hasDot other := by
  rw [← policy.hasDot_fold name, agree_iff.mp agrees, hasDot_fold]

theorem segments_fold (name : String) :
    Text.segments (policy.fold name) = (Text.segments name).map policy.fold := by
  cases policy with
  | sensitive => exact (List.map_id _).symm
  | insensitive => exact Text.segments_upper name

theorem dotted_fold (parts : List String) :
    Text.dotted (parts.map policy.fold) = policy.fold (Text.dotted parts) := by
  cases policy with
  | sensitive => exact congrArg Text.dotted (List.map_id _)
  | insensitive => exact Text.dotted_upper parts

theorem lastSegment?_fold (name : String) :
    Text.lastSegment? (policy.fold name) = (Text.lastSegment? name).map policy.fold := by
  simp only [Text.lastSegment?, segments_fold]
  rcases Text.segments name with _ | ⟨first, _ | ⟨next, rest⟩⟩
  · rfl
  · rfl
  · simp only [List.map_cons]
    rw [← List.map_cons, List.getLast?_map]

/-- What another policy means by any name, this one means by the folded name. It is the same policy
or compares letter by letter. -/
def Reads (reader policy : CasePolicy) : Prop :=
  reader = policy ∨ reader = .sensitive

namespace Reads

variable {reader : CasePolicy}

theorem fold (reads : reader.Reads policy) (name : String) :
    reader.fold (policy.fold name) = policy.fold name := by
  rcases reads with rfl | rfl
  · exact fold_fold reader name
  · rfl

theorem agree (reads : reader.Reads policy) {kept : String}
    (folded : reader = policy ∨ policy.fold kept = kept) (name : String) :
    reader.agree kept (policy.fold name) = policy.agree kept name := by
  rw [Bool.eq_iff_iff, agree_iff, agree_iff]
  rcases reads with rfl | rfl
  · rw [fold_fold]
  · rcases folded with rfl | folded
    · rfl
    · rw [folded]
      rfl

theorem find? (reads : reader.Reads policy) {fields : List Field}
    (folded : reader = policy ∨ Field.renameAll policy.fold fields = fields) (name : String) :
    reader.find? (policy.fold name) fields = policy.find? name fields := by
  apply List.find?_congr
  intro field member
  apply reads.agree
  exact folded.imp_right fun kept => (Field.renamed_of_mem kept member).1

end Reads

end CasePolicy

namespace Schema

/-- The same row, read by the folded names. -/
structure Reads (reader schema : Schema) : Prop where
  name : reader.name = schema.name
  fields : reader.fields = schema.fields
  casePolicy : reader.casePolicy.Reads schema.casePolicy

namespace Reads

variable {reader schema : Schema}

theorem refl (schema : Schema) : schema.Reads schema :=
  ⟨rfl, rfl, .inl rfl⟩

theorem fold (reads : reader.Reads schema) (name : String) :
    reader.fold (schema.fold name) = schema.fold name :=
  reads.casePolicy.fold name

private theorem label (reads : reader.Reads schema) : reader.label = schema.label := by
  rw [Schema.label, Schema.label, reads.name]

private theorem columnPath (reads : reader.Reads schema) (field : Field) :
    reader.columnPath field = schema.columnPath field := by
  simp only [Schema.columnPath, reads.name]

private theorem find? (reads : reader.Reads schema) (name : String) :
    reader.casePolicy.find? (schema.fold name) reader.fields =
      schema.casePolicy.find? name schema.fields := by
  rw [reads.fields]
  exact reads.casePolicy.find? (.inr schema.folded.2) name

private theorem endingIn (reads : reader.Reads schema) (name : String) :
    reader.endingIn (schema.fold name) = schema.endingIn name := by
  rw [Schema.endingIn, Schema.endingIn, reads.fields]
  apply List.filter_congr
  intro field member
  have folded : Text.lastSegment? (schema.casePolicy.fold field.name) =
      (Text.lastSegment? field.name).map schema.casePolicy.fold :=
    CasePolicy.lastSegment?_fold field.name
  rw [(Field.renamed_of_mem schema.folded.2 member).1] at folded
  cases last : Text.lastSegment? field.name with
  | none => rfl
  | some segment =>
    rw [last, Option.map_some, Option.some.injEq] at folded
    exact reads.casePolicy.agree (.inr folded.symm) name

private theorem qualifies (reads : reader.Reads schema) (qualifier : String) :
    reader.name.any (reader.casePolicy.agree · (schema.fold qualifier)) =
      schema.name.any (schema.casePolicy.agree · qualifier) := by
  have folded := schema.folded.1
  rw [reads.name]
  cases relation : schema.name with
  | none => rfl
  | some name =>
    rw [relation, Option.map_some, Option.some.injEq] at folded
    exact reads.casePolicy.agree (.inr folded) qualifier

private theorem dotted (parts : List String) :
    Text.dotted (parts.map schema.fold) = schema.fold (Text.dotted parts) :=
  CasePolicy.dotted_fold parts

private theorem segments (name : String) :
    Text.segments (schema.fold name) = (Text.segments name).map schema.fold :=
  CasePolicy.segments_fold name

theorem column? (reads : reader.Reads schema) (name : String) :
    reader.column? (schema.fold name) = schema.column? name := by
  have folded : Text.segments (schema.fold name) = (Text.segments name).map schema.fold :=
    segments name
  cases whole : schema.casePolicy.find? name schema.fields with
  | some field =>
    have found := (reads.find? name).trans whole
    rw [column?_of_whole whole, column?_of_whole found]
  | none =>
    have missing := (reads.find? name).trans whole
    rcases parts : Text.segments name with _ | ⟨segment, _ | ⟨next, rest⟩⟩
    · exact absurd parts (Text.segments_ne_nil name)
    · rw [parts] at folded
      rw [column?_of_single whole parts, column?_of_single missing folded, reads.endingIn,
        reads.fold, reads.label]
    · rw [parts] at folded
      have behind := reads.find? (Text.dotted (next :: rest))
      rw [← dotted] at behind
      rw [column?_of_qualified whole parts, column?_of_qualified missing folded, reads.qualifies,
        ← List.map_cons, behind]

/-- Inside a type with folded names, or under the same policy, the same member is found. -/
theorem member (reads : reader.Reads schema) {parent : SqlType}
    (folded : reader.casePolicy = schema.casePolicy ∨ parent.rename schema.fold = parent)
    (field path : String) :
    reader.member parent (schema.fold field) path = schema.member parent field path := by
  cases parent with
  | struct fields =>
    have found := reads.casePolicy.find? (folded.imp_right SqlType.struct.inj) field
    simp only [Schema.member, SqlType.fields?, reads.fold]
    rw [Schema.fold, found]
  | _ => simp only [Schema.member, SqlType.fields?, reads.fold]

theorem follow (reads : reader.Reads schema) (path : String) {type : SqlType}
    (folded : type.rename schema.fold = type) (segments : List String) :
    reader.follow path type (segments.map schema.fold) = schema.follow path type segments := by
  induction segments generalizing path type with
  | nil => rfl
  | cons segment rest ih =>
    simp only [List.map_cons, Schema.follow, reads.member (.inr folded), reads.fold]
    cases entered : schema.member type segment path with
    | error cause => rfl
    | ok inner => exact ih _ ((member_part entered).rename_eq folded)

private theorem firstColumn (reads : reader.Reads schema) (name : String)
    (cuts : List (List String × List String)) :
    reader.firstColumn (schema.fold name)
        (cuts.map fun (front, rest) => (front.map schema.fold, rest.map schema.fold)) =
      schema.firstColumn name cuts := by
  induction cuts with
  | nil => simp only [List.map_nil, Schema.firstColumn, reads.fold, reads.label]
  | cons cut shorter ih =>
    obtain ⟨front, rest⟩ := cut
    simp only [List.map_cons, Schema.firstColumn, dotted, reads.column?]
    cases found : schema.column? (Text.dotted front) with
    | error cause => rfl
    | ok column =>
      cases column with
      | none => exact ih
      | some field =>
        have folded := (Field.renamed_of_mem schema.folded.2 (column?_mem found)).2
        have followed := reads.follow (schema.columnPath field) folded rest
        rw [← reads.columnPath] at followed
        simpa only [ok_bind, reads.columnPath] using followed

/-- A name and its folded form stand for the same column, with the same path or the same error. -/
theorem resolveColumn (reads : reader.Reads schema) (name : String) :
    reader.resolveColumn (schema.fold name) = schema.resolveColumn name := by
  rw [Schema.resolveColumn, segments, Text.fronts_map, reads.firstColumn, Schema.resolveColumn]

end Reads

end Schema

end QueryTyping
