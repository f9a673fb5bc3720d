import QueryTyping.Proofs.UndottedColumns

/-! Columns behind the name of their relation. A name is cut at its first point to find the relation
in front of it, so that every column is found behind a relation's name without points, whatever its
own name is. A relation's name with a point is never found, although the paths that diagnostics show
begin with it. -/

namespace QueryTyping.Schema

variable {schema : Schema} {relation qualifier name : String} {field : Field}

/-- A name that stands for a column as a whole is not looked into. -/
theorem resolveColumn_of_column? (whole : schema.column? name = .ok (some field)) :
    schema.resolveColumn name =
      .ok { path := schema.columnPath field, type := field.type } := by
  obtain ⟨shorter, first⟩ := Text.fronts_eq_cons (Text.segments_ne_nil name)
  rw [resolveColumn, first, firstColumn, Text.dotted_segments, whole]
  rfl

/-- The only part of a name that is compared with the relation's is a segment, and has no point. -/
theorem column?_qualified (called : schema.name = some relation)
    (spelled : schema.casePolicy.agree relation qualifier) (named : schema.Named name field)
    (free : ∀ other, ¬ schema.Named (qualifier ++ "." ++ name) other) :
    schema.column? (qualifier ++ "." ++ name) =
      .ok (if Text.hasDot relation then none else some field) := by
  have parts := Text.segments_append_point qualifier name
  have missing := unnamed_iff.mp free
  by_cases dotted : Text.hasDot relation
  · obtain ⟨first, more, front⟩ := List.exists_cons_of_ne_nil (Text.segments_ne_nil qualifier)
    obtain ⟨next, rest, behind⟩ := List.exists_cons_of_ne_nil
      (List.append_ne_nil_of_right_ne_nil more (Text.segments_ne_nil name))
    have other : ¬ schema.name.any (schema.casePolicy.agree · first) := by
      rw [called, Option.any_some]
      intro agrees
      have inside : first ∈ Text.segments qualifier := front ▸ List.mem_cons_self
      rw [CasePolicy.hasDot_of_agree agrees, Text.hasDot_of_mem_segments inside] at dotted
      cases dotted
    rw [front, List.cons_append, behind] at parts
    rw [column?_of_qualified missing parts, if_neg other, if_pos dotted]
  · obtain ⟨next, rest, behind⟩ := List.exists_cons_of_ne_nil (Text.segments_ne_nil name)
    have undotted : Text.hasDot qualifier = false := by
      rw [← CasePolicy.hasDot_of_agree spelled]
      exact Bool.eq_false_iff.mpr dotted
    have qualifies : schema.name.any (schema.casePolicy.agree · qualifier) := by
      rwa [called, Option.any_some]
    rw [Text.segments_of_undotted undotted, List.singleton_append, behind] at parts
    rw [column?_of_qualified missing parts, if_pos qualifies, ← behind, Text.dotted_segments,
      named_iff.mp named, if_neg dotted]

/-- A column is found behind its relation's name, however the two are spelled, unless another column
has the whole as its name. The relation's name must have no point, and the column's may have some. A
path that shows both names is one of these spellings. -/
theorem resolveColumn_qualified (called : schema.name = some relation)
    (undotted : ¬ Text.hasDot relation) (spelled : schema.casePolicy.agree relation qualifier)
    (named : schema.Named name field)
    (free : ∀ other, ¬ schema.Named (qualifier ++ "." ++ name) other) :
    schema.resolveColumn (qualifier ++ "." ++ name) =
        .ok { path := schema.columnPath field, type := field.type } ∧
      (¬ Text.hasDot field.name → schema.resolveColumn (schema.columnPath field) =
        .ok { path := schema.columnPath field, type := field.type }) := by
  constructor
  · apply resolveColumn_of_column?
    rw [column?_qualified called spelled named free, if_neg undotted]
  · intro own
    have path : schema.columnPath field = relation ++ "." ++ field.name := by
      simp only [columnPath, called, if_neg own]
    have itself : schema.casePolicy.agree relation relation := CasePolicy.agree_iff.mpr rfl
    have kept : schema.Named field.name field := ⟨named.1, CasePolicy.agree_iff.mpr rfl⟩
    have folded : schema.casePolicy.fold (relation ++ "." ++ field.name) =
        schema.casePolicy.fold (qualifier ++ "." ++ name) := by
      simp only [CasePolicy.fold_append, CasePolicy.agree_iff.mp spelled,
        CasePolicy.agree_iff.mp named.2]
    have unnamed : ∀ other, ¬ schema.Named (relation ++ "." ++ field.name) other := by
      intro other taken
      refine free other ⟨taken.1, ?_⟩
      rw [CasePolicy.agree_iff, ← folded]
      exact CasePolicy.agree_iff.mp taken.2
    apply resolveColumn_of_column?
    rw [path, column?_qualified called itself kept unnamed, if_neg undotted]

/-- Columns that were joined from two sources keep the names of these. -/
def joinedOrders : Schema where
  name := some "ORDERS"
  fields := [
    { name := "LEFT.CODE", type := .string },
    { name := "RIGHT.CODE", type := .int64 }]
  casePolicy := .insensitive
  folded := by decide
  accepted := rfl

/-- Case is ignored, and the name of the column itself has a point. -/
theorem rightCode_qualified :
    joinedOrders.name = some "ORDERS" ∧ ¬ Text.hasDot "ORDERS" ∧
    joinedOrders.casePolicy.agree "ORDERS" "orders" ∧
    joinedOrders.Named "Right.Code" { name := "RIGHT.CODE", type := .int64 } ∧
    (∀ other, ¬ joinedOrders.Named ("orders" ++ "." ++ "Right.Code") other) ∧
    joinedOrders.resolveColumn ("orders" ++ "." ++ "Right.Code") =
      .ok ⟨"RIGHT.CODE", .int64⟩ := by
  have undotted : ¬ Text.hasDot "ORDERS" := by decide
  have spelled : joinedOrders.casePolicy.agree "ORDERS" "orders" := rfl
  have named : joinedOrders.Named "Right.Code" { name := "RIGHT.CODE", type := .int64 } :=
    named_iff.mpr rfl
  have free : ∀ other, ¬ joinedOrders.Named ("orders" ++ "." ++ "Right.Code") other :=
    unnamed_iff.mpr rfl
  exact ⟨rfl, undotted, spelled, named, free,
    (resolveColumn_qualified rfl undotted spelled named free).1⟩

/-- The relation's name has a point. -/
def shopOrders : Schema where
  name := some "SHOP.ORDERS"
  fields := [{ name := "ID", type := .int32 }]
  casePolicy := .insensitive
  folded := by decide
  accepted := rfl

/-- Not every column is found behind its relation's name. The path of `ID` is `SHOP.ORDERS.ID`, but
this name means nothing. -/
theorem not_always_qualified :
    ¬ ∀ (schema : Schema) (relation : String) (field : Field), schema.name = some relation →
      field ∈ schema.fields →
      (∀ other, ¬ schema.Named (relation ++ "." ++ field.name) other) →
      schema.resolveColumn (relation ++ "." ++ field.name) =
        .ok { path := schema.columnPath field, type := field.type } := by
  intro always
  have free : ∀ other, ¬ shopOrders.Named "SHOP.ORDERS.ID" other := unnamed_iff.mpr rfl
  have found := always shopOrders "SHOP.ORDERS" { name := "ID", type := .int32 } rfl
    List.mem_cons_self free
  have refused : shopOrders.resolveColumn "SHOP.ORDERS.ID" =
      .error (.fieldNotFound "SHOP.ORDERS.ID" "SHOP.ORDERS") := rfl
  cases refused.symm.trans found

end QueryTyping.Schema
