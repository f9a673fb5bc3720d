import QueryTyping.Document.Expr
import QueryTyping.Proofs.Acceptance
import QueryTyping.Proofs.Reading
import QueryTyping.Proofs.Traversal

/-! What is written can be read. The document of an expression is read as this expression, however
the members of its objects are ordered. A schema comes back as well, although its row is folded and
checked again, because this changes nothing in a row that a schema holds. -/

namespace QueryTyping

open Json (ReadsAs)

theorem Span.readsAs (span : Span) : span.toJson.ReadsAs Span.ofJson span := by
  apply ReadsAs.object (by simp)
  intro others like
  have line := like.required "line" (by simp) (.below span.line.toNat_lt)
  have column := like.required "column" (by simp) (.below span.column.toNat_lt)
  have yields : (Span.form others).Yields ⟨.ofNat span.line.toNat, .ofNat span.column.toNat⟩ :=
    (line.map fun line column => Span.mk (.ofNat line) (.ofNat column)).seq column
  rw [Span.ofJson, Form.readRecord_object, yields.read like]
  simp

namespace Literal

private theorem readsAs_of_ofValue {type : String} {value : Json} {literal : Literal}
    (plain : value.isScalar) (reads : ofValue type value = .ok literal) :
    (Json.object [("type", .string type), ("value", value)]).ReadsAs Literal.ofJson literal := by
  apply ReadsAs.object (by simp)
  intro others like
  -- What the value may be is known only once the type is read.
  have unread : value.ReadsAs .ok value := .scalar plain rfl
  have tag := like.required "type" (by simp) (.name some type rfl)
  have content := like.required "value" (by simp) unread
  have yields : (form others).Yields (type, value) := (tag.map Prod.mk).seq content
  rw [Literal.ofJson, Form.readRecord_object, yields.read like, ok_bind]
  exact reads

theorem readsAs {literal : Literal}
    (finite : ∀ value, literal = .double value → value.isFinite) :
    literal.toJson.ReadsAs Literal.ofJson literal := by
  cases literal with
  | integer value =>
    apply readsAs_of_ofValue rfl
    have bounds := And.intro value.minValue_le_toInt value.toInt_le
    rw [ofValue, if_pos (by simpa using bounds), Int32.ofInt_toInt]
  | long value =>
    apply readsAs_of_ofValue rfl
    have bounds := And.intro value.minValue_le_toInt value.toInt_le
    rw [ofValue, if_pos (by simpa using bounds), Int64.ofInt_toInt]
  | double value =>
    rw [toJson, if_pos (finite value rfl)]
    exact readsAs_of_ofValue rfl rfl
  | string value => exact readsAs_of_ofValue rfl rfl
  | boolean value => exact readsAs_of_ofValue rfl rfl

end Literal

theorem Field.listOf_eq (documents : List Json) :
    Field.listOf documents = documents.mapM Field.ofJson := by
  induction documents with
  | nil => rfl
  | cons document rest ih => rw [Field.listOf, List.mapM_cons, ih]

theorem SqlType.atKey_eq (members : Json.Members) (key : String) :
    SqlType.atKey members key = members.find key SqlType.ofNestedJson := by
  induction members with
  | nil => rfl
  | cons member rest ih => rw [SqlType.atKey, Json.Members.find_cons, ih]

theorem Field.listAt_eq (members : Json.Members) (key : String) :
    Field.listAt members key = members.find key (Json.readList Field.ofJson) := by
  induction members with
  | nil => rfl
  | cons member rest ih =>
    obtain ⟨name, document⟩ := member
    rw [Json.Members.find_cons, ← ih]
    cases document with
    | array documents => rw [Field.listAt, Field.listOf_eq, Json.readList]
    | _ => rfl

theorem SqlType.members_distinct (type : SqlType) : (type.members.map Prod.fst).Nodup := by
  cases type <;> simp [SqlType.members]

/-- Every member belongs to the type or stands beside it, so that a closed form accepts it. -/
theorem SqlType.keys_beside {type : SqlType} {keys : List String} {beside : Json.Members}
    (own : type.members.map Prod.fst = "type" :: keys) :
    (beside ++ type.members).map Prod.fst ⊆ keys ++ "type" :: beside.map Prod.fst := by
  intro key listed
  rw [List.map_append, own] at listed
  simp only [List.mem_append, List.mem_cons] at listed ⊢
  tauto

theorem SqlType.readsAs_of_members {type : SqlType}
    (reads : ∀ others, type.members.Like others →
      SqlType.ofMembers [] others (SqlType.atKey others) (Field.listAt others "fields") = .ok type) :
    (Json.object type.members).ReadsAs SqlType.ofNestedJson type := by
  apply ReadsAs.object type.members_distinct
  intro others like
  rw [SqlType.ofNestedJson, reads others like]

theorem Field.readsAs_of_members {name : String} {type : SqlType} {nullable : Bool}
    (reads : ∀ others, Json.Members.Like
        (("name", .string name) :: ("nullable", .bool nullable) :: type.members) others →
      SqlType.ofMembers ["name", "nullable"] others (SqlType.atKey others)
        (Field.listAt others "fields") = .ok type) :
    (Json.object (("name", .string name) :: ("nullable", .bool nullable) :: type.members)).ReadsAs
      Field.ofJson ⟨name, type, nullable⟩ := by
  apply ReadsAs.object
  · cases type <;> simp [SqlType.members]
  intro others like
  have label := like.required "name" (by simp) (.string name)
  have flag := like.given "nullable" true (by simp) (.bool nullable)
  have read := ((label.map Prod.mk).seq flag).read like
  rw [Field.ofJson, reads others like, Field.ofMembers]
  simp only [read]
  rfl

/-- What the form of its kind yields is the type, whether it passes over other members or not. -/
theorem SqlType.ofMembers_of_yields {type : SqlType} {kind : String} {beside others : Json.Members}
    (like : (beside ++ type.members).Like others) (named : ("type", .string kind) ∈ type.members)
    (yields : (form kind (others.find · ofNestedJson)
      (others.find "fields" (Json.readList Field.ofJson))).Yields type)
    (own : type.members.map Prod.fst = "type" :: (form kind (others.find · ofNestedJson)
      (others.find "fields" (Json.readList Field.ofJson))).keys) :
    SqlType.ofMembers (beside.map Prod.fst) others (SqlType.atKey others)
      (Field.listAt others "fields") = .ok type := by
  rw [ofMembers, like.only? "type" kind (List.mem_append_right beside named),
    funext (atKey_eq others), Field.listAt_eq, Option.bind_some, Json.nestedTag?]
  dsimp only
  split
  · exact yields.read like
  · exact yields.readClosed like (keys_beside own)

mutual

/-- The members of a type are read as this type, also when they stand beside others: a field holds
the members of its type beside its own, and every other type stands alone. -/
theorem SqlType.ofMembers_of_like (beside others : Json.Members) : (type : SqlType) →
    (beside ++ type.members).Like others →
    SqlType.ofMembers (beside.map Prod.fst) others (SqlType.atKey others)
      (Field.listAt others "fields") = .ok type
  | .array items, like => by
    have inner := SqlType.readsAs_of_members fun others =>
      SqlType.ofMembers_of_like [] others items
    have form := like.required "items" (by simp [SqlType.members]) inner
    apply SqlType.ofMembers_of_yields like List.mem_cons_self (form.map SqlType.array)
    simp [SqlType.members, SqlType.form]
  | .map key value, like => by
    have first := SqlType.readsAs_of_members fun others =>
      SqlType.ofMembers_of_like [] others key
    have second := SqlType.readsAs_of_members fun others =>
      SqlType.ofMembers_of_like [] others value
    have keys := like.required "key" (by simp [SqlType.members]) first
    have values := like.required "value" (by simp [SqlType.members]) second
    have form := (keys.map SqlType.map).seq values
    apply SqlType.ofMembers_of_yields like List.mem_cons_self form
    simp [SqlType.members, SqlType.form]
  | .struct fields, like => by
    have inner := ReadsAs.list (Field.documents_readAs fields)
    have form := like.required "fields" (by simp [SqlType.members]) inner
    apply SqlType.ofMembers_of_yields like List.mem_cons_self (form.map SqlType.struct)
    simp [SqlType.members, SqlType.form]
  | .int32, like | .int64, like | .float64, like | .string, like | .boolean, like =>
    SqlType.ofMembers_of_yields like List.mem_cons_self ⟨rfl, rfl⟩ rfl

theorem Field.documents_readAs : (fields : List Field) →
    List.Forall₂ (ReadsAs · Field.ofJson) (Field.documents fields) fields
  | [] => .nil
  | ⟨name, type, nullable⟩ :: rest =>
    have here := Field.readsAs_of_members fun others =>
      SqlType.ofMembers_of_like [("name", .string name), ("nullable", .bool nullable)] others type
    .cons here (Field.documents_readAs rest)

end

theorem ArithmeticOp.named_name (op : ArithmeticOp) : named op.name = some op := by
  cases op <;> rfl

theorem ComparisonOp.named_name (op : ComparisonOp) : named op.name = some op := by
  cases op <;> rfl

theorem LogicalOp.named_name (op : LogicalOp) : named op.name = some op := by
  cases op <;> rfl

theorem CasePolicy.named_name (policy : CasePolicy) : named policy.name = some policy := by
  cases policy <;> rfl

/-- Nothing in the row of a schema is changed or refused when it is built again. -/
theorem Schema.readsAs (schema : Schema) : schema.toJson.ReadsAs Schema.ofNestedJson schema := by
  apply ReadsAs.object
  · split <;> simp
  intro others like
  have name : (Form.optional "name" none
      (others.find "name" (Json.readNullable Json.readString))).Yields schema.name := by
    apply like.ifAny "name" Json.string
    · intro name named
      simp [named]
    · intro unnamed
      simp [unnamed]
    · exact fun name => .nullable (.string name) nofun
  have inner := ReadsAs.list (Field.documents_readAs schema.fields)
  have fields := like.required "fields" (by split <;> simp) inner
  have policy := like.given "caseSensitivity" default (by split <;> simp)
    (.name CasePolicy.named schema.casePolicy.name schema.casePolicy.named_name)
  have row : (Schema.rowForm CasePolicy.ofNestedJson others).Yields
      (schema.name, schema.fields, schema.casePolicy) :=
    ((name.map fun name fields policy => (name, fields, policy)).seq fields).seq policy
  rw [ofNestedJson, ofRow, Form.readClosedRecord_object, row.readClosed like, ok_bind]
  · exact congrArg (Except.mapError Refusal.schema) schema.build_self
  · simp only [rowForm, Form.seq_keys, Form.map_keys, Form.optional_keys, Form.required_keys]
    split <;> simp

namespace Expr

/-- Every double among the literals of the expression is a finite number. -/
inductive Finite : Expr → Prop where
  | node {expr : Expr}
      (here : ∀ span value, expr = literal span (.double value) → value.isFinite)
      (inside : ∀ operand ∈ expr.operands, operand.Finite) : Finite expr

theorem listOf_eq (documents : List Json) : listOf documents = documents.mapM ofNestedJson := by
  induction documents with
  | nil => rfl
  | cons document rest ih => rw [listOf, List.mapM_cons, ih]

theorem atKey_eq (members : Json.Members) (key : String) :
    atKey members key = members.find key ofNestedJson := by
  induction members with
  | nil => rfl
  | cons member rest ih => rw [atKey, Json.Members.find_cons, ih]

theorem listAt_eq (members : Json.Members) (key : String) :
    listAt members key = members.find key (Json.readList ofNestedJson) := by
  induction members with
  | nil => rfl
  | cons member rest ih =>
    obtain ⟨name, document⟩ := member
    rw [Json.Members.find_cons, ← ih]
    cases document with
    | array documents => rw [listAt, listOf_eq, Json.readList]
    | _ => rfl

variable {kind : String} {span : Option Span} {rest others : Json.Members}

theorem head_distinct (fresh : ("kind" :: "span" :: rest.map Prod.fst).Nodup) :
    ((head kind span ++ rest).map Prod.fst).Nodup := by
  cases span with
  | some => exact fresh
  | none => exact fresh.sublist (by simp [head])

theorem span_of_like (like : (head kind span ++ rest).Like others)
    (fresh : "span" ∉ rest.map Prod.fst) :
    (Form.optional "span" none (others.find "span" (Json.readNullable Span.ofJson))).Yields
      span := by
  apply like.ifAny "span" Span.toJson
  · intro position placed
    simp [head, placed]
  · intro unplaced
    simpa [head, unplaced] using fresh
  · exact fun position => position.readsAs.nullable nofun

/-- A node is read by the form of its kind, inside another node and alone. The position is the same
for all kinds. -/
theorem readsAs_of_form {expr : Expr} (fresh : ("kind" :: "span" :: rest.map Prod.fst).Nodup)
    (yields : ∀ others, (head kind span ++ rest).Like others →
      (Form.optional "span" none (others.find "span" (Json.readNullable Span.ofJson))).Yields
        span →
      (form kind others (others.find · ofNestedJson)
        (others.find · (Json.readList ofNestedJson))).Yields expr) :
    (Json.object (head kind span ++ rest)).ReadsAs ofNestedJson expr ∧
      (Json.object (head kind span ++ rest)).ReadsAs ofJson expr := by
  have tagged {others : Json.Members} (like : (head kind span ++ rest).Like others) :
      others.only? "kind" = some (.string kind) := like.only? "kind" kind (by simp [head])
  have nested : (Json.object (head kind span ++ rest)).ReadsAs ofNestedJson expr := by
    apply ReadsAs.object (head_distinct fresh)
    intro others like
    have unplaced : "span" ∉ rest.map Prod.fst :=
      (List.nodup_cons.mp (List.nodup_cons.mp fresh).2).1
    rw [ofNestedJson, tagged like, funext (atKey_eq others), funext (listAt_eq others)]
    exact (yields others like (span_of_like like unplaced)).read like
  refine ⟨nested, ?_⟩
  intro document reordered
  obtain ⟨others, rfl, like⟩ := reordered.members (head_distinct fresh)
  rw [ofJson, Json.tag?, tagged like]
  exact nested _ reordered

theorem documents_eq (exprs : List Expr) : documents exprs = exprs.map toJson := by
  induction exprs with
  | nil => rfl
  | cons expr rest ih => rw [documents, List.map_cons, ih]

theorem documents_readAs (exprs : List Expr)
    (each : ∀ expr ∈ exprs, expr.toJson.ReadsAs ofNestedJson expr) :
    (Json.array (documents exprs)).ReadsAs (Json.readList ofNestedJson) exprs := by
  apply ReadsAs.list
  rw [documents_eq, List.forall₂_map_left_iff, List.forall₂_same]
  exact each

theorem column_readsAs (span : Option Span) (qualifier : Option String) (name : String) :
    (column span qualifier name).toJson.ReadsAs ofNestedJson (column span qualifier name) ∧
      (column span qualifier name).toJson.ReadsAs ofJson (column span qualifier name) := by
  -- As one list behind the head, so that the node has the shape of all the others.
  let relation : Json.Members :=
    qualifier.toList.map fun relation => ("qualifier", .string relation)
  have layout : (column span qualifier name).toJson =
      .object (head "column" span ++ (relation ++ [("name", .string name)])) := by
    cases qualifier <;> simp [toJson, relation]
  rw [layout]
  apply readsAs_of_form (by cases qualifier <;> simp [relation])
  intro others like place
  have table : (Form.optional "qualifier" none
      (others.find "qualifier" (Json.readNullable Json.readString))).Yields qualifier := by
    apply like.ifAny "qualifier" Json.string
    · rintro table rfl
      simp [relation]
    · rintro rfl
      cases span <;> simp [head, relation]
    · exact fun table => .nullable (.string table) nofun
  have label := like.required "name" (by simp) (.string name)
  rw [form]
  exact ((place.map column).seq table).seq label

theorem readsAs {expr : Expr} (finite : expr.Finite) :
    expr.toJson.ReadsAs ofNestedJson expr ∧ expr.toJson.ReadsAs ofJson expr := by
  induction expr using Expr.induction with
  | step expr ih =>
    obtain ⟨here, inside⟩ := finite
    have operand : ∀ operand ∈ expr.operands, operand.toJson.ReadsAs ofNestedJson operand :=
      fun operand member => (ih operand member (inside operand member)).1
    cases expr with
    | literal span value =>
      have plain : ∀ number, value = .double number → number.isFinite := by
        rintro number rfl
        exact here span number rfl
      apply readsAs_of_form (by simp)
      intro others like place
      have constant := like.required "value" (by simp) (Literal.readsAs plain)
      rw [form]
      exact (place.map literal).seq constant
    | column span qualifier name => exact column_readsAs span qualifier name
    | arithmetic span op left right =>
      apply readsAs_of_form (by simp)
      intro others like place
      have operator := like.required "op" (by simp) (.name ArithmeticOp.named op.name op.named_name)
      have first := like.required "left" (by simp) (operand left (by simp [operands]))
      have second := like.required "right" (by simp) (operand right (by simp [operands]))
      rw [form]
      exact (((place.map arithmetic).seq operator).seq first).seq second
    | comparison span op left right =>
      apply readsAs_of_form (by simp)
      intro others like place
      have operator := like.required "op" (by simp) (.name ComparisonOp.named op.name op.named_name)
      have first := like.required "left" (by simp) (operand left (by simp [operands]))
      have second := like.required "right" (by simp) (operand right (by simp [operands]))
      rw [form]
      exact (((place.map comparison).seq operator).seq first).seq second
    | like span op value pattern =>
      apply readsAs_of_form (by simp)
      intro others like place
      have first := like.required "value" (by simp) (operand value (by simp [operands]))
      have second := like.required "pattern" (by simp) (operand pattern (by simp [operands]))
      cases op with
      | like => exact ((place.map (Expr.like · .like)).seq first).seq second
      | notLike => exact ((place.map (Expr.like · .notLike)).seq first).seq second
    | logical span op operands =>
      apply readsAs_of_form (by simp)
      intro others like place
      have operator := like.required "op" (by simp) (.name LogicalOp.named op.name op.named_name)
      have list := like.required "operands" (by simp) (documents_readAs operands operand)
      rw [form]
      exact ((place.map logical).seq operator).seq list
    | call span function arguments =>
      apply readsAs_of_form (by simp)
      intro others like place
      have label := like.required "name" (by simp) (.string function)
      have list := like.given "args" [] (by simp) (documents_readAs arguments operand)
      rw [form]
      exact ((place.map call).seq label).seq list
    | fieldAccess span base field =>
      apply readsAs_of_form (by simp)
      intro others like place
      have whole := like.required "base" (by simp) (operand base (by simp [operands]))
      have label := like.required "field" (by simp) (.string field)
      rw [form]
      exact ((place.map fieldAccess).seq whole).seq label
    | subscript span base index =>
      apply readsAs_of_form (by simp)
      intro others like place
      have whole := like.required "base" (by simp) (operand base (by simp [operands]))
      have key := like.required "index" (by simp) (operand index (by simp [operands]))
      rw [form]
      exact ((place.map subscript).seq whole).seq key
    | subquery span schema =>
      apply readsAs_of_form (by simp)
      intro others like place
      have row := like.required "schema" (by simp) schema.readsAs
      rw [form]
      exact (place.map subquery).seq row

/-- Every expression is read back from its document, and from the same document with the members of
its objects in another order. -/
theorem ofJson_toJson (expr : Expr) (finite : expr.Finite) :
    ofJson expr.toJson = .ok expr ∧
      ∀ document, expr.toJson.Reordered document → ofJson document = .ok expr :=
  ⟨(readsAs finite).2 expr.toJson .same, (readsAs finite).2⟩

def ratedLines : Schema where
  name := some "LINES"
  fields :=
    [⟨"ITEMS", .array (.struct [⟨"QTY", .int32, false⟩, ⟨"RATES", .map .string .float64, true⟩]),
      true⟩]
  casePolicy := .insensitive
  folded := by decide
  accepted := by decide

/-- `ROUND(l.price * 0.75) >= (SELECT LINES)` -/
def discountedPrice : Expr :=
  let price := .column (some ⟨1, 7⟩) (some "l") "price"
  let rounded := call (some ⟨1, 1⟩) "ROUND"
    [.arithmetic none .mul price (.literal (some ⟨1, 17⟩) (.double 0.75))]
  .comparison (some ⟨1, 23⟩) .ge rounded (.subquery none ratedLines)

theorem discountedPrice_ofJson_toJson :
    discountedPrice.Finite ∧ ofJson discountedPrice.toJson = .ok discountedPrice ∧
      ∀ document, discountedPrice.toJson.Reordered document →
        ofJson document = .ok discountedPrice := by
  have factor : (literal (some ⟨1, 17⟩) (.double 0.75)).Finite := by
    refine .node ?_ (List.forall_mem_nil _)
    rintro _ _ ⟨⟩
    decide
  have price : (column (some ⟨1, 7⟩) (some "l") "price").Finite :=
    .node nofun (List.forall_mem_nil _)
  have rows : (subquery none ratedLines).Finite := .node nofun (List.forall_mem_nil _)
  have product : (arithmetic none .mul (.column (some ⟨1, 7⟩) (some "l") "price")
      (.literal (some ⟨1, 17⟩) (.double 0.75))).Finite :=
    .node nofun (List.forall_mem_cons.mpr ⟨price, List.forall_mem_singleton.mpr factor⟩)
  have rounded : (call (some ⟨1, 1⟩) "ROUND" [_]).Finite :=
    .node nofun (List.forall_mem_singleton.mpr product)
  have finite : discountedPrice.Finite :=
    .node nofun (List.forall_mem_cons.mpr ⟨rounded, List.forall_mem_singleton.mpr rows⟩)
  exact ⟨finite, ofJson_toJson discountedPrice finite⟩

end Expr

end QueryTyping
