import QueryTyping.Proofs.DeclaredArguments
import QueryTyping.Proofs.Qualification
import QueryTyping.Proofs.RegisteredNames
import QueryTyping.Proofs.Spellings
import QueryTyping.Proofs.TypeTexts

/-! One document of a type, in a row and in a catalog. Both read the same type from it, but only the
row folds the names inside. A function with a parameter of exactly this type therefore takes the
column if folding changes no name, and only then. -/

namespace QueryTyping

/-- One of the overloads of a function has a single parameter, which is of exactly one type. -/
def Json.DeclaresExact (catalog : Json) (function : String) (type : Json) : Prop :=
  ∃ declaration ∈ catalog.functions,
    declaration.part? functionKeys "name" = some (.string function) ∧
    ∃ usage ∈ declaration.items functionKeys "signatures",
      ∃ param, usage.items usageKeys "params" = [param] ∧
        param.tag? "kind" = some (.string "exact") ∧
        param.untagged.part? ["type"] "type" = some type

mutual

/-- Renaming leaves a type alone if it leaves the names in it alone. -/
theorem SqlType.rename_eq_self_iff {change : String → String} : (type : SqlType) →
    (type.rename change = type ↔ ∀ name ∈ type.fieldNames, change name = name)
  | .array items => by
    rw [SqlType.rename, SqlType.fieldNames, SqlType.array.injEq]
    exact SqlType.rename_eq_self_iff items
  | .map key value => by
    rw [SqlType.rename, SqlType.fieldNames, SqlType.map.injEq, List.forall_mem_append,
      SqlType.rename_eq_self_iff key, SqlType.rename_eq_self_iff value]
  | .struct fields => by
    rw [SqlType.rename, SqlType.fieldNames, SqlType.struct.injEq]
    exact Field.renameAll_eq_self_iff fields
  | .int32 | .int64 | .float64 | .string | .boolean => by
    simp [SqlType.rename, SqlType.fieldNames]

theorem Field.renameAll_eq_self_iff {change : String → String} : (fields : List Field) →
    (Field.renameAll change fields = fields ↔
      ∀ name ∈ Field.allNames fields, change name = name)
  | [] => by simp [Field.renameAll, Field.allNames]
  | ⟨name, type, nullable⟩ :: rest => by
    rw [Field.renameAll, Field.allNames, List.cons.injEq, Field.mk.injEq, List.forall_mem_cons,
      List.forall_mem_append, SqlType.rename_eq_self_iff type, Field.renameAll_eq_self_iff rest]
    tauto

end

/-- A type with other names is another type, which is not promoted to the first one. -/
theorem SqlType.rename_promotes_iff {type : SqlType} {change : String → String} :
    (type.rename change).promotes type ↔ type.rename change = type := by
  rw [promotes_iff]
  constructor
  · intro promotes
    by_cases composite : type.isComposite
    · generalize type.rename change = renamed at promotes
      cases promotes with
      | same => rfl
      | _ => cases composite
    · exact rename_of_scalar composite
  · intro same
    rw [same]
    exact .same type

theorem Signature.accepts_exact_iff {signature : Signature} {shape argument : SqlType}
    (single : signature.params = [.exact shape]) :
    signature.accepts [argument] ↔ argument.promotes shape := by
  unfold accepts
  rw [single]
  split <;> simp [acceptsEach, Param.accepts]

theorem Schema.resolveColumn_of_mem {schema : Schema} {field : Field} {name : String}
    (listed : field ∈ schema.fields) (agrees : schema.casePolicy.agree field.name name) :
    schema.resolveColumn name = .ok { path := schema.columnPath field, type := field.type } :=
  resolveColumn_of_column? (column?_of_whole (find?_eq_some_iff.mpr ⟨listed, agrees⟩))

namespace Registry

variable {catalog : Json} {registry : Registry}

/-- A registry of a catalog is a log of the signatures that the catalog declares. -/
theorem logs_of_extendDocument (taken : empty.extendDocument catalog = .ok registry) :
    ∃ declarations signatures, Declarations.ofJson catalog = .ok declarations ∧
      List.Forall₂ (fun overload signature => Overload.signature overload = .ok signature)
        declarations.overloads signatures ∧ registry.Logs signatures := by
  unfold extendDocument extendWith at taken
  cases declared : Declarations.ofJson catalog with
  | error refusal =>
    rw [declared] at taken
    cases taken
  | ok declarations =>
    simp only [declared] at taken
    obtain ⟨signatures, accepts, registered⟩ := signatures_of_extend taken
    exact ⟨declarations, signatures, rfl, accepts.made, Logs.empty.registerAll registered⟩

end Registry

theorem Overload.not_isCustom_of_ofJson {catalog : Json} {declarations : Declarations}
    (taken : Declarations.ofJson catalog = .ok declarations) {overload : Overload}
    (listed : overload ∈ declarations.overloads) : ¬ overload.usage.returns.isCustom := by
  obtain ⟨function, declared, member⟩ := List.mem_flatMap.mp listed
  obtain ⟨usage, used, rfl⟩ := List.mem_map.mp member
  obtain ⟨_, _, whole⟩ := related_of_mem (Declarations.of_ofJson taken) declared
  obtain ⟨_, _, part⟩ := related_of_mem (FunctionDeclaration.of_ofJson whole).2 used
  exact (Usage.of_ofJson part).2

theorem Registry.plain_of_extendDocument {catalog : Json} {registry : Registry}
    (taken : empty.extendDocument catalog = .ok registry) : registry.toCatalog.Plain := by
  obtain ⟨declarations, signatures, declared, made, logs⟩ := logs_of_extendDocument taken
  intro function arguments signature found
  have kept : registry.lookup function arguments = some signature := found
  rw [logs.reflects.lookup] at kept
  obtain ⟨overload, listed, built⟩ := related_of_mem made (List.mem_of_find?_eq_some kept)
  rw [(Signature.of_build built).2.2.2]
  exact Overload.not_isCustom_of_ofJson declared listed

/-- A declared parameter of exactly one type is read as this type. -/
theorem Overload.exists_of_declaresExact {catalog type : Json} {declarations : Declarations}
    {function : String} (taken : Declarations.ofJson catalog = .ok declarations)
    (declared : catalog.DeclaresExact function type) :
    ∃ overload ∈ declarations.overloads, ∃ shape, overload.name = function ∧
      SqlType.ofNestedJson type = .ok shape ∧ overload.usage.params = [.exact shape] := by
  obtain ⟨declaration, inside, named, document, used, param, single, kind, given⟩ := declared
  obtain ⟨made, member, whole⟩ := related_of_mem (Declarations.of_ofJson taken).flip inside
  obtain ⟨label, usages⟩ := FunctionDeclaration.of_ofJson whole
  obtain ⟨usage, listed, part⟩ := related_of_mem usages.flip used
  have params := (Usage.of_ofJson part).1
  rw [single] at params
  obtain ⟨read, _, here, none, same⟩ := List.forall₂_cons_left_iff.mp params
  cases none
  obtain ⟨shape, described, rfl⟩ := Param.of_ofJson_exact here kind given
  refine ⟨⟨made.name, made.description, usage⟩, ?_, shape, ?_, described, same⟩
  · exact List.mem_flatMap.mpr ⟨made, member, List.mem_map_of_mem listed⟩
  · simpa using label.symm.trans named

theorem Field.mem_renameAll (change : String → String) {fields : List Field} {field : Field}
    (member : field ∈ fields) :
    ⟨change field.name, field.type.rename change, field.nullable⟩ ∈
      Field.renameAll change fields := by
  induction fields with
  | nil => cases member
  | cons first rest ih =>
    obtain ⟨name, type, nullable⟩ := first
    rw [renameAll]
    rcases List.mem_cons.mp member with rfl | behind
    · exact List.mem_cons_self
    · exact List.mem_cons_of_mem _ (ih behind)

/-- A column is found under its own name, and has the type that its document describes with all names
in it folded. -/
theorem Schema.resolveColumn_of_ofJson {row : Json} {schema : Schema}
    (loaded : Schema.ofJson row = .ok schema) {column : Json.Members} {type : Json} {name : String}
    {shape : SqlType} (listed : .object column ∈ row.columns)
    (named : column.lookup "name" = some (.string name)) (described : column.Describes type)
    (read : SqlType.ofNestedJson type = .ok shape) :
    ∃ path, schema.resolveColumn name =
      .ok { path, type := shape.rename schema.casePolicy.fold } := by
  obtain ⟨fields, each, folded⟩ := Schema.of_ofJson loaded
  obtain ⟨field, member, taken⟩ := related_of_mem each.flip listed
  obtain ⟨label, beside⟩ := Field.of_ofJson taken
  obtain ⟨members, whole, common⟩ := described
  have same : field.type = shape := SqlType.eq_of_spelled (SqlType.spelled_of_ofMembers beside)
    (SqlType.spelled_of_ofNestedJson read whole) common
  have kept : ⟨schema.casePolicy.fold field.name, field.type.rename schema.casePolicy.fold,
      field.nullable⟩ ∈ schema.fields := by
    rw [folded]
    exact Field.mem_renameAll _ member
  have agrees : schema.casePolicy.agree (schema.casePolicy.fold field.name) name := by
    cases label.symm.trans named
    exact CasePolicy.agree_iff.mpr (CasePolicy.fold_fold _ _)
  have found := Schema.resolveColumn_of_mem kept agrees
  rw [same] at found
  exact ⟨_, found⟩

namespace Environment

variable {environment : Environment} {name : String} {found : ResolvedColumn}

/-- A column that is found has its type, unless it stands too deep. -/
theorem inferAt_column_cases (depth : Nat) (place : Option Span)
    (resolved : environment.schema.resolveColumn name = .ok found) :
    environment.inferAt depth (.column place none name) = .ok found.type ∨
      ∃ error, environment.inferAt depth (.column place none name) = .error error ∧
        error.kind = .nestingTooDeep := by
  by_cases within : depth ≤ environment.options.maxDepth
  · have known : environment.schema.resolveColumn (Expr.qualifiedName none name) = .ok found :=
      resolved
    rw [environment.inferAt_eq _ within]
    simp only [Expr.visited, Expr.operands, inferAll, ok_bind, conclude, known]
    exact .inl rfl
  · exact .inr ⟨_, environment.inferAt_too_deep _ (Nat.not_le.mp within), rfl⟩

/-- Where a call of a column finds no overload, the catalog has none for the type of the column. -/
theorem resolve_of_call {span place : Option Span} {function : String}
    (resolved : environment.schema.resolveColumn name = .ok found) {error : TypeError}
    (failed : environment.infer (.call span function [.column place none name]) = .error error)
    (kind : error.kind = .noMatchingSignature) :
    ∃ inner, environment.catalog.resolve function [found.type] = .error inner ∧
      inner.kind = .noMatchingSignature := by
  by_cases within : 1 ≤ environment.options.maxDepth
  · rw [infer, environment.inferAt_eq _ within] at failed
    obtain ⟨inner, raised, rfl⟩ := mapError_eq_error_iff.mp failed
    rw [TypeError.locate_kind] at kind
    simp only [Expr.visited, Expr.operands, inferAll, bind_assoc, ok_bind, pure_bind, conclude]
      at raised
    rcases environment.inferAt_column_cases 2 place resolved with typed | ⟨deep, failed, other⟩
    · rw [typed] at raised
      exact ⟨inner, raised, kind⟩
    · rw [failed] at raised
      cases raised
      cases other.symm.trans kind
  · rw [infer, environment.inferAt_too_deep _ (Nat.not_le.mp within)] at failed
    cases failed
    cases kind

/-- One document of a type describes a column of a row and the only parameter of a function, each of
them in any spelling. Both are read as the same type, but for the names inside, which the row folds.
If folding changes none of them, the function takes the column, and its overload takes it in no other
case. -/
theorem infer_column_of_declared {row catalog type : Json} {column : Json.Members}
    {schema : Schema} {registry : Registry} {name function : String}
    (loaded : Schema.ofJson row = .ok schema) (listed : .object column ∈ row.columns)
    (named : column.lookup "name" = some (.string name)) (described : column.Describes type)
    (taken : Registry.empty.extendDocument catalog = .ok registry)
    (declared : catalog.DeclaresExact function type) :
    ∃ shape path signature, SqlType.ofNestedJson type = .ok shape ∧
      schema.resolveColumn name = .ok { path, type := shape.rename schema.casePolicy.fold } ∧
      (∃ entry ∈ registry.entries, entry.1 = Signature.key function ∧ signature ∈ entry.2) ∧
      signature.params = [.exact shape] ∧
      (signature.accepts [shape.rename schema.casePolicy.fold] ↔
        ∀ inner ∈ shape.fieldNames, schema.casePolicy.fold inner = inner) ∧
      ((∀ inner ∈ shape.fieldNames, schema.casePolicy.fold inner = inner) →
        ∀ options span place error,
          (Environment.mk schema registry.toCatalog options).infer
            (.call span function [.column place none name]) = .error error →
          error.kind ≠ .noMatchingSignature) := by
  obtain ⟨declarations, signatures, read, made, logs⟩ := Registry.logs_of_extendDocument taken
  obtain ⟨overload, inside, shape, label, same, single⟩ :=
    Overload.exists_of_declaresExact read declared
  obtain ⟨signature, kept, built⟩ := related_of_mem made.flip inside
  obtain ⟨path, resolved⟩ := Schema.resolveColumn_of_ofJson loaded listed named described same
  obtain ⟨key, params, _, _⟩ := Signature.of_build built
  rw [label] at key
  rw [single] at params
  have accepts : signature.accepts [shape.rename schema.casePolicy.fold] ↔
      ∀ inner ∈ shape.fieldNames, schema.casePolicy.fold inner = inner := by
    rw [Signature.accepts_exact_iff params, SqlType.rename_promotes_iff,
      SqlType.rename_eq_self_iff]
  refine ⟨shape, path, signature, same, resolved, ?_, params, accepts, ?_⟩
  · obtain ⟨entry, member, same, kept⟩ := logs.exists_entry kept
    exact ⟨entry, member, same.trans key, kept⟩
  · intro unchanged options span place error failed kind
    obtain ⟨inner, refused, missing⟩ := resolve_of_call resolved failed kind
    have known := Registry.contains_of_resolve refused (by simp [missing])
    rw [Signature.key, Registry.trim_of_contains known] at key
    have member : signature ∈ registry.signatures function := by
      rw [logs.signatures]
      exact List.mem_filter.mpr ⟨kept, decide_eq_true key⟩
    obtain ⟨found, rule, looked, custom, _⟩ := (Registry.answers_of_mem member).resolve _ _ refused
      (.inr ⟨missing, accepts.mpr unchanged⟩)
    have plain := Registry.plain_of_extendDocument taken _ _ _ looked
    rw [custom] at plain
    exact plain rfl

/-- A `STRUCT` of one `INT32`, as a document. -/
def boxType (inner : String) : Json.Members :=
  [("type", .string "struct"),
    ("fields", .array [.object [("name", .string inner), ("type", .string "int32")]])]

def boxColumn (inner : String) : Json.Members :=
  ("name", .string "C") :: boxType inner

def boxRow (inner : String) : Json :=
  .object [("fields", .array [.object (boxColumn inner)])]

def boxFunction (inner : String) : Json :=
  .object [("name", .string "F"), ("signatures", .array [.object [
    ("params", .array [.object [("kind", .string "exact"), ("type", .object (boxType inner))]]),
    ("return", .object [("kind", .string "int32")])]])]

def boxCatalog (inner : String) : Json :=
  .object [("functions", .array [boxFunction inner])]

theorem boxColumn_describes (inner : String) :
    (boxColumn inner).Describes (.object (boxType inner)) := by
  refine ⟨boxType inner, rfl, ?_⟩
  intro key other _
  exact List.filter_cons_of_neg (by simpa using Ne.symm other)

theorem boxCatalog_declaresExact (inner : String) :
    (boxCatalog inner).DeclaresExact "F" (.object (boxType inner)) :=
  ⟨boxFunction inner, List.mem_singleton_self _, rfl, _, List.mem_singleton_self _, _, rfl, rfl,
    rfl⟩

/-- A name in upper case is the same in the row and in the catalog. -/
theorem boxCatalog_infer_column :
    ∃ schema registry, Schema.ofJson (boxRow "A") = .ok schema ∧
      .object (boxColumn "A") ∈ (boxRow "A").columns ∧
      (boxColumn "A").lookup "name" = some (.string "C") ∧
      (boxColumn "A").Describes (.object (boxType "A")) ∧
      Registry.empty.extendDocument (boxCatalog "A") = .ok registry ∧
      (boxCatalog "A").DeclaresExact "F" (.object (boxType "A")) ∧
      ∀ options error, (Environment.mk schema registry.toCatalog options).infer
        (.call none "F" [.column none none "C"]) = .error error →
        error.kind ≠ .noMatchingSignature := by
  obtain ⟨schema, loaded⟩ : ∃ schema, Schema.ofJson (boxRow "A") = .ok schema := ⟨_, rfl⟩
  obtain ⟨registry, taken⟩ :
      ∃ registry, Registry.empty.extendDocument (boxCatalog "A") = .ok registry := ⟨_, rfl⟩
  have listed : .object (boxColumn "A") ∈ (boxRow "A").columns := List.mem_singleton_self _
  have described := boxColumn_describes "A"
  have declared := boxCatalog_declaresExact "A"
  obtain ⟨shape, _, _, read, _, _, _, _, takes⟩ :=
    infer_column_of_declared loaded listed rfl described taken declared
  have known : SqlType.ofNestedJson (.object (boxType "A")) =
      .ok (.struct [{ name := "A", type := .int32 }]) := rfl
  cases known.symm.trans read
  have unchanged : ∀ inner ∈ (SqlType.struct [{ name := "A", type := .int32 }]).fieldNames,
      schema.casePolicy.fold inner = inner := by
    cases schema.casePolicy <;> decide +kernel
  exact ⟨schema, registry, loaded, listed, rfl, described, taken, declared,
    fun options error => takes unchanged options none none error⟩

/-- A name in lower case is folded in the row alone, so that the function refuses the column. -/
theorem boxCatalog_refuses_column :
    ∃ schema registry, Schema.ofJson (boxRow "a") = .ok schema ∧
      .object (boxColumn "a") ∈ (boxRow "a").columns ∧
      (boxColumn "a").lookup "name" = some (.string "C") ∧
      (boxColumn "a").Describes (.object (boxType "a")) ∧
      Registry.empty.extendDocument (boxCatalog "a") = .ok registry ∧
      (boxCatalog "a").DeclaresExact "F" (.object (boxType "a")) ∧
      (Environment.mk schema registry.toCatalog {}).infer
          (.call none "F" [.column none none "C"]) =
        .error ⟨.noMatchingSignature "F" [.struct [{ name := "A", type := .int32 }]], none⟩ :=
  ⟨_, _, rfl, List.mem_singleton_self _, rfl, boxColumn_describes "a", rfl,
    boxCatalog_declaresExact "a", rfl⟩

end Environment

end QueryTyping
