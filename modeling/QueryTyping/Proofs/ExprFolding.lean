import QueryTyping.Proofs.Likeness
import QueryTyping.Proofs.NameFolding

/-! Typing an expression with its names folded. The folded copy has the type of the original or fails
with the same error at the same position, since every look-up ignores the difference and every
diagnostic shows folded names only. -/

namespace QueryTyping

namespace Expr

mutual

/-- Changes all names. Subqueries are known by their schemas and keep them. -/
def rename (naming : Naming) : Expr → Expr
  | literal span value => literal span value
  | column span qualifier name =>
    column span (qualifier.map naming.identifier) (naming.identifier name)
  | arithmetic span op left right => arithmetic span op (left.rename naming) (right.rename naming)
  | comparison span op left right => comparison span op (left.rename naming) (right.rename naming)
  | like span op value pattern => like span op (value.rename naming) (pattern.rename naming)
  | logical span op operands => logical span op (renameAll naming operands)
  | call span function arguments =>
    call span (naming.function function) (renameAll naming arguments)
  | fieldAccess span base field => fieldAccess span (base.rename naming) (naming.identifier field)
  | subscript span base index => subscript span (base.rename naming) (index.rename naming)
  | subquery span schema => subquery span schema

def renameAll (naming : Naming) : List Expr → List Expr
  | [] => []
  | expr :: rest => expr.rename naming :: renameAll naming rest

end

variable {naming : Naming}

theorem renameAll_eq_map (exprs : List Expr) :
    renameAll naming exprs = exprs.map (rename naming) := by
  induction exprs with
  | nil => rfl
  | cons expr rest ih => rw [renameAll, ih, List.map_cons]

theorem renderAll_eq_map (exprs : List Expr) :
    renderAll naming exprs = exprs.map (render naming) := by
  induction exprs with
  | nil => rfl
  | cons expr rest ih => rw [renderAll, ih, List.map_cons]

theorem span_rename (expr : Expr) : (expr.rename naming).span = expr.span := by
  cases expr <;> rfl

theorem visited_rename (expr : Expr) :
    (expr.rename naming).visited = expr.visited.map (rename naming) := by
  cases expr with
  | logical span op operands =>
    simp only [rename, visited, renameAll_eq_map, List.length_map]
    split <;> rfl
  | call span function arguments => exact renameAll_eq_map arguments
  | _ => rfl

/-- One change of names after another. -/
def Naming.comp (outer inner : Naming) : Naming where
  identifier := outer.identifier ∘ inner.identifier
  function := outer.function ∘ inner.function

theorem render_rename (inner outer : Naming) (expr : Expr) :
    (expr.rename inner).render outer = expr.render (outer.comp inner) := by
  induction expr using Expr.induction with
  | step expr ih =>
    have below (exprs : List Expr) (within : exprs ⊆ expr.operands) :
        (exprs.map (rename inner)).map (render outer) = exprs.map (render (outer.comp inner)) := by
      rw [List.map_map]
      exact List.map_congr_left fun operand member => ih operand (within member)
    cases expr with
    | literal | subquery => rfl
    | column span qualifier name =>
      simp only [rename, render, Naming.comp, Option.map_map, Function.comp_apply]
    | logical span op operands =>
      have rendered := below operands (List.Subset.refl _)
      simp only [rename, render, renameAll_eq_map, renderAll_eq_map, rendered]
    | call span function arguments =>
      have rendered := below arguments (List.Subset.refl _)
      simp only [rename, render, renameAll_eq_map, renderAll_eq_map, rendered]
      rfl
    | fieldAccess span base field =>
      have reached := ih base (by simp [operands])
      simp only [rename, render, reached, Naming.comp, Function.comp_apply]
    | arithmetic _ _ left right | comparison _ _ left right | like _ _ left right
    | subscript _ left right =>
      have first := ih left (by simp [operands])
      have second := ih right (by simp [operands])
      simp only [rename, render, first, second]

/-- The names as diagnostics show them. -/
def Naming.folding (policy : CasePolicy) : Naming where
  identifier := policy.fold
  function := Text.upper

theorem Naming.folding_comp {reader policy : CasePolicy} (reads : reader.Reads policy) :
    (folding reader).comp (folding policy) = folding policy := by
  have identifier : reader.fold ∘ policy.fold = policy.fold := funext reads.fold
  have function : Text.upper ∘ Text.upper = Text.upper := funext Text.upper_upper
  simp only [comp, folding, identifier, function]

def folded (policy : CasePolicy) (expr : Expr) : Expr :=
  expr.rename (.folding policy)

theorem canonical_folded {reader policy : CasePolicy} (reads : reader.Reads policy) (expr : Expr) :
    (expr.folded policy).canonical reader = expr.canonical policy := by
  have same := render_rename (.folding policy) (.folding reader) expr
  rwa [Naming.folding_comp reads] at same

theorem qualifiedName_fold (policy : CasePolicy) (qualifier : Option String) (name : String) :
    qualifiedName (qualifier.map policy.fold) (policy.fold name) =
      policy.fold (qualifiedName qualifier name) := by
  cases qualifier with
  | none => rfl
  | some relation =>
    have point : policy.fold "." = "." := by cases policy <;> decide
    simp only [Option.map_some, qualifiedName, CasePolicy.fold_append, point]

variable {reader schema : Schema}

/-- A column is found by its folded name and qualifier as by the original ones. -/
theorem resolveColumn_qualified_fold (reads : reader.Reads schema) (qualifier : Option String)
    (name : String) :
    reader.resolveColumn (qualifiedName (qualifier.map schema.casePolicy.fold)
        (schema.casePolicy.fold name)) =
      schema.resolveColumn (qualifiedName qualifier name) := by
  rw [qualifiedName_fold]
  exact reads.resolveColumn _

theorem path_folded (reads : reader.Reads schema) (expr : Expr) :
    (expr.folded schema.casePolicy).path reader = expr.path schema := by
  induction expr using Expr.induction with
  | step expr ih =>
    have shown := canonical_folded reads.casePolicy expr
    cases expr with
    | column span qualifier name =>
      have found := resolveColumn_qualified_fold reads qualifier name
      simp only [folded, rename, Naming.folding] at shown
      simp only [folded, rename, Naming.folding, path, found, shown]
    | fieldAccess span base field =>
      have reached := ih base (by simp [operands])
      have named : reader.fold ((Naming.folding schema.casePolicy).identifier field) =
          schema.fold field := reads.fold field
      simp only [folded] at reached
      simp only [folded, rename, path, reached, named]
    | subscript span base index =>
      have reached := ih base (by simp [operands])
      have key := canonical_folded reads.casePolicy index
      simp only [folded] at reached key
      simp only [folded, rename, path, reached, key]
    | _ => exact shown

end Expr

theorem Catalog.resolve_upper (catalog : Catalog) (function : String) (arguments : List SqlType) :
    catalog.resolve (Text.upper function) arguments = catalog.resolve function arguments := by
  simp only [resolve, Text.upper_upper]

namespace Environment

variable {environment reader : Environment}

/-- The node with folded names concludes the same, provided that members are looked up under the
same policy or in types with folded names. -/
theorem conclude_folded (reads : reader.schema.Reads environment.schema)
    (catalog : reader.catalog = environment.catalog) (expr : Expr) {types : List SqlType}
    (folded : reader.schema.casePolicy = environment.schema.casePolicy ∨
      ∀ type ∈ types, type.rename environment.schema.fold = type) :
    reader.conclude (expr.folded environment.schema.casePolicy) types =
      environment.conclude expr types := by
  cases expr with
  | column span qualifier name =>
    have found := Expr.resolveColumn_qualified_fold reads qualifier name
    cases types with
    | nil => simp only [Expr.folded, Expr.rename, Expr.Naming.folding, conclude, found]
    | cons => rfl
  | logical span op operands =>
    simp only [Expr.folded, Expr.rename, conclude, Expr.renameAll_eq_map, List.length_map]
  | call span function arguments =>
    have resolved := environment.catalog.resolve_upper function types
    rw [← catalog] at resolved
    simpa only [Expr.folded, Expr.rename, Expr.Naming.folding, conclude, catalog] using resolved
  | fieldAccess span base field =>
    have reached := Expr.path_folded reads base
    simp only [Expr.folded] at reached
    rcases types with _ | ⟨container, _ | _⟩
    · rfl
    · have member : reader.schema.member container
          ((Expr.Naming.folding environment.schema.casePolicy).identifier field)
            (base.path environment.schema) =
          environment.schema.member container field (base.path environment.schema) := by
        apply reads.member
        exact folded.imp_right fun kept => kept container List.mem_cons_self
      simp only [Expr.folded, Expr.rename, conclude, reached, member]
    · rfl
  | subscript span base index =>
    have reached := Expr.path_folded reads base
    simp only [Expr.folded] at reached
    rcases types with _ | ⟨container, _ | ⟨key, _ | _⟩⟩
    · rfl
    · rfl
    · simp only [Expr.folded, Expr.rename, conclude, reached, Expr.span_rename]
    · rfl
  | literal | subquery => cases types <;> rfl
  | arithmetic | comparison | like =>
    rcases types with _ | ⟨first, _ | ⟨second, _ | _⟩⟩ <;> rfl

/-- The step from folded operands to their node. -/
theorem inferAt_folded_of_operands (reads : reader.schema.Reads environment.schema)
    (catalog : reader.catalog = environment.catalog)
    (options : reader.options = environment.options) {expr : Expr} {depth : Nat}
    (operands : ∀ operand ∈ expr.visited, environment.inferAt (depth + 1) operand =
      reader.inferAt (depth + 1) (operand.folded environment.schema.casePolicy))
    (folded : reader.schema.casePolicy = environment.schema.casePolicy ∨
      ∀ operand ∈ expr.visited, ∀ type, environment.inferAt (depth + 1) operand = .ok type →
        type.rename environment.schema.fold = type) :
    environment.inferAt depth expr =
      reader.inferAt depth (expr.folded environment.schema.casePolicy) := by
  apply Alike.eq
  apply inferAt_alike options
  · intro error twin same
    obtain rfl : error = twin := same
    rw [Expr.folded, Expr.span_rename]
  · rw [Expr.folded, Expr.visited_rename, List.forall₂_map_right_iff, List.forall₂_same]
    exact fun operand member => congrArg _ (operands operand member)
  · intro types inferred
    rw [conclude_folded reads catalog]
    · exact .refl _
    · refine folded.imp_right fun kept type listed => ?_
      obtain ⟨operand, member, typed⟩ :=
        related_of_mem ((environment.inferAll_eq_ok_iff _).mp inferred) listed
      exact kept operand member type typed

/-- Folding the names of an expression changes neither its type nor its error. -/
theorem inferAt_folded (environment : Environment) (depth : Nat) (expr : Expr) :
    environment.inferAt depth (expr.folded environment.schema.casePolicy) =
      environment.inferAt depth expr := by
  symm
  induction expr using Expr.induction generalizing depth with
  | step expr ih =>
    apply inferAt_folded_of_operands (.refl _) rfl rfl _ (.inl rfl)
    exact fun operand member => ih operand (expr.visited_subset member) (depth + 1)

end Environment

end QueryTyping
