import QueryTyping.Proofs.NameFolding
import QueryTyping.Proofs.Precedence

/-! Rows whose columns have no dotted names. A beginning of a name then is that of a column alone or
stands behind the name of the relation, and never has more than two segments. The path by which
diagnostics call a column or a member of it is a name with the same meaning. -/

namespace QueryTyping.Schema

/-- No column has a dotted name. -/
def Undotted (schema : Schema) : Prop :=
  ∀ field ∈ schema.fields, ¬ Text.hasDot field.name

instance (schema : Schema) : Decidable schema.Undotted :=
  inferInstanceAs (Decidable (∀ field ∈ schema.fields, ¬ Text.hasDot field.name))

variable {schema : Schema} {name segment : String} {field : Field} {front rest : List String}

theorem Named.hasDot_eq (named : schema.Named name field) :
    Text.hasDot name = Text.hasDot field.name :=
  (CasePolicy.hasDot_of_agree named.2).symm

namespace Undotted

variable (undotted : schema.Undotted)

include undotted

theorem not_named (first next : String) (rest : List String) :
    ¬ schema.Named (Text.dotted (first :: next :: rest)) field := by
  intro named
  apply undotted field named.1
  rw [← named.hasDot_eq]
  exact Text.hasDot_dotted first next rest

theorem candidates (segment : String) : schema.candidates segment = [] := by
  rw [Schema.candidates, List.filter_eq_nil_iff]
  intro field member ends
  obtain ⟨front, last, some, parts, _⟩ := of_decide_eq_true ends
  have single := Text.segments_of_undotted (Bool.eq_false_iff.mpr (undotted field member))
  rw [single] at parts
  rcases List.append_eq_singleton_iff.mp parts.symm with ⟨none, _⟩ | ⟨_, impossible⟩
  · exact some none
  · cases impossible

theorem hits_cases (hits : schema.Hits front field) :
    (∃ segment, front = [segment] ∧ schema.Named segment field) ∨
      ∃ relation first next, front = [first, next] ∧ relation ∈ schema.name ∧
        schema.casePolicy.agree relation first ∧ schema.Named next field := by
  cases hits with
  | @whole first rest _ named =>
    cases rest with
    | nil => exact .inl ⟨first, rfl, Text.dotted_single first ▸ named⟩
    | cons next rest => exact absurd named (undotted.not_named first next rest)
  | ending _ only =>
    rw [undotted.candidates] at only
    cases only
  | @qualified relation first next rest _ _ listed qualifies named =>
    cases rest with
    | nil =>
      exact .inr ⟨relation, first, next, rfl, listed, qualifies, Text.dotted_single next ▸ named⟩
    | cons third rest => exact absurd named (undotted.not_named next third rest)

theorem exists_hits (settles : schema.Settles front) : ∃ field, schema.Hits front field := by
  rcases settles with hits | ⟨segment, _, ambiguous⟩
  · exact hits
  · have several := ambiguous.several
    rw [undotted.candidates] at several
    cases several

end Undotted

theorem enter_fold (schema : Schema) (reached : ResolvedColumn) (segment : String) :
    schema.enter reached (schema.fold segment) = schema.enter reached segment := by
  have reads := Reads.refl schema
  rw [enter_eq, enter_eq, reads.member (.inl rfl), reads.fold]

theorem foldlM_enter_fold (schema : Schema) (reached : ResolvedColumn) (segments : List String) :
    (segments.map schema.fold).foldlM schema.enter reached =
      segments.foldlM schema.enter reached := by
  simp only [List.foldlM_map, enter_fold]

/-- The name of a column with that of the relation in front of it, if there is one. -/
def fullName (schema : Schema) (field : Field) : List String :=
  schema.name.toList ++ [field.name]

theorem Undotted.segments_columnPath (undotted : schema.Undotted)
    (plain : ∀ relation ∈ schema.name, ¬ Text.hasDot relation) (listed : field ∈ schema.fields) :
    Text.segments (schema.columnPath field) = schema.fullName field := by
  have own : Text.hasDot field.name = false := Bool.eq_false_iff.mpr (undotted field listed)
  unfold columnPath fullName
  cases relation : schema.name with
  | none => exact Text.segments_of_undotted own
  | some name =>
    have before := Text.segments_of_undotted (Bool.eq_false_iff.mpr (plain name relation))
    have both := Text.segments_dotted_cons name (List.forall_mem_singleton.mpr own)
    rw [Text.dotted_cons_cons, Text.dotted_single, before] at both
    dsimp only
    rwa [if_neg (undotted field listed)]

theorem Undotted.hits_fullName (undotted : schema.Undotted) (listed : field ∈ schema.fields) :
    schema.Hits (schema.fullName field) field := by
  have named : schema.Named field.name field := ⟨listed, CasePolicy.agree_iff.mpr rfl⟩
  unfold fullName
  cases relation : schema.name with
  | none =>
    apply Hits.whole
    rwa [Text.dotted_single]
  | some name =>
    have unlisted : ∀ other, ¬ schema.Named (Text.dotted [name, field.name]) other :=
      fun _ => undotted.not_named name field.name []
    have itself : schema.casePolicy.agree name name := CasePolicy.agree_iff.mpr rfl
    apply Hits.qualified unlisted (Option.mem_def.mpr relation) itself
    rwa [Text.dotted_single]

/-- A longer beginning would have three segments, or two of which the first is the relation's name
while there is none. -/
theorem Undotted.longest_fullName (undotted : schema.Undotted)
    (split : schema.fullName field ++ rest = Text.segments name) :
    schema.Longest name (schema.fullName field) rest := by
  refine ⟨split, fun longer _ more settles => ?_⟩
  obtain ⟨other, hits⟩ := undotted.exists_hits settles
  rcases undotted.hits_cases hits with ⟨segment, rfl, _⟩ | ⟨relation, first, next, rfl, named, _⟩
  · simp [fullName] at more
  · rw [Option.mem_def] at named
    simp [fullName, named] at more

/-- The path of a resolved name leads back to what the name stands for, as long as neither the
relation nor a column has a dotted name. -/
theorem resolveColumn_path (undotted : schema.Undotted)
    (plain : ∀ relation ∈ schema.name, ¬ Text.hasDot relation) {found : ResolvedColumn}
    (resolved : schema.resolveColumn name = .ok found) :
    schema.resolveColumn found.path = .ok found := by
  obtain ⟨front, rest, field, longest, hits, walked⟩ :=
    (schema.resolves_resolveColumn name).column_of_ok resolved
  have folded : ∀ part ∈ rest.map schema.fold, Text.hasDot part = false := by
    intro part member
    obtain ⟨segment, inside, rfl⟩ := List.mem_map.mp member
    rw [Schema.fold, CasePolicy.hasDot_fold]
    apply Text.hasDot_of_mem_segments
    rw [← longest.split]
    exact List.mem_append_right front inside
  have parts : Text.segments found.path = schema.fullName field ++ rest.map schema.fold := by
    rw [path_of_foldlM_enter walked, Text.segments_dotted_cons _ folded,
      undotted.segments_columnPath plain hits.mem]
  rw [← walked, ← foldlM_enter_fold]
  have full : schema.Longest found.path (schema.fullName field) (rest.map schema.fold) :=
    undotted.longest_fullName parts.symm
  exact (Resolves.column full (undotted.hits_fullName hits.mem)).eq

/-- The relation's name alone stands for the column of this name, whose path has both. -/
theorem ordersInOrders_path :
    ordersInOrders.Undotted ∧ (∀ relation ∈ ordersInOrders.name, ¬ Text.hasDot relation) ∧
    ordersInOrders.resolveColumn "orders.code" = .ok ⟨"ORDERS.ORDERS.CODE", .string⟩ ∧
    ordersInOrders.resolveColumn "ORDERS.ORDERS.CODE" = .ok ⟨"ORDERS.ORDERS.CODE", .string⟩ := by
  have undotted : ordersInOrders.Undotted := by decide
  have plain : ∀ relation ∈ ordersInOrders.name, ¬ Text.hasDot relation := by decide
  have resolved : ordersInOrders.resolveColumn "orders.code" =
      .ok ⟨"ORDERS.ORDERS.CODE", .string⟩ := rfl
  exact ⟨undotted, plain, resolved, resolveColumn_path undotted plain resolved⟩

end QueryTyping.Schema
