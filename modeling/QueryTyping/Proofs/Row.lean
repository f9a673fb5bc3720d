import QueryTyping.Proofs.LetterCase
import QueryTyping.Proofs.Outcome
import QueryTyping.Schema.Resolve

/-! What the check of a row is good for: the columns of a schema have names that differ, so that no
more than one of them can be meant by a name. -/

namespace QueryTyping

/-- Accepted fields differ in their names from each other and from those before them. -/
theorem Field.names_of_checkAll {policy : CasePolicy} {path : String} {earlier : List String}
    {fields : List Field} (accepted : Field.checkAll policy path earlier fields = .ok ()) :
    fields.Pairwise (fun first second => policy.fold first.name ≠ policy.fold second.name) ∧
      ∀ name ∈ earlier, ∀ field ∈ fields, policy.fold name ≠ policy.fold field.name := by
  induction fields generalizing earlier with
  | nil => simp
  | cons field rest ih =>
    obtain ⟨label, type, nullable⟩ := field
    simp only [Field.checkAll] at accepted
    split at accepted
    · cases accepted
    split at accepted
    · cases accepted
    next fresh =>
      obtain ⟨_, _, later⟩ := bind_eq_ok_iff.mp accepted
      obtain ⟨distinct, others⟩ := ih later
      have here : ∀ name ∈ earlier, policy.fold name ≠ policy.fold label := by
        intro name member same
        apply fresh
        exact List.any_eq_true.mpr ⟨name, member, CasePolicy.agree_iff.mpr same⟩
      constructor
      · exact List.pairwise_cons.mpr ⟨others label List.mem_cons_self, distinct⟩
      · intro name member
        have below := others name (List.mem_cons_of_mem _ member)
        exact List.forall_mem_cons.mpr ⟨here name member, below⟩

namespace Field

variable {policy : CasePolicy} {fields : List Field}
  (distinct : fields.Pairwise fun first second => policy.fold first.name ≠ policy.fold second.name)

include distinct

/-- Where all names differ, a name is that of one field at most. -/
theorem filter_agree_cases (name : String) :
    fields.filter (policy.agree ·.name name) = [] ∨
      ∃ field, fields.filter (policy.agree ·.name name) = [field] := by
  have apart := distinct.filter (policy.agree ·.name name)
  rcases named : fields.filter (policy.agree ·.name name) with _ | ⟨first, _ | ⟨second, rest⟩⟩
  · exact .inl named
  · exact .inr ⟨first, named⟩
  · have agrees : ∀ field ∈ first :: second :: rest, policy.fold field.name = policy.fold name := by
      intro field member
      rw [← named] at member
      exact CasePolicy.agree_iff.mp (List.mem_filter.mp member).2
    have same := (agrees first (by simp)).trans (agrees second (by simp)).symm
    rw [named] at apart
    exact absurd same ((List.pairwise_cons.mp apart).1 second List.mem_cons_self)

/-- A search finds what a name means and nothing else. -/
theorem find?_eq_some_iff {name : String} {field : Field} :
    policy.find? name fields = some field ↔
      field ∈ fields ∧ policy.agree field.name name := by
  rw [CasePolicy.find?]
  constructor
  · exact fun found => ⟨List.mem_of_find?_eq_some found, by simpa using List.find?_some found⟩
  · intro meant
    have listed : field ∈ fields.filter (policy.agree ·.name name) := List.mem_filter.mpr meant
    rw [← List.head?_filter]
    rcases filter_agree_cases distinct name with nothing | ⟨other, single⟩
    · rw [nothing] at listed
      cases listed
    · rw [single] at listed ⊢
      rw [List.mem_singleton.mp listed, List.head?_cons]

end Field

namespace Schema

variable {name : Option String} {fields : List Field} {policy : CasePolicy}

theorem build_eq_error_iff {error : SchemaError} :
    build name fields policy = .error error ↔
      Field.checkAll policy (relationLabel (name.map policy.fold)) []
        (Field.renameAll policy.fold fields) = .error error := by
  simp only [build]
  split
  next other refused => rw [refused, Except.error.injEq, Except.error.injEq]
  next accepted =>
    constructor
    · intro impossible
      cases impossible
    · intro refused
      cases accepted.symm.trans refused

theorem build_eq_ok_iff {schema : Schema} :
    build name fields policy = .ok schema ↔ schema.name = name.map policy.fold ∧
      schema.fields = Field.renameAll policy.fold fields ∧ schema.casePolicy = policy := by
  constructor
  · intro built
    simp only [build] at built
    split at built
    · cases built
    · rw [← Except.ok.inj built]
      exact ⟨rfl, rfl, rfl⟩
  · intro parts
    obtain ⟨label, row, casePolicy, folded, accepted⟩ := schema
    dsimp only at parts
    obtain ⟨rfl, rfl, rfl⟩ := parts
    simp only [build]
    split
    next error refused => cases accepted.symm.trans refused
    next => rfl

/-- Only the folded names go into a schema or into the error of a row that is refused. -/
theorem build_congr {other : Option String} {others : List Field}
    (names : name.map policy.fold = other.map policy.fold)
    (rows : Field.renameAll policy.fold fields = Field.renameAll policy.fold others) :
    build name fields policy = build other others policy := by
  symm
  cases built : build name fields policy with
  | error error =>
    rw [build_eq_error_iff, names, rows] at built
    exact build_eq_error_iff.mpr built
  | ok schema =>
    rw [build_eq_ok_iff, names, rows] at built
    exact build_eq_ok_iff.mpr built

theorem distinct_names (schema : Schema) : schema.fields.Pairwise fun first second =>
    schema.casePolicy.fold first.name ≠ schema.casePolicy.fold second.name :=
  (Field.names_of_checkAll schema.accepted).1

/-- A name is the name of at most one column. -/
theorem filter_agree_cases (schema : Schema) (name : String) :
    schema.fields.filter (schema.casePolicy.agree ·.name name) = [] ∨
      ∃ field, schema.fields.filter (schema.casePolicy.agree ·.name name) = [field] :=
  Field.filter_agree_cases schema.distinct_names name

/-- A column is found under every name that agrees with its own. -/
theorem find?_eq_some_iff {schema : Schema} {name : String} {field : Field} :
    schema.casePolicy.find? name schema.fields = some field ↔
      field ∈ schema.fields ∧ schema.casePolicy.agree field.name name :=
  Field.find?_eq_some_iff schema.distinct_names

end Schema

end QueryTyping
