import QueryTyping.Function.Registry
import QueryTyping.Inference
import QueryTyping.Proofs.Causes
import QueryTyping.Proofs.LetterCase
import QueryTyping.Proofs.Overload

/-! When each rule gives a type, and which. The conditions are stated as relations between types,
without the order in which a rule looks at them and without the errors that it raises. -/

namespace QueryTyping

variable {type : SqlType}

theorem ArithmeticOp.result_eq_ok_iff {op : ArithmeticOp} {left right : SqlType} :
    op.result left right = .ok type ↔
      left.isNumeric ∧ right.isNumeric ∧ SqlType.Widest [left, right] type := by
  rw [← SqlType.widen?_eq_some_iff]
  unfold ArithmeticOp.result
  cases left.widen? right <;> simp

/-- The types that a comparison takes. Booleans are equal or not, but have no order. -/
inductive ComparisonOp.Compares (op : ComparisonOp) : SqlType → SqlType → Prop where
  | numbers {left right : SqlType} (first : left.isNumeric) (second : right.isNumeric) :
      Compares op left right
  | strings : Compares op .string .string
  | booleans (equality : op = .eq ∨ op = .ne) : Compares op .boolean .boolean

theorem ComparisonOp.accepts_iff {op : ComparisonOp} {left right : SqlType} :
    op.accepts left right ↔ op.Compares left right := by
  constructor
  · intro accepted
    unfold ComparisonOp.accepts at accepted
    split at accepted
    · exact .strings
    · refine .booleans ?_
      cases op <;> simp [isEquality] at accepted ⊢
    · obtain ⟨first, second⟩ := Bool.and_eq_true_iff.mp accepted
      exact .numbers first second
  · intro compares
    cases compares with
    | numbers first second =>
      -- Numeric types never meet the two cases before the last one.
      cases left <;> cases first <;> simpa [accepts, SqlType.isNumeric] using second
    | strings => rfl
    | booleans equality => rcases equality with rfl | rfl <;> rfl

theorem ComparisonOp.result_eq_ok_iff {op : ComparisonOp} {left right : SqlType} :
    op.result left right = .ok type ↔ op.Compares left right ∧ type = .boolean := by
  rw [← ComparisonOp.accepts_iff]
  unfold ComparisonOp.result
  split <;> simp [*, eq_comm]

private theorem SqlType.isString_iff : type.isString ↔ type = .string := by
  cases type <;> simp [isString]

private theorem SqlType.isBoolean_iff : type.isBoolean ↔ type = .boolean := by
  cases type <;> simp [isBoolean]

theorem LikeOp.result_eq_ok_iff {op : LikeOp} {value pattern : SqlType} :
    op.result value pattern = .ok type ↔
      value = .string ∧ pattern = .string ∧ type = .boolean := by
  rw [← SqlType.isString_iff, ← SqlType.isString_iff, ← and_assoc, ← Bool.and_eq_true]
  unfold LikeOp.result
  split <;> simp [*, eq_comm]

theorem LogicalOp.result_eq_ok_iff {op : LogicalOp} {operands : List SqlType} :
    op.result operands = .ok type ↔ (∀ operand ∈ operands, operand = .boolean) ∧
      type = .boolean := by
  unfold LogicalOp.result
  split
  next found wrong =>
    have refused := List.find?_some wrong
    have member := List.mem_of_find?_eq_some wrong
    simp only [reduceCtorEq, false_iff, not_and]
    intro all
    simp [all found member, SqlType.isBoolean] at refused
  next none =>
    have all := List.find?_eq_none.mp none
    simp only [Bool.not_eq_true', Bool.not_eq_false, SqlType.isBoolean_iff] at all
    simpa [eq_comm] using fun _ => all

theorem Schema.member_eq_ok_iff {schema : Schema} {parent : SqlType} {field path : String} :
    schema.member parent field path = .ok type ↔ ∃ fields found, parent = .struct fields ∧
      First (fun member => schema.casePolicy.agree member.name field) fields found ∧
      found.type = type := by
  simp only [← find?_eq_some_iff_first fun _ => Iff.rfl]
  cases parent with
  | struct fields =>
    simp only [member, SqlType.fields?, CasePolicy.find?]
    cases search : fields.find? (schema.casePolicy.agree ·.name field) <;> simp [search]
  | _ => simp [member, SqlType.fields?]

/-- What a subscript of some type selects from a container. -/
inductive SqlType.Selects (index : SqlType) : SqlType → SqlType → Prop where
  | items {items : SqlType} (integral : index = .int32 ∨ index = .int64) :
      Selects index (.array items) items
  | values {key value : SqlType} (promotes : index.Promotes key) :
      Selects index (.map key value) value

theorem SqlType.selects_iff {container index : SqlType} {path : String} :
    container.element path = .ok type ∧ container.checkIndex index path = .ok () ↔
      index.Selects container type := by
  constructor
  · intro accepted
    obtain ⟨selected, fits⟩ := accepted
    cases container with
    | array items =>
      cases selected
      refine .items ?_
      cases index <;> simp [checkIndex, isIntegral] at fits ⊢
    | map key value =>
      cases selected
      refine .values (promotes_iff.mp ?_)
      by_contra refused
      simp [checkIndex, refused] at fits
    | _ => cases selected
  · intro selects
    cases selects with
    | items integral => rcases integral with rfl | rfl <;> exact ⟨rfl, rfl⟩
    | values promotes => exact ⟨rfl, if_pos (promotes_iff.mpr promotes)⟩

theorem Schema.scalarType_eq_ok_iff {schema : Schema} :
    schema.scalarType = .ok type ↔ ∃ column, schema.fields = [column] ∧ column.type = type := by
  unfold Schema.scalarType
  split
  next column single => simp [single]
  next several =>
    simp only [reduceCtorEq, false_iff]
    intro one
    obtain ⟨column, single, _⟩ := one
    exact several column single

namespace Registry

/-- Every name has one entry. -/
theorem lookup_eq_some_iff {registry : Registry} {name : String} {overloads : List Signature} :
    registry.entries.lookup name = some overloads ↔ (name, overloads) ∈ registry.entries := by
  rw [List.lookup_eq_some_iff]
  constructor
  · intro found
    obtain ⟨before, after, split, _⟩ := found
    simp [split]
  · intro member
    obtain ⟨before, after, split⟩ := List.append_of_mem member
    refine ⟨before, after, split, ?_⟩
    intro entry earlier
    have ordered := registry.sorted
    rw [split, List.pairwise_append] at ordered
    have below := ordered.2.2 entry earlier (name, overloads) List.mem_cons_self
    simpa using fun same : name = entry.1 => String.lt_irrefl _ (same ▸ below)

/-- A call takes the first overload of its function that admits the arguments. -/
theorem resolve_eq_ok_iff {registry : Registry} {function : String} {arguments : List SqlType} :
    registry.toCatalog.resolve function arguments = .ok type ↔ ∃ name overloads signature,
      (name, overloads) ∈ registry.entries ∧ CasePolicy.insensitive.agree name function ∧
      First (Signature.Admits · arguments) overloads signature ∧
      signature.returns.Gives arguments type := by
  simp only [← find?_eq_some_iff_first fun _ => Signature.accepts_iff,
    ← Signature.returnType_eq_ok_iff, CasePolicy.agree_iff, CasePolicy.fold]
  constructor
  · intro resolved
    rcases registry.toCatalog.resolve_cases function arguments with
      ⟨signature, _, found, same⟩ | ⟨error, failed, _⟩
    · simp only [toCatalog, lookup, signatures, Text.upper_upper] at found
      cases entry : registry.entries.lookup (Text.upper function) with
      | none => simp [entry] at found
      | some overloads =>
        rw [entry, Option.getD_some] at found
        exact ⟨_, overloads, signature, lookup_eq_some_iff.mp entry, Text.upper_upper function,
          found, same.symm.trans resolved⟩
    · cases failed.symm.trans resolved
  · intro listed
    obtain ⟨name, overloads, signature, member, same, found, gives⟩ := listed
    have kept := Signature.upper_of_key (registry.keyed (name, overloads) member)
    obtain rfl : name = Text.upper function := kept.symm.trans same
    have entry := lookup_eq_some_iff.mpr member
    rw [Catalog.resolve_of_lookup _ _, gives]
    · simp [toCatalog, contains, Text.upper_upper, entry]
    · simp only [toCatalog, lookup, signatures, Text.upper_upper, entry, Option.getD_some, found]

end Registry

end QueryTyping
