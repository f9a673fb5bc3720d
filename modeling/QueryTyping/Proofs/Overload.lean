import QueryTyping.Function.Signature
import QueryTyping.Proofs.Outcome
import QueryTyping.Proofs.Promotion
import Mathlib.Data.List.Forall2

/-! What an overload accepts and returns, as relations. A variadic overload stands for one list of
parameters for every number of repetitions of its last one. -/

namespace QueryTyping

/-- The leftmost item of a list that meets a condition. -/
def First (meets : α → Prop) (items : List α) (found : α) : Prop :=
  ∃ before after, items = before ++ found :: after ∧ meets found ∧
    ∀ earlier ∈ before, ¬ meets earlier

theorem find?_eq_some_iff_first {test : α → Bool} {meets : α → Prop}
    (same : ∀ item, test item ↔ meets item) {items : List α} {found : α} :
    items.find? test = some found ↔ First meets items found := by
  rw [List.find?_eq_some_iff_append]
  constructor
  · intro leftmost
    obtain ⟨passes, before, after, split, earlier⟩ := leftmost
    refine ⟨before, after, split, (same found).mp passes, ?_⟩
    intro item member passed
    have refused : ¬ test item := by simpa using earlier item member
    exact refused ((same item).mpr passed)
  · intro leftmost
    obtain ⟨before, after, split, passes, earlier⟩ := leftmost
    refine ⟨(same found).mpr passes, before, after, split, ?_⟩
    intro item member
    simpa using mt (same item).mp (earlier item member)

namespace First

variable {meets : α → Prop} {items : List α} {found other : α}

theorem mem (first : First meets items found) : found ∈ items := by
  obtain ⟨before, after, rfl, _⟩ := first
  exact List.mem_append_right _ List.mem_cons_self

theorem holds (first : First meets items found) : meets found := by
  obtain ⟨_, _, _, here, _⟩ := first
  exact here

theorem unique (first : First meets items found) (again : First meets items other) :
    found = other := by
  classical
  have one := (find?_eq_some_iff_first fun _ => decide_eq_true_iff).mpr first
  have two := (find?_eq_some_iff_first fun _ => decide_eq_true_iff).mpr again
  exact Option.some.inj (one.symm.trans two)

end First

inductive Param.Admits : Param → SqlType → Prop where
  | exact {type argument : SqlType} (promotes : argument.Promotes type) :
      Admits (.exact type) argument
  | numeric {argument : SqlType} (number : argument.isNumeric) : Admits .numeric argument
  | array (items : SqlType) : Admits .anyArray (.array items)
  | map (key value : SqlType) : Admits .anyMap (.map key value)
  | struct (fields : List Field) : Admits .anyStruct (.struct fields)
  | any (argument : SqlType) : Admits .any argument

theorem Param.accepts_iff {param : Param} {argument : SqlType} :
    param.accepts argument ↔ param.Admits argument := by
  constructor
  · intro accepted
    cases param with
    | exact type => exact .exact (SqlType.promotes_iff.mp accepted)
    | numeric => exact .numeric accepted
    | any => exact .any argument
    | _ => cases argument <;> first | constructor | cases accepted
  · intro admitted
    cases admitted with
    | exact promotes => exact SqlType.promotes_iff.mpr promotes
    | numeric number => exact number
    | _ => rfl

namespace Signature

/-- The lists of parameters for which a signature stands. -/
inductive Expands (signature : Signature) : List Param → Prop where
  | fixed (single : ¬ signature.variadic) : Expands signature signature.params
  | repeated {leading : List Param} {last : Param} (copies : Nat) (many : signature.variadic)
      (shape : signature.params = leading ++ [last]) :
      Expands signature (leading ++ List.replicate (copies + 1) last)

/-- Some list of parameters has the number of the arguments and admits each at its position. -/
def Admits (signature : Signature) (arguments : List SqlType) : Prop :=
  ∃ positions, signature.Expands positions ∧ List.Forall₂ Param.Admits positions arguments

variable {signature : Signature} {arguments : List SqlType}

theorem admits_iff_of_fixed (single : ¬ signature.variadic) :
    signature.Admits arguments ↔ List.Forall₂ Param.Admits signature.params arguments := by
  constructor
  · intro accepted
    obtain ⟨positions, expands, admitted⟩ := accepted
    cases expands with
    | fixed => exact admitted
    | repeated copies many => exact absurd many single
  · exact fun admitted => ⟨_, .fixed single, admitted⟩

theorem admits_iff_of_variadic {leading : List Param} {last : Param} (many : signature.variadic)
    (shape : signature.params = leading ++ [last]) :
    signature.Admits arguments ↔ ∃ copies,
      List.Forall₂ Param.Admits (leading ++ List.replicate (copies + 1) last) arguments := by
  constructor
  · intro accepted
    obtain ⟨positions, expands, admitted⟩ := accepted
    cases expands with
    | fixed single => exact absurd many single
    | repeated copies _ other =>
      rw [shape] at other
      obtain ⟨rfl, equal⟩ := List.append_inj' other rfl
      cases equal
      exact ⟨copies, admitted⟩
  · intro repeats
    obtain ⟨copies, admitted⟩ := repeats
    exact ⟨_, .repeated copies many shape, admitted⟩

theorem exists_last (many : signature.variadic) :
    ∃ leading last, signature.params = leading ++ [last] :=
  (List.eq_nil_or_concat' signature.params).resolve_left (signature.repeatable many)

private theorem acceptsEach_iff {params : List Param} :
    acceptsEach params arguments ↔ List.Forall₂ Param.Admits params arguments := by
  rw [List.forall₂_iff_zip]
  simp only [acceptsEach, Bool.and_eq_true, beq_iff_eq, List.all_eq_true, Prod.forall,
    Param.accepts_iff]

private theorem forall₂_replicate {relation : α → β → Prop} {count : Nat} {item : α}
    {others : List β} : List.Forall₂ relation (List.replicate count item) others ↔
      others.length = count ∧ ∀ other ∈ others, relation item other := by
  induction others generalizing count with
  | nil => cases count <;> simp [List.replicate_succ]
  | cons other rest ih =>
    cases count with
    | zero => simp
    | succ fewer => simp [List.replicate_succ, ih, and_left_comm]

/-- The repeated parameter takes whatever the parameters before it leave over. -/
theorem repeated_iff {leading : List Param} {last : Param} :
    (∃ copies, List.Forall₂ Param.Admits (leading ++ List.replicate (copies + 1) last) arguments) ↔
      leading.length < arguments.length ∧
        List.Forall₂ Param.Admits leading (arguments.take leading.length) ∧
        ∀ type ∈ arguments.drop leading.length, last.Admits type := by
  constructor
  · intro repeats
    obtain ⟨copies, admitted⟩ := repeats
    have count := admitted.length_eq
    have front := List.forall₂_take leading.length admitted
    have back := List.forall₂_drop leading.length admitted
    rw [List.take_left] at front
    rw [List.drop_left, forall₂_replicate] at back
    simp only [List.length_append, List.length_replicate] at count
    exact ⟨by omega, front, back.2⟩
  · intro parts
    obtain ⟨more, front, back⟩ := parts
    refine ⟨arguments.length - leading.length - 1, ?_⟩
    have rest : List.Forall₂ Param.Admits
        (List.replicate (arguments.length - leading.length - 1 + 1) last)
        (arguments.drop leading.length) := by
      rw [forall₂_replicate, List.length_drop]
      exact ⟨by omega, back⟩
    have whole := List.rel_append front rest
    simpa only [List.take_append_drop] using whole

theorem accepts_iff : signature.accepts arguments ↔ signature.Admits arguments := by
  by_cases many : signature.variadic
  · obtain ⟨leading, last, shape⟩ := exists_last many
    rw [admits_iff_of_variadic many shape, repeated_iff]
    simp only [accepts, if_pos many, shape, List.dropLast_concat, List.getLast?_concat,
      Option.any_some, Bool.and_eq_true, decide_eq_true_eq, acceptsEach_iff, List.all_eq_true,
      Param.accepts_iff, and_assoc]
  · rw [admits_iff_of_fixed many, accepts, if_neg many, acceptsEach_iff]

/-- Every parameter takes an argument, and the repeated one takes at least one. -/
theorem length_of_accepts (accepted : signature.accepts arguments) :
    signature.params.length ≤ arguments.length := by
  have admits := accepts_iff.mp accepted
  by_cases many : signature.variadic
  · obtain ⟨leading, last, shape⟩ := exists_last many
    obtain ⟨more, _⟩ := repeated_iff.mp ((admits_iff_of_variadic many shape).mp admits)
    rw [shape, List.length_append, List.length_singleton]
    exact more
  · exact Nat.le_of_eq ((admits_iff_of_fixed many).mp admits).length_eq

end Signature

/-- Building a signature changes nothing but its name. -/
theorem Signature.of_build {name : String} {params : List Param} {variadic : Bool}
    {returns : ReturnRule} {description : Option String} {signature : Signature}
    (built : Signature.build name params variadic returns description = .ok signature) :
    signature.name = Signature.key name ∧ signature.params = params ∧
      signature.variadic = variadic ∧ signature.returns = returns := by
  unfold Signature.build at built
  split at built
  · cases built
  · split at built
    · cases built
    · split at built
      · cases built
      · rw [← Except.ok.inj built]
        exact ⟨rfl, rfl, rfl, rfl⟩

/-- The result types that a rule allows for some arguments. -/
inductive ReturnRule.Gives (arguments : List SqlType) : ReturnRule → SqlType → Prop where
  | fixed (type : SqlType) : Gives arguments (.fixed type) type
  | sameAsArgument {index : Nat} {type : SqlType} (found : arguments[index]? = some type) :
      Gives arguments (.sameAsArgument index) type
  | widestNumeric {type : SqlType} (widest : SqlType.Widest arguments type) :
      Gives arguments .widestNumeric type
  | items {index : Nat} {items : SqlType} (found : arguments[index]? = some (.array items)) :
      Gives arguments (.elementOf index) items
  | values {index : Nat} {key value : SqlType} (found : arguments[index]? = some (.map key value)) :
      Gives arguments (.elementOf index) value
  | custom {rule : List SqlType → Except TypeError SqlType} {type : SqlType}
      (computed : rule arguments = .ok type) : Gives arguments (.custom rule) type

private theorem Signature.argument_eq_ok_iff {signature : Signature} {arguments : List SqlType}
    {index : Nat} {type : SqlType} :
    signature.argument arguments index = .ok type ↔ arguments[index]? = some type := by
  unfold Signature.argument
  cases arguments[index]? <;> simp

theorem Signature.returnType_eq_ok_iff {signature : Signature} {arguments : List SqlType}
    {type : SqlType} :
    signature.returnType arguments = .ok type ↔ signature.returns.Gives arguments type := by
  unfold Signature.returnType
  cases signature.returns with
  | fixed result =>
    constructor
    · intro returned
      cases returned
      exact .fixed type
    · intro gives
      cases gives
      rfl
  | sameAsArgument index =>
    simp only [unplaced_eq_ok_iff, argument_eq_ok_iff]
    constructor
    · exact .sameAsArgument
    · intro gives
      cases gives with
      | sameAsArgument found => exact found
  | widestNumeric =>
    rw [unplaced_eq_ok_iff]
    constructor
    · intro computed
      split at computed
      next found =>
        cases computed
        exact .widestNumeric (SqlType.widest?_eq_some_iff.mp found)
      next => cases computed
    · intro gives
      cases gives with
      | widestNumeric widest => rw [SqlType.widest?_eq_some_iff.mpr widest]
  | elementOf index =>
    simp only [unplaced_eq_ok_iff, bind_eq_ok_iff, argument_eq_ok_iff]
    constructor
    · intro returned
      obtain ⟨container, found, selected⟩ := returned
      cases container with
      | array items =>
        cases selected
        exact .items found
      | map key value =>
        cases selected
        exact .values found
      | _ => cases selected
    · intro gives
      cases gives with
      | items found => exact ⟨_, found, rfl⟩
      | values found => exact ⟨_, found, rfl⟩
  | custom rule =>
    constructor
    · exact .custom
    · intro gives
      cases gives with
      | custom computed => exact computed

/-- The rule of the widest number finds one, or complains that there is none. -/
theorem Signature.returnType_of_widestNumeric {signature : Signature}
    (computes : signature.returns = .widestNumeric) (arguments : List SqlType) :
    (∃ type, SqlType.Widest arguments type ∧ signature.returnType arguments = .ok type) ∨
      (∀ argument ∈ arguments, ¬ argument.isNumeric) ∧ signature.returnType arguments =
        .error { cause := .noNumericArgument signature.name } := by
  rw [returnType, computes]
  cases found : SqlType.widest? arguments with
  | some type => exact .inl ⟨type, SqlType.widest?_eq_some_iff.mp found, rfl⟩
  | none =>
    refine .inr ⟨?_, rfl⟩
    intro argument member numeric
    obtain ⟨type, widest⟩ := SqlType.exists_widest member numeric
    cases found.symm.trans (SqlType.widest?_eq_some_iff.mpr widest)

theorem Signature.exists_returnType_iff {signature : Signature}
    (computes : signature.returns = .widestNumeric) (arguments : List SqlType) :
    (∃ type, signature.returnType arguments = .ok type) ↔
      ∃ argument ∈ arguments, argument.isNumeric := by
  rcases returnType_of_widestNumeric computes arguments with
    ⟨type, widest, returned⟩ | ⟨none, refused⟩
  · exact ⟨fun _ => ⟨type, widest.member, widest.numeric⟩, fun _ => ⟨type, returned⟩⟩
  · constructor
    · intro typed
      obtain ⟨type, returned⟩ := typed
      cases refused.symm.trans returned
    · intro numbers
      obtain ⟨argument, member, numeric⟩ := numbers
      exact absurd numeric (none argument member)

end QueryTyping
