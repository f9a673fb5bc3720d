import QueryTyping.Proofs.Overload

/-! What a single signature promises, whatever registry holds it. It accepts as many arguments as it
has parameters, each at its own position, once the last parameter of a variadic one is written out
as often as it is needed. A result that is the widest number depends on nothing but which numeric
types are among the arguments. -/

namespace QueryTyping

/-- No argument is refused by the parameter at its position. -/
def Param.InPlace (params : List Param) (arguments : List SqlType) : Prop :=
  ∀ (index : Nat) (param : Param) (type : SqlType),
    params[index]? = some param → arguments[index]? = some type → param.accepts type

theorem Param.forall₂_admits_iff {params : List Param} {arguments : List SqlType} :
    List.Forall₂ Param.Admits params arguments ↔
      arguments.length = params.length ∧ InPlace params arguments := by
  rw [List.forall₂_iff_get, eq_comm]
  apply and_congr_right
  intro count
  constructor
  · intro admitted index param type declared passed
    obtain ⟨inside, rfl⟩ := List.getElem?_eq_some_iff.mp declared
    obtain ⟨within, rfl⟩ := List.getElem?_eq_some_iff.mp passed
    exact accepts_iff.mpr (admitted index inside within)
  · intro accepted index inside within
    have declared := List.getElem?_eq_getElem inside
    have passed := List.getElem?_eq_getElem within
    exact accepts_iff.mp (accepted index _ _ declared passed)

namespace Signature

variable {signature : Signature} {arguments : List SqlType}

private theorem accepts_iff_of_fixed (single : ¬ signature.variadic) :
    signature.accepts arguments ↔
      arguments.length = signature.params.length ∧ Param.InPlace signature.params arguments := by
  rw [accepts_iff, admits_iff_of_fixed single, Param.forall₂_admits_iff]

section Variadic

variable {leading : List Param} {repeated : Param}

private theorem accepts_iff_of_variadic (many : signature.variadic)
    (shape : signature.params = leading ++ [repeated]) :
    signature.accepts arguments ↔ ∃ repeats, 1 ≤ repeats ∧
      arguments.length = signature.params.length - 1 + repeats ∧
      Param.InPlace (leading ++ List.replicate repeats repeated) arguments := by
  rw [accepts_iff, admits_iff_of_variadic many shape]
  simp only [Param.forall₂_admits_iff, List.length_append, List.length_replicate, shape,
    List.length_singleton, Nat.add_sub_cancel]
  constructor
  · intro accepted
    obtain ⟨copies, admitted⟩ := accepted
    exact ⟨copies + 1, Nat.le_add_left 1 copies, admitted⟩
  · intro accepted
    obtain ⟨repeats, some, admitted⟩ := accepted
    obtain ⟨copies, rfl⟩ := Nat.exists_eq_add_of_le' some
    exact ⟨copies, admitted⟩

private theorem accepts_trailing (many : signature.variadic)
    (shape : signature.params = leading ++ [repeated]) (accepted : signature.accepts arguments) :
    ∀ type ∈ arguments.drop (signature.params.length - 1), repeated.accepts type := by
  intro type trailing
  rw [shape, List.length_append, List.length_singleton, Nat.add_sub_cancel] at trailing
  have repeats := (admits_iff_of_variadic many shape).mp (accepts_iff.mp accepted)
  obtain ⟨_, _, admitted⟩ := repeated_iff.mp repeats
  exact Param.accepts_iff.mpr (admitted type trailing)

end Variadic

/-- Arguments are accepted position by position. Without repetition there are as many of them as there
are parameters. The last parameter of a variadic signature stands for one argument or more, so that
there are never fewer arguments than parameters, and none of those at the end escapes it. -/
theorem accepts_by_position (signature : Signature) (arguments : List SqlType) :
    (¬ signature.variadic → (signature.accepts arguments ↔
      arguments.length = signature.params.length ∧
        Param.InPlace signature.params arguments)) ∧
    (signature.variadic → ∃ leading repeated, signature.params = leading ++ [repeated] ∧
      (signature.accepts arguments ↔ ∃ repeats, 1 ≤ repeats ∧
        arguments.length = signature.params.length - 1 + repeats ∧
        Param.InPlace (leading ++ List.replicate repeats repeated) arguments) ∧
      (signature.accepts arguments → signature.params.length ≤ arguments.length ∧
        ∀ type ∈ arguments.drop (signature.params.length - 1), repeated.accepts type)) := by
  refine ⟨accepts_iff_of_fixed, ?_⟩
  intro many
  obtain ⟨leading, repeated, shape⟩ := exists_last many
  refine ⟨leading, repeated, shape, accepts_iff_of_variadic many shape, ?_⟩
  exact fun accepted => ⟨length_of_accepts accepted, accepts_trailing many shape accepted⟩

/-- A label, a whole number, and one number or more. -/
def tally : Signature where
  name := "TALLY"
  params := [.exact .string, .exact .int64, .numeric]
  variadic := true
  returns := .widestNumeric
  description := none
  keyed := by decide
  named := by decide
  repeatable := by decide
  declared := by
    intro index refers
    cases refers

/-- Two numbers at the end are the last parameter twice. None is too few, and a truth value there is
refused behind a number too. -/
theorem tally_accepts_by_position :
    tally.variadic ∧
    tally.accepts [.string, .int32, .int32, .float64] ∧
    Param.InPlace ([.exact .string, .exact .int64] ++ List.replicate 2 .numeric)
      [.string, .int32, .int32, .float64] ∧
    ¬ tally.accepts [.string, .int64] ∧
    ¬ tally.accepts [.string, .int64, .int32, .boolean] := by
  have many : tally.variadic := rfl
  have split : tally.params = [.exact .string, .exact .int64] ++ [.numeric] := rfl
  have accepted : tally.accepts [.string, .int32, .int32, .float64] := by decide
  refine ⟨many, accepted, ?_, ?_, ?_⟩
  · obtain ⟨leading, repeated, shape, expands, _⟩ := (accepts_by_position tally _).2 many
    obtain ⟨rfl, last⟩ := List.append_inj' (split.symm.trans shape) rfl
    cases last
    obtain ⟨repeats, _, count, inPlace⟩ := expands.mp accepted
    obtain rfl : 2 = repeats := Nat.add_left_cancel count
    exact inPlace
  · intro short
    obtain ⟨_, _, _, _, bounds⟩ := (accepts_by_position tally _).2 many
    exact absurd (bounds short).1 (by decide)
  · intro mixed
    obtain ⟨leading, repeated, shape, _, bounds⟩ := (accepts_by_position tally _).2 many
    obtain ⟨_, last⟩ := List.append_inj' (split.symm.trans shape) rfl
    cases last
    exact absurd ((bounds mixed).2 .boolean (by decide)) (by decide)

/-- The widest number is found when there is a number at all. It is one of the arguments, its rank is
the greatest, and every number among them promotes to it. On the way no two types are met that cannot
be widened. Neither the order of the arguments nor how often they are repeated makes a difference, and
types that are no numbers may come and go. -/
theorem returnType_widest (signature : Signature) (computes : signature.returns = .widestNumeric)
    (arguments : List SqlType) :
    ((∃ type, signature.returnType arguments = .ok type) ↔
      ∃ argument ∈ arguments, argument.isNumeric) ∧
    (∀ type, signature.returnType arguments = .ok type →
      type ∈ arguments ∧ type.isNumeric ∧
        type.rank? = (arguments.filterMap SqlType.rank?).max? ∧
        ∀ argument ∈ arguments, argument.isNumeric → argument.promotes type) ∧
    (∀ first rest, arguments.filter SqlType.isNumeric = first :: rest →
      ∃ type, rest.foldlM SqlType.widen? first = some type ∧
        signature.returnType arguments = .ok type) ∧
    ∀ others : List SqlType,
      (∀ number, number.isNumeric → (number ∈ others ↔ number ∈ arguments)) →
      signature.returnType others = signature.returnType arguments := by
  refine ⟨exists_returnType_iff computes arguments, ?_, ?_, ?_⟩
  · intro type returned
    rw [returnType_eq_ok_iff, computes] at returned
    cases returned with
    | widestNumeric widest =>
      refine ⟨widest.member, widest.numeric, widest.max_rank, ?_⟩
      intro argument member numeric
      exact SqlType.promotes_iff.mpr (widest.above argument member numeric)
  · intro first rest numbers
    have numeric : first ∈ arguments.filter SqlType.isNumeric := by
      rw [numbers]
      exact List.mem_cons_self
    obtain ⟨member, number⟩ := List.mem_filter.mp numeric
    obtain ⟨type, widest⟩ := SqlType.exists_widest member number
    refine ⟨type, ?_, ?_⟩
    · rw [← SqlType.widest?_of_numbers numbers, SqlType.widest?_eq_some_iff]
      exact widest
    · rw [returnType_eq_ok_iff, computes]
      exact .widestNumeric widest
  · intro others same
    simp only [returnType, computes, SqlType.widest?_congr same]

/-- The same numbers in another order, one of them twice, and another type beside them. -/
theorem tally_returnType_widest :
    tally.returns = .widestNumeric ∧
    (∀ number : SqlType, number.isNumeric →
      (number ∈ [.float64, .int64, .boolean, .int32, .float64] ↔
        number ∈ [SqlType.string, .int64, .int32, .float64])) ∧
    tally.returnType [.string, .int64, .int32, .float64] = .ok .float64 ∧
    tally.returnType [.float64, .int64, .boolean, .int32, .float64] = .ok .float64 ∧
    (SqlType.int64).promotes .float64 := by
  have computes : tally.returns = .widestNumeric := rfl
  have same : ∀ number : SqlType, number.isNumeric →
      (number ∈ [.float64, .int64, .boolean, .int32, .float64] ↔
        number ∈ [SqlType.string, .int64, .int32, .float64]) := by
    intro number numeric
    cases number <;> cases numeric <;> decide
  have returned : tally.returnType [.string, .int64, .int32, .float64] = .ok .float64 := rfl
  obtain ⟨_, greatest, _, unchanged⟩ :=
    returnType_widest tally computes [.string, .int64, .int32, .float64]
  obtain ⟨_, _, _, above⟩ := greatest _ returned
  exact ⟨computes, same, returned, (unchanged _ same).trans returned, above _ (by decide) rfl⟩

end Signature

end QueryTyping
