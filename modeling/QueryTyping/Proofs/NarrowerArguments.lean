import QueryTyping.Function.Builtin
import QueryTyping.Proofs.Overload
import QueryTyping.Proofs.Traversal

/-! Calls whose arguments get narrower. An overload that admits some arguments admits all those that
promote to them, so that a call may move to an earlier overload but never past its own. Whether its
result gets no wider by such a move depends on the overloads, and is tested for each two of them. -/

namespace QueryTyping

private theorem related_at {relation : α → β → Prop} {items : List α} {others : List β}
    (related : List.Forall₂ relation items others) {index : Nat} {other : β}
    (found : others[index]? = some other) :
    ∃ item, items[index]? = some item ∧ relation item other := by
  induction related generalizing index with
  | nil => simp at found
  | @cons item here _ _ holds _ ih =>
    cases index with
    | zero =>
      obtain rfl : here = other := by simpa using found
      exact ⟨item, rfl, holds⟩
    | succ index => exact ih found

namespace SqlType

/-- The first list has the types of the second one or narrower ones, position by position. -/
abbrev PromoteTo (narrower arguments : List SqlType) : Prop :=
  List.Forall₂ Promotes narrower arguments

theorem Promotes.isNumeric_iff {low high : SqlType} (promotes : low.Promotes high) :
    low.isNumeric ↔ high.isNumeric := by
  cases promotes with
  | same => exact Iff.rfl
  | _ => simp [isNumeric]

/-- The widest of narrower types is not wider. -/
theorem Widest.narrow {narrower arguments : List SqlType} {type : SqlType}
    (widest : Widest arguments type) (below : PromoteTo narrower arguments) :
    ∃ low, Widest narrower low ∧ low.Promotes type := by
  obtain ⟨beneath, member, promotes⟩ := related_of_mem below widest.member
  have numeric : beneath.isNumeric := promotes.isNumeric_iff.mpr widest.numeric
  obtain ⟨low, found⟩ := exists_widest member numeric
  obtain ⟨above, present, upward⟩ := related_of_mem below.flip found.member
  have number : above.isNumeric := upward.isNumeric_iff.mp found.numeric
  exact ⟨low, found, upward.trans (widest.above above present number)⟩

end SqlType

open SqlType (PromoteTo)

variable {narrower arguments : List SqlType}

theorem Param.Admits.narrow {param : Param} {low high : SqlType} (admits : param.Admits high)
    (promotes : low.Promotes high) : param.Admits low := by
  cases admits with
  | exact accepted => exact .exact (promotes.trans accepted)
  | numeric number => exact .numeric (promotes.isNumeric_iff.mpr number)
  | any => exact .any low
  | _ =>
    -- Nothing but the type itself promotes to a composite type.
    cases promotes
    constructor

theorem Signature.Admits.narrow {signature : Signature} (admits : signature.Admits arguments)
    (below : PromoteTo narrower arguments) : signature.Admits narrower := by
  obtain ⟨positions, expands, admitted⟩ := admits
  refine ⟨positions, expands, ?_⟩
  clear expands
  induction below generalizing positions with
  | nil =>
    cases admitted
    exact .nil
  | cons promotes _ ih =>
    cases admitted with
    | cons here later => exact .cons (here.narrow promotes) (ih _ later)

/-- When a condition gets weaker, the leftmost item that meets it stays or moves to the left. -/
theorem First.weaken {meets weaker : α → Prop} {items : List α} {found : α}
    (first : First meets items found) (weakens : ∀ item, meets item → weaker item) :
    ∃ earlier, First weaker items earlier ∧ (earlier = found ∨ [earlier, found].Sublist items) := by
  classical
  obtain ⟨before, after, split, met, _⟩ := first
  cases search : before.find? (decide <| weaker ·) with
  | none =>
    have none : ∀ item ∈ before, ¬ weaker item := by simpa using List.find?_eq_none.mp search
    exact ⟨found, ⟨before, after, split, weakens found met, none⟩, .inl rfl⟩
  | some earlier =>
    obtain ⟨front, behind, divided, holds, none⟩ :=
      (find?_eq_some_iff_first fun _ => decide_eq_true_iff).mp search
    refine ⟨earlier, ⟨front, behind ++ found :: after, ?_, holds, none⟩, .inr ?_⟩
    · rw [split, divided, List.append_assoc, List.cons_append]
    · have member : earlier ∈ before := by simp [divided]
      rw [split, ← List.singleton_append (l := [found])]
      exact (List.singleton_sublist.mpr member).append
        (List.singleton_sublist.mpr List.mem_cons_self)

namespace ReturnRule

/-- Nothing is known about the results of a custom rule. -/
def isCustom : ReturnRule → Bool
  | custom _ => true
  | _ => false

theorem Gives.narrow {rule : ReturnRule} {type : SqlType} (gives : rule.Gives arguments type)
    (below : PromoteTo narrower arguments) (computed : ¬ rule.isCustom) :
    ∃ low, rule.Gives narrower low ∧ low.Promotes type := by
  cases gives with
  | fixed => exact ⟨type, .fixed type, .same type⟩
  | sameAsArgument found =>
    obtain ⟨low, here, promotes⟩ := related_at below found
    exact ⟨low, .sameAsArgument here, promotes⟩
  | widestNumeric widest =>
    obtain ⟨low, found, promotes⟩ := widest.narrow below
    exact ⟨low, .widestNumeric found, promotes⟩
  | items found =>
    obtain ⟨low, here, promotes⟩ := related_at below found
    cases promotes
    exact ⟨type, .items here, .same type⟩
  | values found =>
    obtain ⟨low, here, promotes⟩ := related_at below found
    cases promotes
    exact ⟨type, .values here, .same type⟩
  | custom => exact absurd rfl computed

end ReturnRule

namespace Signature

/-- Whether a call that moves from the later of two overloads to the earlier one keeps its result or
gets a narrower one. There is no such move between overloads of different numbers of arguments. -/
def precedes (earlier later : Signature) : Bool :=
  !earlier.variadic && !later.variadic &&
    (earlier.params.length != later.params.length ||
      match earlier.returns, later.returns with
      | .sameAsArgument index, .sameAsArgument other => index == other
      | .sameAsArgument index, .fixed type =>
        match earlier.params[index]? with
        | some (.exact bound) => bound.promotes type
        | _ => false
      | _, _ => false)

theorem narrow_of_precedes {earlier later : Signature} {type : SqlType}
    (precedes : earlier.precedes later) (admits : later.Admits arguments)
    (gives : later.returns.Gives arguments type) (below : PromoteTo narrower arguments)
    (moved : earlier.Admits narrower) :
    ∃ low, earlier.returns.Gives narrower low ∧ low.Promotes type := by
  simp only [Signature.precedes, Bool.and_eq_true, Bool.or_eq_true, Bool.not_eq_true',
    bne_iff_ne] at precedes
  obtain ⟨⟨single, alone⟩, result⟩ := precedes
  have taken := (admits_iff_of_fixed (Bool.eq_false_iff.mp single)).mp moved
  rcases result with different | result
  · have count := ((admits_iff_of_fixed (Bool.eq_false_iff.mp alone)).mp admits).length_eq
    have same := taken.length_eq
    have total := below.length_eq
    omega
  · split at result
    next index other first second =>
      obtain rfl : index = other := by simpa using result
      rw [second] at gives
      rw [first]
      exact gives.narrow below (by simp [ReturnRule.isCustom])
    next index bound first second =>
      split at result
      next param found =>
        obtain ⟨low, here, admitted⟩ := related_at taken.flip found
        rw [second] at gives
        rw [first]
        cases gives
        cases admitted with
        | exact promotes =>
          have within := SqlType.promotes_iff.mp result
          exact ⟨low, .sameAsArgument here, promotes.trans within⟩
      next => cases result
    next => cases result

end Signature

/-- Narrower arguments never widen the result of a call that has these overloads to choose from. -/
structure Steady (overloads : List Signature) : Prop where
  computed : ∀ signature ∈ overloads, ¬ signature.returns.isCustom
  ordered : overloads.Pairwise fun earlier later => earlier.precedes later

instance (overloads : List Signature) : Decidable (Steady overloads) :=
  decidable_of_iff ((∀ signature ∈ overloads, ¬ signature.returns.isCustom) ∧
    overloads.Pairwise fun earlier later => earlier.precedes later)
    ⟨fun both => ⟨both.1, both.2⟩, fun steady => ⟨steady.computed, steady.ordered⟩⟩

/-- Narrower arguments find an overload too, and their result promotes to the result before. -/
theorem Steady.narrow {overloads : List Signature} (steady : Steady overloads)
    {signature : Signature} {type : SqlType}
    (first : First (Signature.Admits · arguments) overloads signature)
    (gives : signature.returns.Gives arguments type) (below : PromoteTo narrower arguments) :
    ∃ earlier low, First (Signature.Admits · narrower) overloads earlier ∧
      earlier.returns.Gives narrower low ∧ low.Promotes type := by
  obtain ⟨_, _, split, admits, _⟩ := id first
  obtain ⟨earlier, found, same | before⟩ := first.weaken fun _ admits => admits.narrow below
  · have member : signature ∈ overloads := by simp [split]
    obtain ⟨low, result, promotes⟩ := gives.narrow below (steady.computed signature member)
    exact ⟨earlier, low, found, same ▸ result, promotes⟩
  · obtain ⟨_, _, _, moved, _⟩ := id found
    have precedes := List.pairwise_iff_forall_sublist.mp steady.ordered before
    obtain ⟨low, result, promotes⟩ :=
      Signature.narrow_of_precedes precedes admits gives below moved
    exact ⟨earlier, low, found, result, promotes⟩

/-- All built-in functions are steady. `ROUND` of a `FLOAT64` is an `INT64`, and of an integer the
integer itself. -/
theorem Registry.builtin_steady : ∀ entry ∈ Registry.builtin.entries, Steady entry.2 := by
  decide +kernel

end QueryTyping
