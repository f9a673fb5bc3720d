import QueryTyping.SqlType.Numeric

/-! Promotion as a relation between types. It orders the types, the numeric ones among them in a
chain, so that of several numeric types one is the widest. -/

namespace QueryTyping.SqlType

/-- A value of the first type may stand where one of the second is expected. -/
inductive Promotes : SqlType → SqlType → Prop where
  | same (type : SqlType) : Promotes type type
  | int32_int64 : Promotes .int32 .int64
  | int32_float64 : Promotes .int32 .float64
  | int64_float64 : Promotes .int64 .float64

theorem promotes_iff {source target : SqlType} :
    source.promotes target ↔ source.Promotes target := by
  constructor
  · intro allowed
    simp only [promotes, Bool.or_eq_true, beq_iff_eq] at allowed
    rcases allowed with rfl | ranked
    · exact .same source
    · cases source <;> cases target <;> first | constructor | simp [rank?] at ranked
  · intro allowed
    cases allowed with
    | same type => exact promotes_self _
    | _ => rfl

namespace Promotes

theorem trans {low middle high : SqlType} (first : low.Promotes middle)
    (second : middle.Promotes high) : low.Promotes high := by
  cases first with
  | same => exact second
  | _ => cases second <;> constructor

theorem antisymm {left right : SqlType} (up : left.Promotes right) (down : right.Promotes left) :
    left = right := by
  cases up with
  | same => rfl
  | _ => cases down

theorem rank_le {low high : SqlType} (promotes : low.Promotes high) {least : Nat}
    (ranked : low.rank? = some least) : ∃ most, high.rank? = some most ∧ least ≤ most := by
  cases promotes with
  | same => exact ⟨least, ranked, Nat.le_refl _⟩
  | _ =>
    cases ranked
    exact ⟨_, rfl, by decide⟩

end Promotes

/-- One of the numeric types in a list, to which all others of them promote. -/
structure Widest (types : List SqlType) (type : SqlType) : Prop where
  member : type ∈ types
  numeric : type.isNumeric
  above : ∀ other ∈ types, other.isNumeric → other.Promotes type

theorem Widest.unique {types : List SqlType} {first second : SqlType} (left : Widest types first)
    (right : Widest types second) : first = second :=
  (right.above first left.member left.numeric).antisymm
    (left.above second right.member right.numeric)

/-- No numeric type of the list stands higher in the chain. -/
theorem Widest.rank {types : List SqlType} {type : SqlType} (widest : Widest types type) :
    ∃ most, type.rank? = some most ∧ ∀ other ∈ types, other.isNumeric →
      ∃ least, other.rank? = some least ∧ least ≤ most := by
  obtain ⟨most, highest⟩ := Option.isSome_iff_exists.mp (isNumeric_iff.mp widest.numeric)
  refine ⟨most, highest, ?_⟩
  intro other member numeric
  obtain ⟨least, ranked⟩ := Option.isSome_iff_exists.mp (isNumeric_iff.mp numeric)
  obtain ⟨same, found, below⟩ := (widest.above other member numeric).rank_le ranked
  cases highest.symm.trans found
  exact ⟨least, ranked, below⟩

/-- The greatest of the ranks is that of the widest type. -/
theorem Widest.max_rank {types : List SqlType} {type : SqlType} (widest : Widest types type) :
    type.rank? = (types.filterMap rank?).max? := by
  obtain ⟨most, highest, below⟩ := widest.rank
  rw [highest, eq_comm, List.max?_eq_some_iff]
  refine ⟨List.mem_filterMap.mpr ⟨type, widest.member, highest⟩, ?_⟩
  intro rank listed
  obtain ⟨other, member, ranked⟩ := List.mem_filterMap.mp listed
  have numeric : other.isNumeric := isNumeric_iff.mpr (ranked ▸ rfl)
  obtain ⟨least, found, bound⟩ := below other member numeric
  cases ranked.symm.trans found
  exact bound

theorem Widest.congr {types others : List SqlType} {type : SqlType} (widest : Widest types type)
    (same : ∀ number, number.isNumeric → (number ∈ types ↔ number ∈ others)) :
    Widest others type := by
  refine ⟨(same type widest.numeric).mp widest.member, widest.numeric, ?_⟩
  intro other found numeric
  exact widest.above other ((same other numeric).mpr found) numeric

/-- In front of other types, the widest type of a list may stand for all of it. -/
theorem Widest.expand {front rest : List SqlType} {middle type : SqlType}
    (inner : Widest front middle) (outer : Widest (middle :: rest) type) :
    Widest (front ++ rest) type := by
  refine ⟨?_, outer.numeric, ?_⟩
  · rcases List.mem_cons.mp outer.member with rfl | later
    · exact List.mem_append_left _ inner.member
    · exact List.mem_append_right _ later
  · intro other member numeric
    rcases List.mem_append.mp member with here | there
    · have most := outer.above middle List.mem_cons_self inner.numeric
      exact (inner.above other here numeric).trans most
    · exact outer.above other (List.mem_cons_of_mem _ there) numeric

/-- The widest type of two lists is the widest of what is widest in each. -/
theorem Widest.append {types others : List SqlType} {first second wider : SqlType}
    (left : Widest types first) (right : Widest others second)
    (widest : Widest [first, second] wider) : Widest (types ++ others) wider := by
  have swapped : Widest (second :: types) wider :=
    (left.expand widest).congr fun number _ => by simp [or_comm]
  exact (right.expand swapped).congr fun number _ => by simp [or_comm]

private theorem widen?_of_numeric {left right : SqlType} (first : left.isNumeric)
    (second : right.isNumeric) : ∃ wider, left.widen? right = some wider ∧
      Widest [left, right] wider := by
  have result : left.widen? right = some left ∧ right.Promotes left ∨
      left.widen? right = some right ∧ left.Promotes right := by
    cases left <;> cases first <;> cases right <;> cases second <;>
      first | exact .inl ⟨rfl, by constructor⟩ | exact .inr ⟨rfl, by constructor⟩
  rcases result with ⟨same, up⟩ | ⟨same, up⟩
  · refine ⟨left, same, by simp, first, ?_⟩
    simpa using ⟨fun _ => .same left, fun _ => up⟩
  · refine ⟨right, same, by simp, second, ?_⟩
    simpa using ⟨fun _ => up, fun _ => .same right⟩

theorem widen?_eq_some_iff {left right wider : SqlType} :
    left.widen? right = some wider ↔
      left.isNumeric ∧ right.isNumeric ∧ Widest [left, right] wider := by
  constructor
  · intro widened
    have first : left.isNumeric := by
      rw [isNumeric_iff]
      cases rank : left.rank? with
      | none => simp [widen?, rank] at widened
      | some low => rfl
    have second : right.isNumeric := by
      rw [isNumeric_iff]
      cases rank : right.rank? with
      | none => simp [widen?, rank] at widened
      | some high => rfl
    obtain ⟨found, same, widest⟩ := widen?_of_numeric first second
    cases same.symm.trans widened
    exact ⟨first, second, widest⟩
  · intro wide
    obtain ⟨first, second, widest⟩ := wide
    obtain ⟨found, same, other⟩ := widen?_of_numeric first second
    rw [same, other.unique widest]

/-- Widening one type after the other ends with the widest of them. As two numbers can always be
widened, the default is never taken. -/
private theorem widest_foldl {first : SqlType} {rest : List SqlType} (numeric : first.isNumeric)
    (others : ∀ type ∈ rest, type.isNumeric) :
    let last := rest.foldl (fun found type => (found.widen? type).getD found) first
    rest.foldlM widen? first = some last ∧ Widest (first :: rest) last := by
  induction rest generalizing first with
  | nil =>
    refine ⟨rfl, List.mem_singleton_self _, numeric, ?_⟩
    simpa using fun _ => .same first
  | cons next rest ih =>
    obtain ⟨wider, widened, widest⟩ :=
      widen?_of_numeric numeric (others next List.mem_cons_self)
    rw [List.foldlM_cons, List.foldl_cons, widened, Option.getD_some]
    obtain ⟨succeeds, last⟩ :=
      ih widest.numeric fun type found => others type (List.mem_cons_of_mem _ found)
    exact ⟨succeeds, widest.expand last⟩

theorem widest?_of_numbers {types rest : List SqlType} {first : SqlType}
    (numbers : types.filter isNumeric = first :: rest) :
    widest? types = rest.foldlM widen? first := by
  have all : ∀ type ∈ first :: rest, type.isNumeric := by
    rw [← numbers]
    exact fun type found => (List.mem_filter.mp found).2
  obtain ⟨numeric, others⟩ := List.forall_mem_cons.mp all
  rw [(widest_foldl numeric others).1, widest?, numbers]

private theorem widest_filter {types : List SqlType} {type : SqlType} :
    Widest (types.filter isNumeric) type ↔ Widest types type := by
  constructor
  · intro widest
    obtain ⟨member, numeric, above⟩ := widest
    refine ⟨(List.mem_filter.mp member).1, numeric, ?_⟩
    exact fun other found number => above other (List.mem_filter.mpr ⟨found, number⟩) number
  · intro widest
    obtain ⟨member, numeric, above⟩ := widest
    refine ⟨List.mem_filter.mpr ⟨member, numeric⟩, numeric, ?_⟩
    exact fun other found number => above other (List.mem_filter.mp found).1 number

theorem widest?_eq_some_iff {types : List SqlType} {type : SqlType} :
    widest? types = some type ↔ Widest types type := by
  rw [← widest_filter, widest?]
  have all : ∀ type ∈ types.filter isNumeric, type.isNumeric :=
    fun type found => (List.mem_filter.mp found).2
  cases numbers : types.filter isNumeric with
  | nil =>
    constructor
    · intro impossible
      cases impossible
    · intro widest
      cases widest.member
  | cons first rest =>
    rw [numbers] at all
    obtain ⟨numeric, others⟩ := List.forall_mem_cons.mp all
    obtain ⟨_, widest⟩ := widest_foldl numeric others
    constructor
    · intro same
      cases same
      exact widest
    · exact fun other => congrArg some (widest.unique other)

/-- Only the numeric types in a list matter, and neither their order nor how often they occur. -/
theorem widest?_congr {types others : List SqlType}
    (same : ∀ number, number.isNumeric → (number ∈ types ↔ number ∈ others)) :
    widest? types = widest? others := by
  apply Option.ext
  intro type
  rw [widest?_eq_some_iff, widest?_eq_some_iff]
  constructor
  · exact fun widest => widest.congr same
  · exact fun widest => widest.congr fun number numeric => (same number numeric).symm

theorem exists_widest {types : List SqlType} {type : SqlType} (member : type ∈ types)
    (numeric : type.isNumeric) : ∃ widest, Widest types widest := by
  cases found : widest? types with
  | some widest => exact ⟨widest, widest?_eq_some_iff.mp found⟩
  | none =>
    have kept : type ∈ types.filter isNumeric := List.mem_filter.mpr ⟨member, numeric⟩
    unfold widest? at found
    split at found
    next nothing =>
      rw [nothing] at kept
      cases kept
    next => cases found

end QueryTyping.SqlType
