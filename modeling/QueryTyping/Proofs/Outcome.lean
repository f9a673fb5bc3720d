import QueryTyping.TypeError

/-! Results that are a value or an error: when a sequence of steps has one, and what placing an
error changes about it. Placing fills in the position and never touches the cause. -/

namespace QueryTyping

@[simp] theorem ok_bind (value : α) (next : α → Except ε β) :
    (Except.ok value >>= next) = next value :=
  rfl

@[simp] theorem error_bind (error : ε) (next : α → Except ε β) :
    (Except.error error >>= next) = .error error :=
  rfl

theorem bind_eq_ok_iff {first : Except ε α} {next : α → Except ε β} {result : β} :
    (first >>= next) = .ok result ↔ ∃ value, first = .ok value ∧ next value = .ok result := by
  cases first <;> simp

theorem bind_eq_error_iff {first : Except ε α} {next : α → Except ε β} {error : ε} :
    (first >>= next) = .error error ↔
      first = .error error ∨ ∃ value, first = .ok value ∧ next value = .error error := by
  cases first <;> simp

theorem map_eq_ok_iff {first : Except ε α} {change : α → β} {result : β} :
    change <$> first = .ok result ↔ ∃ value, first = .ok value ∧ change value = result := by
  cases first <;> simp [Functor.map, Except.map]

theorem map_eq_error_iff {first : Except ε α} {change : α → β} {error : ε} :
    change <$> first = .error error ↔ first = .error error := by
  cases first <;> simp [Functor.map, Except.map]

@[simp] theorem mapError_ok (change : ε → δ) (value : α) :
    Except.mapError change (.ok value) = .ok value :=
  rfl

@[simp] theorem mapError_error (change : ε → δ) (error : ε) :
    Except.mapError change (.error error : Except ε α) = .error (change error) :=
  rfl

@[simp] theorem mapError_eq_ok_iff {result : Except ε α} {change : ε → δ} {value : α} :
    Except.mapError change result = .ok value ↔ result = .ok value := by
  cases result <;> simp

theorem mapError_eq_error_iff {result : Except ε α} {change : ε → δ} {error : δ} :
    Except.mapError change result = .error error ↔
      ∃ inner, result = .error inner ∧ change inner = error := by
  cases result <;> simp

@[simp] theorem unplaced_eq_ok_iff {result : Except Cause α} {value : α} :
    unplaced result = .ok value ↔ result = .ok value :=
  mapError_eq_ok_iff

theorem unplaced_eq_error_iff {result : Except Cause α} {error : TypeError} :
    unplaced result = .error error ↔ ∃ cause, result = .error cause ∧ { cause } = error :=
  mapError_eq_error_iff

@[simp] theorem TypeError.locate_kind (span : Option Span) (error : TypeError) :
    (error.locate span).kind = error.kind :=
  rfl

/-- Why a result is an error, whatever its position. -/
def failure? : Except TypeError α → Option Cause
  | .ok _ => none
  | .error error => some error.cause

theorem failure?_eq_none_iff {result : Except TypeError α} :
    failure? result = none ↔ ∃ value, result = .ok value := by
  cases result <;> simp [failure?]

theorem failure?_eq_some_iff {result : Except TypeError α} {cause : Cause} :
    failure? result = some cause ↔ ∃ error, result = .error error ∧ error.cause = cause := by
  cases result <;> simp [failure?]

end QueryTyping
