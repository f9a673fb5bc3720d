import QueryTyping.Function.Builtin
import QueryTyping.Proofs.Agreement
import QueryTyping.Proofs.Causes
import QueryTyping.Proofs.Registration

/-! Registering functions keeps what could be typed before. A call that found its overload finds
the same one again, so that only calls that found none can turn out differently. -/

namespace QueryTyping

theorem Registry.Extends.resolve_agrees {registry extended : Registry}
    (growth : registry.Extends extended) (function : String) (arguments : List SqlType) :
    Agrees ErrorKind.Unresolved (registry.toCatalog.resolve function arguments)
      (extended.toCatalog.resolve function arguments) := by
  rcases registry.toCatalog.resolve_cases function arguments with
    ⟨signature, known, found, same⟩ | ⟨error, failed, unresolved⟩
  · right
    have again : extended.toCatalog.lookup (Text.upper function) arguments = some signature :=
      growth.lookup found
    rw [same, Catalog.resolve_of_lookup (growth.contains _ known) again]
  · exact .inl ⟨error, failed, unresolved⟩

namespace Environment

theorem conclude_agrees (schema : Schema) (options : InferenceOptions) {first second : Catalog}
    {excused : ErrorKind → Prop}
    (calls : ∀ function arguments,
      Agrees excused (first.resolve function arguments) (second.resolve function arguments))
    (expr : Expr) (types : List SqlType) :
    Agrees excused ((Environment.mk schema first options).conclude expr types)
      ((Environment.mk schema second options).conclude expr types) := by
  unfold conclude
  split
  all_goals first | exact .refl _ | exact calls _ _

/-- However many functions are registered, what has a type keeps it, and what fails for another
reason than a call without an overload fails as before. -/
theorem infer_of_registered {registry extended : Registry} {registrations : List Registration}
    (registered : registrations.foldlM Registry.perform registry = .ok extended)
    (schema : Schema) (options : InferenceOptions) (expr : Expr) :
    (∀ type, (Environment.mk schema registry.toCatalog options).infer expr = .ok type →
      (Environment.mk schema extended.toCatalog options).infer expr = .ok type) ∧
    (∀ error, (Environment.mk schema registry.toCatalog options).infer expr = .error error →
      error.kind ≠ .unknownFunction → error.kind ≠ .noMatchingSignature →
      (Environment.mk schema extended.toCatalog options).infer expr = .error error) := by
  have growth : registry.Extends extended := .foldlM Registry.perform_extends registered
  have agrees := inferAt_agrees
    (conclude_agrees schema options growth.resolve_agrees) (Nat.le_refl _) (.inl rfl) 1 expr
  unfold infer
  rcases agrees with ⟨error, failed, unresolved⟩ | same
  · constructor
    · intro type typed
      cases failed.symm.trans typed
    · intro other found known matching
      cases failed.symm.trans found
      rcases unresolved with unknown | unmatched
      · exact absurd unknown known
      · exact absurd unmatched matching
  · rw [same]
    exact ⟨fun _ typed => typed, fun _ failed _ _ => failed⟩

/-- A function with a rule of its own, and a document that overloads a built-in function. -/
def twoRegistrations : List Registration :=
  [.rule "wrap" [.any] fun _ => .ok .string,
    .document ("\x7b\"functions\": [\x7b\"name\": \"len\", \"signatures\": " ++
      "[\x7b\"return\": \x7b\"kind\": \"int64\"\x7d\x7d]\x7d]\x7d")]

def overloadedRegistry : Registry :=
  match twoRegistrations.foldlM Registry.perform .builtin with
  | .ok registry => registry
  | .error _ => .empty

def emptyRow : Schema where
  name := none
  fields := []
  casePolicy := .insensitive
  folded := ⟨rfl, rfl⟩
  accepted := rfl

/-- `LEN('x')` and the missing column stay as they are, while `LEN()` becomes a call. -/
theorem infer_of_overloadedRegistry :
    twoRegistrations.foldlM Registry.perform .builtin = .ok overloadedRegistry ∧
    (Environment.mk emptyRow overloadedRegistry.toCatalog {}).infer
      (.call none "Len" [.literal none (.string "x")]) = .ok .int32 ∧
    (Environment.mk emptyRow overloadedRegistry.toCatalog {}).infer (.column none none "A") =
      .error { cause := .fieldNotFound "A" "schema" } ∧
    (Environment.mk emptyRow overloadedRegistry.toCatalog {}).infer (.call none "Len" []) =
      .ok .int64 := by
  have registered : twoRegistrations.foldlM Registry.perform .builtin = .ok overloadedRegistry :=
    rfl
  have typed := (infer_of_registered registered emptyRow {}
    (.call none "Len" [.literal none (.string "x")])).1
  have failed := (infer_of_registered registered emptyRow {} (.column none none "A")).2
  exact ⟨registered, typed _ rfl, failed _ rfl (by decide) (by decide), rfl⟩

end Environment

end QueryTyping
