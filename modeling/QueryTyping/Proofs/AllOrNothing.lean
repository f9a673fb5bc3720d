import QueryTyping.Proofs.InPlace
import Mathlib.Data.List.Forall2

/-! Reading a catalog into a registry. Its overloads are taken one after the other, and the first of
them that is no signature or repeats another one decides that nothing is added. If there is none, the
registry gets what it would get from registering the signatures one by one. -/

namespace QueryTyping

theorem Signature.sameParameters_iff {left right : Signature} :
    left.sameParameters right ↔ left.params = right.params ∧ left.variadic = right.variadic := by
  simp [sameParameters, and_comm]

namespace Registry

/-- Some overload of the same name takes the same parameters. It is in the registry or among the
signatures that came before. -/
def Duplicates (registry : Registry) (earlier : List Signature) (signature : Signature) : Prop :=
  ∃ other ∈ registry.signatures signature.name ++ earlier.filter (·.name = signature.name),
    other.params = signature.params ∧ other.variadic = signature.variadic

/-- The overloads of a catalog that can be registered in their order, and their signatures. -/
structure Accepts (registry : Registry) (overloads : List Overload) (signatures : List Signature) :
    Prop where
  made : List.Forall₂ (fun overload signature => overload.signature = .ok signature) overloads
    signatures
  fresh : ∀ before signature after, signatures = before ++ signature :: after →
    ¬ registry.Duplicates before signature

/-- Why an overload cannot be registered behind some signatures. -/
inductive Refuses (registry : Registry) (earlier : List Signature) (overload : Overload) :
    CatalogError → Prop where
  | invalid {error : CatalogError} (unmade : overload.signature = .error error) :
      Refuses registry earlier overload error
  | duplicate {signature : Signature} (made : overload.signature = .ok signature)
      (repeated : registry.Duplicates earlier signature) :
      Refuses registry earlier overload (.duplicateSignature signature.name signature.text)

variable {registry extended : Registry} {signature : Signature}

private theorem any_sameParameters_iff : (registry.signatures signature.name).any
    (·.sameParameters signature) ↔ registry.Duplicates [] signature := by
  simp only [Duplicates, List.any_eq_true, Signature.sameParameters_iff, List.filter_nil,
    List.append_nil]

theorem register_duplicate (repeated : registry.Duplicates [] signature) :
    registry.register signature =
      .error (.duplicateSignature signature.name signature.text) := by
  rw [register, if_pos (any_sameParameters_iff.mpr repeated)]

theorem register_fresh (fresh : ¬ registry.Duplicates [] signature) :
    ∃ extended, registry.register signature = .ok extended := by
  rw [register, if_neg (mt any_sameParameters_iff.mp fresh)]
  exact ⟨_, rfl⟩

theorem not_duplicates_of_register (added : registry.register signature = .ok extended) :
    ¬ registry.Duplicates [] signature := by
  intro repeated
  cases (register_duplicate repeated).symm.trans added

/-- What has been registered counts like what came before. -/
theorem duplicates_of_register (added : registry.register signature = .ok extended)
    {earlier : List Signature} {other : Signature} :
    extended.Duplicates earlier other ↔ registry.Duplicates (signature :: earlier) other := by
  unfold Duplicates
  rw [signatures_register added, Signature.upper_of_key other.keyed, List.filter_cons]
  by_cases same : signature.name = other.name
  · simp [same]
  · simp [same, Ne.symm same]

theorem Accepts.cons {overload : Overload} {overloads : List Overload}
    {signatures : List Signature} (made : overload.signature = .ok signature)
    (added : registry.register signature = .ok extended)
    (accepts : extended.Accepts overloads signatures) :
    registry.Accepts (overload :: overloads) (signature :: signatures) := by
  refine ⟨.cons made accepts.made, ?_⟩
  intro before other after split
  cases before with
  | nil =>
    obtain ⟨rfl, _⟩ := List.cons.inj split
    exact not_duplicates_of_register added
  | cons first front =>
    obtain ⟨rfl, rest⟩ := List.cons.inj split
    have fresh := accepts.fresh front other after rest
    exact mt (duplicates_of_register added).mpr fresh

theorem Refuses.cons {overload : Overload} {earlier : List Signature} {error : CatalogError}
    (added : registry.register signature = .ok extended)
    (refuses : extended.Refuses earlier overload error) :
    registry.Refuses (signature :: earlier) overload error := by
  cases refuses with
  | invalid unmade => exact .invalid unmade
  | duplicate made repeated => exact .duplicate made ((duplicates_of_register added).mp repeated)

/-- One overload is added under its signature or refused. -/
theorem add_cases (registry : Registry) (overload : Overload) :
    (∃ error, registry.add overload = .error error ∧ registry.Refuses [] overload error) ∨
      ∃ signature extended, overload.signature = .ok signature ∧
        registry.register signature = .ok extended ∧ registry.add overload = .ok extended := by
  cases made : overload.signature with
  | error error =>
    have failed : registry.add overload = .error error := by
      rw [add, made]
      rfl
    exact .inl ⟨error, failed, .invalid made⟩
  | ok signature =>
    have same : registry.add overload = registry.register signature := by
      rw [add, made]
      rfl
    by_cases repeated : registry.Duplicates [] signature
    · exact .inl ⟨_, same.trans (register_duplicate repeated), .duplicate made repeated⟩
    · obtain ⟨extended, added⟩ := register_fresh repeated
      exact .inr ⟨signature, extended, rfl, added, same.trans added⟩

/-- Either all of the overloads are accepted, or the first that is refused says why. -/
theorem foldlM_add_cases (registry : Registry) (overloads : List Overload) :
    (∃ before overload after signatures error, overloads = before ++ overload :: after ∧
      registry.Accepts before signatures ∧ registry.Refuses signatures overload error ∧
      overloads.foldlM add registry = .error error) ∨
    ∃ signatures extended, registry.Accepts overloads signatures ∧
      signatures.foldlM register registry = .ok extended ∧
      overloads.foldlM add registry = .ok extended := by
  have nothing (registry : Registry) : registry.Accepts [] [] := ⟨.nil, by simp⟩
  induction overloads generalizing registry with
  | nil => exact .inr ⟨[], registry, nothing registry, rfl, rfl⟩
  | cons overload rest ih =>
    rw [List.foldlM_cons]
    rcases registry.add_cases overload with
      ⟨error, failed, refuses⟩ | ⟨signature, extended, made, added, done⟩
    · rw [failed]
      exact .inl ⟨[], overload, rest, [], error, rfl, nothing registry, refuses, rfl⟩
    · rw [done, ok_bind]
      rcases ih extended with
        ⟨before, other, after, signatures, error, split, accepts, refuses, failed⟩ |
        ⟨signatures, final, accepts, registered, all⟩
      · exact .inl ⟨overload :: before, other, after, signature :: signatures, error,
          by rw [split, List.cons_append], accepts.cons made added, refuses.cons added, failed⟩
      · refine .inr ⟨signature :: signatures, final, accepts.cons made added, ?_, all⟩
        rw [List.foldlM_cons, added, ok_bind, registered]

/-- What extends a registry are signatures that could be registered one by one. -/
theorem signatures_of_extend {declarations : Declarations}
    (done : registry.extend declarations = .ok extended) :
    ∃ signatures, registry.Accepts declarations.overloads signatures ∧
      signatures.foldlM register registry = .ok extended := by
  rw [extend_eq] at done
  rcases registry.foldlM_add_cases declarations.overloads with
    ⟨_, _, _, _, _, _, _, _, failed⟩ | ⟨signatures, final, accepts, registered, all⟩
  · cases failed.symm.trans done
  · cases all.symm.trans done
    exact ⟨signatures, accepts, registered⟩

/-- A catalog is read into a registry as a whole or not at all. A document that is not read as
declarations, in whatever way documents are read, is malformed. Otherwise the first of its overloads
that is refused gives the error, or all of them are registered as they would be one by one. What a
change in place leaves of the table is the same: the new entries after a success and the old ones
after a failure, for a catalog and for a signature. -/
theorem extend_all_or_nothing {Document : Type} (read : Document → Except Refusal Declarations)
    (registry : Registry) (document : Document) :
    ((∃ refusal, read document = .error refusal ∧
        registry.extendWith read document = .error .malformed) ∨
      ∃ declarations, read document = .ok declarations ∧
        ((∃ before overload after signatures error,
            declarations.overloads = before ++ overload :: after ∧
            registry.Accepts before signatures ∧ registry.Refuses signatures overload error ∧
            registry.extendWith read document = .error error) ∨
          ∃ signatures extended, registry.Accepts declarations.overloads signatures ∧
            signatures.foldlM register registry = .ok extended ∧
            registry.extendWith read document = .ok extended)) ∧
    (Change.extendWith read document).after registry.entries =
      registry.outcome (registry.extendWith read document) ∧
    ∀ signature, (Change.register signature).after registry.entries =
      registry.outcome (registry.register signature) := by
  refine ⟨?_, Change.after_extendWith read registry document, Change.after_register registry⟩
  unfold extendWith
  cases read document with
  | error refusal => exact .inl ⟨refusal, rfl, rfl⟩
  | ok declarations =>
    exact .inr ⟨declarations, rfl, registry.foldlM_add_cases declarations.overloads⟩

end Registry

end QueryTyping
