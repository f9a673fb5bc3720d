import QueryTyping.Document.Catalog
import QueryTyping.Proofs.Outcome

/-! What registering a function does to a registry. An overload comes behind those of its name, and
the overloads of all other names stay as they are. -/

namespace QueryTyping

/-- One way to add functions to a registry: a signature made in code, an overload with a rule of
its own, or all that a catalog document declares. -/
inductive Registration where
  | signature (signature : Signature)
  | rule (name : String) (params : List Param) (rule : List SqlType → Except TypeError SqlType)
  | document (text : String)

namespace Registry

private theorem lookup_cons (name key : String) (overloads : List Signature)
    (rest : List (String × List Signature)) :
    ((key, overloads) :: rest).lookup name =
      if name = key then some overloads else rest.lookup name := by
  by_cases same : name = key
  · simp [same]
  · have other : (name == key) = false := beq_false_of_ne same
    simp [List.lookup_cons, other, same]

private theorem lookup_of_behind {name : String} {entries : List (String × List Signature)}
    (behind : ∀ entry ∈ entries, name < entry.1) : entries.lookup name = none := by
  rw [List.lookup_eq_none_iff]
  intro entry member
  have before := behind entry member
  simpa using fun same : name = entry.1 => String.lt_irrefl _ (same ▸ before)

theorem lookup_insert (signature : Signature) {entries : List (String × List Signature)}
    (sorted : entries.Pairwise (·.1 < ·.1)) (name : String) :
    (insert signature entries).lookup name =
      if name = signature.name then some ((entries.lookup name).getD [] ++ [signature])
      else entries.lookup name := by
  induction entries with
  | nil => simp [insert, lookup_cons]
  | cons first rest ih =>
    obtain ⟨key, overloads⟩ := first
    obtain ⟨least, ordered⟩ := List.pairwise_cons.mp sorted
    simp only [insert]
    split
    next here =>
      subst key
      by_cases same : name = signature.name <;> simp [lookup_cons, same]
    next other =>
      split
      next before =>
        have absent : ((key, overloads) :: rest).lookup signature.name = none := by
          apply lookup_of_behind
          intro entry member
          rcases List.mem_cons.mp member with rfl | later
          · exact before
          · exact String.lt_trans before (least entry later)
        rw [lookup_cons]
        by_cases same : name = signature.name
        · simp [same, absent]
        · simp [same]
      next =>
        rw [lookup_cons, lookup_cons, ih ordered]
        by_cases same : name = key
        · subst name
          simp [Ne.symm other]
        · simp [same]

/-- Only the entry of the name of a new overload changes. -/
theorem entries_register {registry extended : Registry} {signature : Signature}
    (added : registry.register signature = .ok extended) (name : String) :
    extended.entries.lookup name =
      if name = signature.name then some ((registry.entries.lookup name).getD [] ++ [signature])
      else registry.entries.lookup name := by
  unfold register at added
  split at added
  · cases added
  · cases added
    exact lookup_insert signature registry.sorted name

theorem signatures_register {registry extended : Registry} {signature : Signature}
    (added : registry.register signature = .ok extended) (function : String) :
    extended.signatures function = registry.signatures function ++
      if Text.upper function = signature.name then [signature] else [] := by
  simp only [signatures, entries_register added]
  split <;> simp

theorem contains_register {registry extended : Registry} {signature : Signature}
    (added : registry.register signature = .ok extended) (function : String) :
    extended.contains function =
      (decide (Text.upper function = signature.name) || registry.contains function) := by
  simp only [contains, entries_register added]
  split <;> simp [*]

/-- Every overload of the smaller registry is found in its old place, with others behind it. -/
structure Extends (registry extended : Registry) : Prop where
  contains : ∀ function, registry.contains function → extended.contains function
  signatures : ∀ function, registry.signatures function <+: extended.signatures function

namespace Extends

variable {registry middle extended : Registry}

theorem refl (registry : Registry) : registry.Extends registry :=
  ⟨fun _ found => found, fun _ => List.prefix_rfl⟩

theorem trans (first : registry.Extends middle) (second : middle.Extends extended) :
    registry.Extends extended :=
  ⟨fun function found => second.contains function (first.contains function found),
    fun function => (first.signatures function).trans (second.signatures function)⟩

theorem register {signature : Signature} (added : registry.register signature = .ok extended) :
    registry.Extends extended := by
  constructor
  · intro function found
    simp [contains_register added, found]
  · intro function
    rw [signatures_register added]
    exact List.prefix_append _ _

theorem foldlM {α : Type} {step : Registry → α → Except CatalogError Registry}
    (each : ∀ {registry extended item}, step registry item = .ok extended →
      registry.Extends extended)
    {items : List α} (done : items.foldlM step registry = .ok extended) :
    registry.Extends extended := by
  induction items generalizing registry with
  | nil =>
    cases done
    exact refl _
  | cons item rest ih =>
    rw [List.foldlM_cons] at done
    obtain ⟨next, first, later⟩ := bind_eq_ok_iff.mp done
    exact (each first).trans (ih later)

theorem extend {declarations : Declarations}
    (added : registry.extend declarations = .ok extended) : registry.Extends extended := by
  apply foldlM _ added
  intro registry extended overload step
  obtain ⟨signature, _, registered⟩ := bind_eq_ok_iff.mp step
  exact register registered

/-- What the smaller registry finds first, the larger one finds first too. -/
theorem lookup (growth : registry.Extends extended) {function : String}
    {arguments : List SqlType} {signature : Signature}
    (found : registry.lookup function arguments = some signature) :
    extended.lookup function arguments = some signature := by
  obtain ⟨added, whole⟩ := growth.signatures function
  unfold Registry.lookup at found ⊢
  rw [← whole, List.find?_append, found]
  rfl

end Extends

def perform (registry : Registry) : Registration → Except CatalogError Registry
  | .signature signature => registry.register signature
  | .rule name params rule => registry.registerRule name params rule
  | .document text => registry.extendText text

theorem perform_extends {registry extended : Registry} {registration : Registration}
    (done : registry.perform registration = .ok extended) : registry.Extends extended := by
  cases registration with
  | signature signature => exact .register done
  | rule name params rule =>
    obtain ⟨signature, _, registered⟩ := bind_eq_ok_iff.mp done
    exact .register registered
  | document text =>
    simp only [perform, extendText, extendWith] at done
    split at done
    · exact .extend done
    · cases done

end Registry

end QueryTyping
