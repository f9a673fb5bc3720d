import QueryTyping.Proofs.Causes
import QueryTyping.Proofs.NarrowerArguments

/-! The overload that a call takes when its arguments get narrower. What accepted the wider arguments
accepts the narrower ones too, so that the search ends at the same overload or at one before it. The
result may still be refused, but only by a rule that the overload computes it with. -/

namespace QueryTyping

open SqlType (PromoteTo)

variable {narrower arguments : List SqlType}

theorem Signature.accepts_of_narrower {signature : Signature} (below : PromoteTo narrower arguments)
    (accepted : signature.accepts arguments) : signature.accepts narrower :=
  accepts_iff.mpr ((accepts_iff.mp accepted).narrow below)

/-- A search ends at any item that passes, unless it ends before. -/
private theorem find?_of_getElem? {test : α → Bool} {items : List α} {place : Nat} {item : α}
    (listed : items[place]? = some item) (passes : test item) :
    ∃ before earlier, before ≤ place ∧ items.find? test = some earlier ∧
      items[before]? = some earlier := by
  cases search : items.find? test with
  | none =>
    have refused := List.find?_eq_none.mp search item (List.mem_of_getElem? listed)
    exact absurd passes refused
  | some earlier =>
    obtain ⟨_, before, inside, same, refused⟩ := List.find?_eq_some_iff_getElem.mp search
    refine ⟨before, earlier, ?_, rfl, ?_⟩
    · by_contra behind
      obtain ⟨within, here⟩ := List.getElem?_eq_some_iff.mp listed
      have missed := refused place (Nat.not_le.mp behind)
      rw [here, passes] at missed
      cases missed
    · rw [List.getElem?_eq_getElem inside, same]

namespace Registry

variable {registry : Registry} {function : String} {signature : Signature}

theorem contains_of_mem (kept : signature ∈ registry.signatures function) :
    registry.contains function := by
  unfold contains
  unfold signatures at kept
  cases entry : registry.entries.lookup (Text.upper function) with
  | none =>
    rw [entry] at kept
    cases kept
  | some overloads => rfl

theorem contains_of_lookup (found : registry.lookup function arguments = some signature) :
    registry.contains function :=
  contains_of_mem (List.mem_of_find?_eq_some found)

/-- A call goes through with the overload that is looked up, whatever the case of the name. -/
theorem resolve_of_lookup (found : registry.lookup function arguments = some signature) :
    registry.toCatalog.resolve function arguments = signature.returnType arguments := by
  have known := contains_of_lookup found
  apply Catalog.resolve_of_lookup
  · simpa only [toCatalog, contains, Text.upper_upper] using known
  · simpa only [toCatalog, lookup, signatures, Text.upper_upper] using found

theorem lookup_of_resolve {type : SqlType}
    (resolved : registry.toCatalog.resolve function arguments = .ok type) :
    ∃ signature, registry.lookup function arguments = some signature := by
  rcases registry.toCatalog.resolve_cases function arguments with
    ⟨signature, _, found, _⟩ | ⟨error, failed, _⟩
  · refine ⟨signature, ?_⟩
    simpa only [toCatalog, lookup, signatures, Text.upper_upper] using found
  · cases failed.symm.trans resolved

theorem lookup_of_narrower (below : PromoteTo narrower arguments) {place : Nat}
    (found : registry.lookup function arguments = some signature)
    (listed : (registry.signatures function)[place]? = some signature) :
    ∃ before earlier, before ≤ place ∧ registry.lookup function narrower = some earlier ∧
      (registry.signatures function)[before]? = some earlier := by
  have accepted : signature.accepts arguments := by simpa using List.find?_some found
  exact find?_of_getElem? listed (Signature.accepts_of_narrower below accepted)

/-- Overloads are monotone under promotion. Narrower arguments are accepted by every signature that
accepts the wider ones. A call with them takes the same overload or one before it, and never fails
for want of one, so that an error which says so can only come from the rule of that overload. -/
theorem resolve_of_narrower (registry : Registry) (function : String)
    {narrower arguments : List SqlType}
    (below : List.Forall₂ (fun low high => low.promotes high) narrower arguments) :
    (∀ signature : Signature, signature.accepts arguments → signature.accepts narrower) ∧
    (∀ (place : Nat) (signature : Signature),
      registry.lookup function arguments = some signature →
      (registry.signatures function)[place]? = some signature →
      ∃ before earlier, before ≤ place ∧ registry.lookup function narrower = some earlier ∧
        (registry.signatures function)[before]? = some earlier ∧
        registry.toCatalog.resolve function narrower = earlier.returnType narrower) ∧
    ∀ type, registry.toCatalog.resolve function arguments = .ok type →
      ∀ error, registry.toCatalog.resolve function narrower = .error error →
        error.kind = .unknownFunction ∨ error.kind = .noMatchingSignature →
        ∃ earlier rule, registry.lookup function narrower = some earlier ∧
          earlier.returns = .custom rule ∧ rule narrower = .error error := by
  have promote : PromoteTo narrower arguments := below.imp fun _ _ => SqlType.promotes_iff.mp
  refine ⟨fun _ => Signature.accepts_of_narrower promote, ?_, ?_⟩
  · intro place signature found listed
    obtain ⟨before, earlier, bound, again, there⟩ := lookup_of_narrower promote found listed
    exact ⟨before, earlier, bound, again, there, resolve_of_lookup again⟩
  · intro type resolved error failed kind
    obtain ⟨signature, found⟩ := lookup_of_resolve resolved
    obtain ⟨place, listed⟩ := List.getElem?_of_mem (List.mem_of_find?_eq_some found)
    obtain ⟨_, earlier, _, again, _⟩ := lookup_of_narrower promote found listed
    rw [resolve_of_lookup again] at failed
    rcases Signature.returnType_error failed with ⟨rule, custom, raised⟩ | other | other
    · exact ⟨earlier, rule, again, custom, raised⟩
    · rw [other] at kind
      rcases kind with impossible | impossible <;> cases impossible
    · rw [other] at kind
      rcases kind with impossible | impossible <;> cases impossible

/-- `ROUND` of a `FLOAT64` is the third overload, and that of an integer an earlier one. -/
theorem round_of_narrower :
    List.Forall₂ (fun low high => SqlType.promotes low high) [.int32] [.float64] ∧
    Registry.builtin.lookup "round" [.float64] = (Registry.builtin.signatures "round")[2]? ∧
    (∃ before earlier, before ≤ 2 ∧ Registry.builtin.lookup "round" [.int32] = some earlier ∧
      (Registry.builtin.signatures "round")[before]? = some earlier ∧
      Registry.builtin.toCatalog.resolve "round" [.int32] = earlier.returnType [.int32]) ∧
    Registry.builtin.toCatalog.resolve "round" [.float64] = .ok .int64 ∧
    Registry.builtin.toCatalog.resolve "round" [.int32] = .ok .int32 := by
  have below : List.Forall₂ (fun low high => SqlType.promotes low high) [.int32] [.float64] :=
    .cons rfl .nil
  have found : Registry.builtin.lookup "round" [.float64] =
      (Registry.builtin.signatures "round")[2]? := rfl
  have three : ((Registry.builtin.signatures "round")[2]?).isSome := rfl
  obtain ⟨third, listed⟩ := Option.isSome_iff_exists.mp three
  have law := (resolve_of_narrower Registry.builtin "round" below).2.1
  exact ⟨below, found, law 2 third (found.trans listed) listed, rfl, rfl⟩

/-- `F` of an `INT32` has a rule that asks for a function which is not there, and `F` of a `FLOAT64`
is a `STRING`. -/
def forwarding : Except CatalogError Registry := do
  let registry ← empty.registerRule "F" [.exact .int32] (empty.toCatalog.resolve "G")
  registry.register (← Signature.build "F" [.exact .float64] false (.fixed .string) none)

/-- The call goes through with the wider argument, and with the narrower one it is the rule that knows
no such function. -/
theorem forwarding_unknown_of_narrower :
    ∃ registry, forwarding = .ok registry ∧
      List.Forall₂ (fun low high => SqlType.promotes low high) [.int32] [.float64] ∧
      registry.toCatalog.resolve "F" [.float64] = .ok .string ∧
      ∃ error, registry.toCatalog.resolve "F" [.int32] = .error error ∧
        error.kind = .unknownFunction :=
  ⟨_, rfl, .cons rfl .nil, rfl, _, rfl, rfl⟩

end Registry

end QueryTyping
