import QueryTyping.Proofs.Log
import QueryTyping.Proofs.Recasing
import QueryTyping.Proofs.Selection

/-! Calling functions by the names that they were registered with. A registry drops the blanks around
a name when it makes a signature, but not when it is asked for one, so that only a name without blanks
around it can be used again. Such a name is never lost, and its letter case does not matter. -/

namespace QueryTyping

/-- Dropping the blanks around a name makes a difference that upper case does not hide. -/
theorem Text.trim_of_upper {name : String}
    (same : Text.upper (Text.trim name) = Text.upper name) : Text.trim name = name := by
  have shorter : (trimmed name.toList).Sublist name.toList := by
    rw [trimmed, ← List.reverse_sublist, List.reverse_reverse]
    exact (List.dropWhile_sublist _).trans (List.reverse_sublist.mpr (List.dropWhile_sublist _))
  have length : (trimmed name.toList).length = name.toList.length := by
    have counted := congrArg (fun text => text.toList.length) same
    simpa only [upper, trim, String.toList_ofList, List.length_map] using counted
  rw [trim, shorter.eq_of_length length, String.ofList_toList]

/-- The signatures that a registration is for, under the names that it spells out. -/
inductive Registration.Gives : Registration → String → Signature → Prop where
  | signature {name : String} {params : List Param} {variadic : Bool} {returns : ReturnRule}
      {description : Option String} {signature : Signature}
      (built : Signature.build name params variadic returns description = .ok signature) :
      Gives (.signature signature) name signature
  | rule {name : String} {params : List Param} {rule : List SqlType → Except TypeError SqlType}
      {signature : Signature}
      (built : Signature.build name params false (.custom rule) none = .ok signature) :
      Gives (.rule name params rule) name signature
  | document {text : String} {declarations : Declarations} {overload : Overload}
      {signature : Signature} (read : Declarations.ofText text = .ok declarations)
      (declared : overload ∈ declarations.overloads)
      (built : overload.signature = .ok signature) :
      Gives (.document text) overload.name signature

namespace Registration.Gives

variable {registration : Registration} {name : String} {signature : Signature}

theorem name_eq (given : registration.Gives name signature) :
    signature.name = Signature.key name := by
  cases given with
  | signature built => exact (Signature.of_build built).1
  | rule built => exact (Signature.of_build built).1
  | document _ _ built => exact (Signature.of_build built).1

theorem offered (given : registration.Gives name signature) : signature ∈ registration.offered := by
  cases given with
  | signature built => exact List.mem_singleton_self _
  | rule built =>
    rw [Registration.offered, built]
    exact List.mem_singleton_self _
  | document read declared built =>
    rw [Registration.offered, read]
    exact List.mem_filterMap.mpr ⟨_, declared, by rw [built]; rfl⟩

end Registration.Gives

namespace Registry

variable {registry extended : Registry} {signature : Signature} {function : String}

theorem mem_signatures_of_registerAll {signatures : List Signature}
    (added : signatures.foldlM register registry = .ok extended) (member : signature ∈ signatures) :
    signature ∈ extended.signatures signature.name := by
  induction signatures generalizing registry with
  | nil => cases member
  | cons first rest ih =>
    rw [List.foldlM_cons] at added
    obtain ⟨next, registered, later⟩ := bind_eq_ok_iff.mp added
    rcases List.mem_cons.mp member with rfl | behind
    · have here : signature ∈ next.signatures signature.name := by
        rw [signatures_register registered, if_pos (Signature.upper_of_key signature.keyed)]
        exact List.mem_append_right _ (List.mem_singleton_self _)
      exact ((Extends.foldlM Extends.register later).signatures _).subset here
    · exact ih later behind

/-- No registration takes anything away, also when it fails. -/
theorem settle_extends (registry : Registry) (registration : Registration) :
    registry.Extends (registry.settle registration) := by
  unfold settle
  cases done : registry.perform registration with
  | ok extended => exact perform_extends done
  | error error => exact .refl registry

theorem settleAll_extends (registry : Registry) (registrations : List Registration) :
    registry.Extends (registrations.foldl settle registry) := by
  induction registrations generalizing registry with
  | nil => exact .refl registry
  | cons registration rest ih =>
    exact (registry.settle_extends registration).trans (ih (registry.settle registration))

/-- What a registration in the middle of a run has added is there at the end. -/
theorem mem_signatures_of_run {before after : List Registration} {registration : Registration}
    (done : (before.foldl settle registry).perform registration = .ok extended)
    (offered : signature ∈ registration.offered) :
    signature ∈
      ((before ++ registration :: after).foldl settle registry).signatures signature.name := by
  have here := mem_signatures_of_registerAll (registerAll_of_perform done) offered
  have moved : (before.foldl settle registry).settle registration = extended := by
    rw [settle, done]
  rw [List.foldl_append, List.foldl_cons, moved]
  exact ((settleAll_extends extended after).signatures _).subset here

/-- A function is known, and a call of it that fails does so for another reason than that nothing
was found for it, unless the rule of an overload says so. -/
structure Answers (registry : Registry) (signature : Signature) (function : String) : Prop where
  contains : registry.contains function
  resolve : ∀ arguments error, registry.toCatalog.resolve function arguments = .error error →
    error.kind = .unknownFunction ∨
      error.kind = .noMatchingSignature ∧ signature.accepts arguments →
    ∃ overload rule, registry.lookup function arguments = some overload ∧
      overload.returns = .custom rule ∧ rule arguments = .error error

theorem resolve_eq (registry : Registry) (function : String) (arguments : List SqlType) :
    registry.toCatalog.resolve function arguments =
      if registry.contains function then
        match registry.lookup function arguments with
        | some signature => signature.returnType arguments
        | none => .error { cause := .noMatchingSignature (Text.upper function) arguments }
      else .error { cause := .unknownFunction (Text.upper function) } := by
  simp only [Catalog.resolve, toCatalog, contains, lookup, signatures, Text.upper_upper]
  rfl

theorem answers_of_mem (kept : signature ∈ registry.signatures function) :
    registry.Answers signature function := by
  have known := contains_of_mem kept
  refine ⟨known, ?_⟩
  intro arguments error failed kind
  rw [resolve_eq, if_pos known] at failed
  cases found : registry.lookup function arguments with
  | none =>
    rw [found] at failed
    cases failed
    rcases kind with impossible | ⟨_, accepted⟩
    · cases impossible
    · exact absurd accepted (List.find?_eq_none.mp found signature kept)
  | some overload =>
    rw [found] at failed
    rcases Signature.returnType_error failed with ⟨rule, custom, raised⟩ | other | other
    · exact ⟨overload, rule, rfl, custom, raised⟩
    · simp [other] at kind
    · simp [other] at kind

theorem contains_of_resolve {arguments : List SqlType} {error : TypeError}
    (failed : registry.toCatalog.resolve function arguments = .error error)
    (kind : error.kind ≠ .unknownFunction) : registry.contains function := by
  by_contra unknown
  rw [resolve_eq, if_neg unknown] at failed
  cases failed
  exact kind rfl

/-- Names with blanks around them are known to no registry. -/
theorem trim_of_contains (known : registry.contains function) : Text.trim function = function := by
  obtain ⟨overloads, entry⟩ := Option.isSome_iff_exists.mp known
  have keyed := registry.keyed _ (lookup_eq_some_iff.mp entry)
  have same := Signature.trim_of_key keyed
  rw [Signature.trim_upper] at same
  exact Text.trim_of_upper same

/-- A function that was registered without blanks around its name can be called by this name from then
on, in any letter case and whatever else was registered. If it is not found under the name that it was
registered with, then there are blanks around this. -/
theorem registered_answers (registry : Registry) (before after : List Registration)
    {registration : Registration} {extended : Registry} {name : String} {signature : Signature}
    (done : (before.foldl settle registry).perform registration = .ok extended)
    (given : registration.Gives name signature) :
    let final := (before ++ registration :: after).foldl settle registry
    (Text.trim name = name → ∀ other, Text.Recased name other → final.Answers signature other) ∧
    ∀ other, Text.Recased name other →
      (final.contains other ↔ Text.trim name = name) ∧
      (Text.trim name ≠ name → ∀ arguments, final.toCatalog.resolve other arguments =
        .error { cause := .unknownFunction (Text.upper name) }) := by
  intro final
  have kept : signature ∈ final.signatures signature.name :=
    mem_signatures_of_run done given.offered
  have answers (trimmed : Text.trim name = name) (other : String)
      (recased : Text.Recased name other) : final.Answers signature other := by
    have same : Text.upper other = signature.name := by
      rw [given.name_eq, Signature.key, trimmed, Text.recased_iff.mp recased]
    apply answers_of_mem
    rwa [signatures, same, ← Signature.upper_of_key signature.keyed]
  refine ⟨answers, ?_⟩
  intro other recased
  have known : final.contains other ↔ Text.trim name = name := by
    refine ⟨?_, fun trimmed => (answers trimmed other recased).contains⟩
    intro known
    rw [contains, ← Text.recased_iff.mp recased] at known
    exact trim_of_contains known
  refine ⟨known, ?_⟩
  intro blanks arguments
  rw [resolve_eq, if_neg (mt known.mp blanks), Text.recased_iff.mp recased]

/-- `Half` stays callable while a function of another name and an overload with the same parameters
come behind it, the second of which is refused. -/
theorem half_registered_answers :
    let half := Registration.rule "Half" [.numeric] fun _ => .ok .float64
    let wrap := Registration.rule "wrap" [.any] fun _ => .ok .string
    let again := Registration.rule " HALF " [.numeric] fun _ => .ok .int64
    ∃ extended signature, ([wrap].foldl settle empty).perform half = .ok extended ∧
      half.Gives "Half" signature ∧ Text.trim "Half" = "Half" ∧ Text.Recased "Half" "hALF" ∧
      Answers ([wrap, half, again].foldl settle empty) signature "hALF" := by
  intro half wrap again
  obtain ⟨extended, done⟩ : ∃ extended, ([wrap].foldl settle empty).perform half = .ok extended :=
    ⟨_, rfl⟩
  obtain ⟨signature, built⟩ :
      ∃ signature, Signature.build "Half" [.numeric] false (.custom fun _ => .ok .float64) none =
        .ok signature :=
    ⟨_, rfl⟩
  have given : half.Gives "Half" signature := .rule built
  have trimmed : Text.trim "Half" = "Half" := by decide +kernel
  have recased : Text.Recased "Half" "hALF" := by decide +kernel
  have answers := (registered_answers empty [wrap] [again] done given).1 trimmed "hALF" recased
  exact ⟨extended, signature, done, given, trimmed, recased, answers⟩

/-- `HALF()` of type INT32 -/
def constantHalf : Signature where
  name := "HALF"
  params := []
  variadic := false
  returns := .fixed .int32
  description := none
  keyed := by decide +kernel
  named := by decide
  repeatable := by simp
  declared := by simp [ReturnRule.argument?]

/-- A function that was registered with blanks around its name cannot be called by it. -/
theorem blanks_not_answered :
    ∃ extended, Signature.build " half " [] false (.fixed .int32) none = .ok constantHalf ∧
      empty.perform (.signature constantHalf) = .ok extended ∧ constantHalf.accepts [] ∧
      extended.contains " half " = false ∧ extended.toCatalog.resolve " half " [] =
        .error { cause := .unknownFunction " HALF " } :=
  ⟨_, rfl, rfl, rfl, rfl, rfl⟩

end Registry

end QueryTyping
