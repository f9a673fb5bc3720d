import QueryTyping.Proofs.AllOrNothing
import QueryTyping.Proofs.Rules
import Mathlib.Data.List.Induction

/-! A registry is a log of the signatures that it accepted. Whatever was registered, and whatever of
it failed, the table holds these signatures under their names and in their order, and every question
to the registry is answered by the log. Calls for different functions can therefore change places. -/

namespace QueryTyping

/-- A name as a registry keeps it. -/
structure Text.IsKey (name : String) : Prop where
  named : name ≠ ""
  start : ∀ c ∈ name.toList.head?, isBlank c = false
  stop : ∀ c ∈ name.toList.getLast?, isBlank c = false
  folded : ∀ c ∈ name.toList, ¬ ('a' ≤ c ∧ c ≤ 'z')

theorem Signature.name_isKey (signature : Signature) : Text.IsKey signature.name := by
  have whole : Text.trimmed signature.name.toList = signature.name.toList := by
    have same := congrArg String.toList (trim_of_key signature.keyed)
    simpa only [Text.trim, String.toList_ofList] using same
  have upper : signature.name.toList.map Char.toUpper = signature.name.toList.map id := by
    have same := congrArg String.toList (upper_of_key signature.keyed)
    simpa only [Text.upper, String.toList_ofList, List.map_id] using same
  refine ⟨signature.named, ?_, ?_, ?_⟩
  · have start := Text.head_trimmed signature.name.toList
    rwa [whole] at start
  · have stop := Text.getLast_trimmed signature.name.toList
    rwa [whole] at stop
  · intro c found lower
    have kept : c.toUpper.toNat = c.toNat := congrArg Char.toNat (List.map_inj_left.mp upper c found)
    have letter : 97 ≤ c.toNat ∧ c.toNat ≤ 122 := lower
    rw [Text.toNat_toUpper, if_pos letter] at kept
    omega

namespace Registration

/-- The signatures that a registration stands for. All of them are accepted or none. -/
def offered : Registration → List Signature
  | .signature accepted => [accepted]
  | .rule name params result =>
    (Signature.build name params false (.custom result) none).toOption.toList
  | .document text =>
    match Declarations.ofText text with
    | .error _ => []
    | .ok declarations => declarations.overloads.filterMap (·.signature.toOption)

/-- The function that a single registration is for. A document may be for many. -/
def function? : Registration → Option String
  | .signature accepted => some accepted.name
  | .rule name _ _ => some (Signature.key name)
  | .document _ => none

end Registration

namespace Registry

/-- The overloads of a name are the signatures of that name in a log. -/
structure Logs (registry : Registry) (log : List Signature) : Prop where
  entries : ∀ name overloads, registry.entries.lookup name = some overloads ↔
    overloads ≠ [] ∧ log.filter (·.name = name) = overloads
  distinct : log.Pairwise fun earlier later => earlier.name = later.name →
    ¬ (earlier.params = later.params ∧ earlier.variadic = later.variadic)

namespace Logs

variable {registry extended : Registry} {log : List Signature}

theorem empty : Registry.empty.Logs [] := by
  refine ⟨?_, .nil⟩
  intro name overloads
  constructor
  · intro found
    cases found
  · intro held
    exact absurd held.2.symm held.1

theorem signatures (logs : registry.Logs log) (name : String) :
    registry.signatures name = log.filter (·.name = Text.upper name) := by
  unfold Registry.signatures
  cases found : registry.entries.lookup (Text.upper name) with
  | some overloads => exact ((logs.entries _ overloads).mp found).2.symm
  | none =>
    by_contra different
    have held := (logs.entries (Text.upper name) _).mpr ⟨Ne.symm different, rfl⟩
    cases found.symm.trans held

theorem exists_entry (logs : registry.Logs log) {signature : Signature}
    (member : signature ∈ log) :
    ∃ entry ∈ registry.entries, entry.1 = signature.name ∧ signature ∈ entry.2 := by
  have listed : signature ∈ log.filter (·.name = signature.name) :=
    List.mem_filter.mpr ⟨member, decide_eq_true rfl⟩
  have entry := (logs.entries signature.name _).mpr ⟨List.ne_nil_of_mem listed, rfl⟩
  exact ⟨_, lookup_eq_some_iff.mp entry, rfl, listed⟩

theorem duplicates_iff (logs : registry.Logs log) {signature : Signature} :
    registry.Duplicates [] signature ↔ ∃ other ∈ log, other.name = signature.name ∧
      other.params = signature.params ∧ other.variadic = signature.variadic := by
  simp only [Duplicates, logs.signatures, Signature.upper_of_key signature.keyed, List.filter_nil,
    List.append_nil, List.mem_filter, decide_eq_true_eq, and_assoc]

/-- A registry that accepts a signature gets one line more in its log. -/
theorem register {signature : Signature} (logs : registry.Logs log)
    (added : registry.register signature = .ok extended) : extended.Logs (log ++ [signature]) := by
  constructor
  · intro name overloads
    rw [entries_register added, List.filter_append]
    by_cases same : name = signature.name
    · have before : (registry.entries.lookup name).getD [] = log.filter (·.name = name) := by
        have overloaded := logs.signatures name
        rwa [Registry.signatures, same, Signature.upper_of_key signature.keyed, ← same]
          at overloaded
      have last : [signature].filter (·.name = name) = [signature] := by simp [same]
      rw [if_pos same, before, last, Option.some_inj]
      constructor
      · intro held
        exact ⟨by simp [← held], held⟩
      · exact And.right
    · have last : [signature].filter (·.name = name) = [] := by simp [Ne.symm same]
      rw [if_neg same, last, List.append_nil]
      exact logs.entries name overloads
  · have fresh := mt logs.duplicates_iff.mpr (not_duplicates_of_register added)
    refine List.pairwise_append.mpr ⟨logs.distinct, List.pairwise_singleton _ _, ?_⟩
    intro earlier member later last same repeated
    obtain rfl := List.mem_singleton.mp last
    exact fresh ⟨earlier, member, same, repeated⟩

theorem registerAll {signatures : List Signature} (logs : registry.Logs log)
    (added : signatures.foldlM Registry.register registry = .ok extended) :
    extended.Logs (log ++ signatures) := by
  induction signatures generalizing registry log with
  | nil =>
    cases added
    rwa [List.append_nil]
  | cons signature rest ih =>
    rw [List.foldlM_cons] at added
    obtain ⟨next, first, later⟩ := bind_eq_ok_iff.mp added
    have whole := ih (logs.register first) later
    rwa [List.append_assoc] at whole

end Logs

private theorem filterMap_of_made {overloads : List Overload} {signatures : List Signature}
    (made : List.Forall₂ (fun overload signature => overload.signature = .ok signature) overloads
      signatures) :
    overloads.filterMap (·.signature.toOption) = signatures := by
  induction made with
  | nil => rfl
  | cons first _ ih => rw [List.filterMap_cons_some (by rw [first]; rfl), ih]

/-- Whatever succeeds has registered all that was offered, one signature after the other. -/
theorem registerAll_of_perform {registry extended : Registry} {registration : Registration}
    (done : registry.perform registration = .ok extended) :
    registration.offered.foldlM register registry = .ok extended := by
  cases registration with
  | signature signature =>
    rw [Registration.offered, List.foldlM_cons]
    exact bind_eq_ok_iff.mpr ⟨extended, done, rfl⟩
  | rule name params rule =>
    obtain ⟨signature, built, registered⟩ := bind_eq_ok_iff.mp done
    rw [Registration.offered, built]
    exact bind_eq_ok_iff.mpr ⟨extended, registered, rfl⟩
  | document text =>
    simp only [perform, extendText, extendWith] at done
    cases declared : Declarations.ofText text with
    | error refusal =>
      rw [declared] at done
      cases done
    | ok declarations =>
      simp only [declared] at done
      obtain ⟨signatures, accepts, registered⟩ := signatures_of_extend done
      rw [Registration.offered, declared]
      simpa only [filterMap_of_made accepts.made] using registered

/-- What is left of a registry after a registration that may have failed. -/
def settle (registry : Registry) (registration : Registration) : Registry :=
  match registry.perform registration with
  | .ok extended => extended
  | .error _ => registry

end Registry

/-- A table and the signatures that were accepted into it. -/
structure History where
  table : Table
  log : List Signature

namespace History

/-- Whatever a registration leaves in the table stays there, but a failed one accepts nothing. -/
def next (history : History) (registration : Registration) : History :=
  match (Change.perform registration).after history.table with
  | (.ok (), table) => ⟨table, history.log ++ registration.offered⟩
  | (.error _, table) => ⟨table, history.log⟩

def of (registrations : List Registration) : History :=
  registrations.foldl next ⟨[], []⟩

variable {registry : Registry} {log : List Signature}

theorem next_cases (registry : Registry) (log : List Signature) (registration : Registration) :
    (∃ extended, registry.perform registration = .ok extended ∧
      next ⟨registry.entries, log⟩ registration =
        ⟨extended.entries, log ++ registration.offered⟩) ∨
    ∃ error, registry.perform registration = .error error ∧
      next ⟨registry.entries, log⟩ registration = ⟨registry.entries, log⟩ := by
  unfold next
  rw [Change.after_perform]
  cases registry.perform registration with
  | ok extended => exact .inl ⟨extended, rfl, rfl⟩
  | error error => exact .inr ⟨error, rfl, rfl⟩

/-- One step keeps the table and the log together. -/
theorem next_logs (logs : registry.Logs log) (registration : Registration) :
    ∃ lines, next ⟨registry.entries, log⟩ registration =
        ⟨(registry.settle registration).entries, lines⟩ ∧
      (registry.settle registration).Logs lines := by
  rcases next_cases registry log registration with
    ⟨extended, done, moved⟩ | ⟨error, failed, unmoved⟩
  · have same : registry.settle registration = extended := by rw [Registry.settle, done]
    refine ⟨log ++ registration.offered, by rw [moved, same], ?_⟩
    rw [same]
    exact logs.registerAll (Registry.registerAll_of_perform done)
  · have same : registry.settle registration = registry := by rw [Registry.settle, failed]
    exact ⟨log, by rw [unmoved, same], by rwa [same]⟩

theorem of_logs (registrations : List Registration) :
    (of registrations).table = (registrations.foldl Registry.settle .empty).entries ∧
      (registrations.foldl Registry.settle .empty).Logs (of registrations).log := by
  induction registrations using List.reverseRecOn with
  | nil => exact ⟨rfl, .empty⟩
  | append_singleton earlier registration ih =>
    obtain ⟨table, logs⟩ := ih
    obtain ⟨lines, moved, logged⟩ := next_logs logs registration
    have before : of earlier =
        ⟨(earlier.foldl Registry.settle .empty).entries, (of earlier).log⟩ := by
      rw [← table]
    have last : of (earlier ++ [registration]) = next (of earlier) registration := by
      rw [of, List.foldl_append]
      rfl
    rw [last, before, moved, List.foldl_append]
    exact ⟨rfl, logged⟩

end History

namespace Registry

/-- A log answers every question that a registry is asked. -/
structure Reflects (registry : Registry) (log : List Signature) : Prop where
  keys : ∀ entry ∈ registry.entries, Text.IsKey entry.1
  overloads : ∀ entry ∈ registry.entries, entry.2 ≠ [] ∧
    entry.2 = log.filter (·.name = entry.1)
  distinct : ∀ entry ∈ registry.entries, entry.2.Pairwise fun earlier later =>
    ¬ (earlier.params = later.params ∧ earlier.variadic = later.variadic)
  sound : ∀ entry ∈ registry.entries, ∀ signature ∈ entry.2,
    (signature.variadic → signature.params ≠ []) ∧
      ∀ index, signature.returns.argument? = some index → index < signature.params.length
  contains : ∀ function, registry.contains function ↔
    ∃ signature ∈ log, signature.name = Text.upper function
  lookup : ∀ function arguments, registry.lookup function arguments =
    log.find? fun signature =>
      signature.name = Text.upper function && signature.accepts arguments
  register : ∀ signature, registry.register signature =
      .error (.duplicateSignature signature.name signature.text) ↔
    ∃ other ∈ log, other.name = signature.name ∧ other.params = signature.params ∧
      other.variadic = signature.variadic

theorem Logs.reflects {registry : Registry} {log : List Signature} (logs : registry.Logs log) :
    registry.Reflects log := by
  have held {entry : String × List Signature} (member : entry ∈ registry.entries) :
      entry.2 ≠ [] ∧ log.filter (·.name = entry.1) = entry.2 :=
    (logs.entries entry.1 entry.2).mp (lookup_eq_some_iff.mpr member)
  constructor
  case keys =>
    intro entry member
    obtain ⟨some, listed⟩ := held member
    obtain ⟨signature, first⟩ := List.exists_mem_of_ne_nil entry.2 some
    rw [← listed] at first
    have named : signature.name = entry.1 := by simpa using (List.mem_filter.mp first).2
    exact named ▸ signature.name_isKey
  case overloads =>
    intro entry member
    exact ⟨(held member).1, (held member).2.symm⟩
  case distinct =>
    intro entry member
    rw [← (held member).2, List.pairwise_filter]
    refine logs.distinct.imp ?_
    intro earlier later different first second
    have one : earlier.name = entry.1 := by simpa using first
    have two : later.name = entry.1 := by simpa using second
    exact different (one.trans two.symm)
  case sound =>
    intro entry _ signature _
    exact ⟨signature.repeatable, signature.declared⟩
  case contains =>
    intro function
    have listed := logs.entries (Text.upper function)
    constructor
    · intro present
      obtain ⟨overloads, found⟩ := Option.isSome_iff_exists.mp present
      obtain ⟨some, rfl⟩ := (listed overloads).mp found
      obtain ⟨signature, member⟩ := List.exists_mem_of_ne_nil _ some
      obtain ⟨logged, named⟩ := List.mem_filter.mp member
      exact ⟨signature, logged, by simpa using named⟩
    · intro logged
      obtain ⟨signature, member, named⟩ := logged
      have some : log.filter (·.name = Text.upper function) ≠ [] :=
        List.ne_nil_of_mem (List.mem_filter.mpr ⟨member, by simpa using named⟩)
      exact Option.isSome_iff_exists.mpr ⟨_, (listed _).mpr ⟨some, rfl⟩⟩
  case lookup =>
    intro function arguments
    rw [Registry.lookup, logs.signatures, List.find?_filter]
    simp only [Bool.decide_and, Bool.decide_eq_true]
  case register =>
    intro signature
    rw [← logs.duplicates_iff]
    constructor
    · intro failed
      by_contra fresh
      obtain ⟨extended, added⟩ := register_fresh fresh
      cases failed.symm.trans added
    · exact register_duplicate

variable {registry : Registry} {registration : Registration} {name : String}

/-- A single registration fails in any registry, or it registers a signature of its function. -/
theorem perform_cases (single : registration.function? = some name) :
    (∃ error, ∀ registry : Registry, registry.perform registration = .error error) ∨
      ∃ signature, signature.name = name ∧
        ∀ registry : Registry, registry.perform registration = registry.register signature := by
  cases registration with
  | document text => cases single
  | signature signature => exact .inr ⟨signature, Option.some.inj single, fun _ => rfl⟩
  | rule function params rule =>
    cases built : Signature.build function params false (.custom rule) none with
    | error error =>
      refine .inl ⟨error, ?_⟩
      intro registry
      rw [perform, registerRule, built]
      rfl
    | ok signature =>
      refine .inr ⟨signature, ?_, ?_⟩
      · rw [← Option.some.inj single]
        exact (Signature.of_build built).1
      · intro registry
        rw [perform, registerRule, built]
        rfl

/-- Registering looks at the overloads of one name and changes them alone. -/
theorem entries_settle (single : registration.function? = some name) {left right : Registry}
    (same : left.entries.lookup name = right.entries.lookup name) (other : String) :
    (left.settle registration).entries.lookup other =
      if other = name then (right.settle registration).entries.lookup name
      else left.entries.lookup other := by
  have unchanged : left.entries.lookup other =
      if other = name then right.entries.lookup name else left.entries.lookup other := by
    by_cases here : other = name <;> simp [here, same]
  rcases perform_cases single with ⟨error, failed⟩ | ⟨signature, rfl, registered⟩
  · simp only [settle, failed]
    exact unchanged
  · have overloads : left.signatures signature.name = right.signatures signature.name := by
      rw [signatures, signatures, Signature.upper_of_key signature.keyed, same]
    by_cases repeated : right.Duplicates [] signature
    · have both : left.Duplicates [] signature := by rwa [Duplicates, overloads]
      simp only [settle, registered, register_duplicate repeated, register_duplicate both]
      exact unchanged
    · have both : ¬ left.Duplicates [] signature := by rwa [Duplicates, overloads]
      obtain ⟨first, one⟩ := register_fresh both
      obtain ⟨second, two⟩ := register_fresh repeated
      simp only [settle, registered, one, two]
      rw [entries_register one, entries_register two, if_pos rfl, ← same]
      by_cases here : other = signature.name <;> simp [here]

/-- What a registry holds under a name depends on the registrations for that name alone. -/
theorem entries_settleAll {registrations : List Registration}
    (single : ∀ registration ∈ registrations, registration.function?.isSome) (name : String)
    {left right : Registry} (same : left.entries.lookup name = right.entries.lookup name) :
    (registrations.foldl settle left).entries.lookup name =
      ((registrations.filter (·.function? = some name)).foldl settle right).entries.lookup name := by
  induction registrations generalizing left right with
  | nil => exact same
  | cons registration rest ih =>
    obtain ⟨first, others⟩ := List.forall_mem_cons.mp single
    obtain ⟨function, named⟩ := Option.isSome_iff_exists.mp first
    rw [List.foldl_cons, List.filter_cons]
    by_cases here : function = name
    · rw [if_pos (by simp [named, here]), List.foldl_cons]
      apply ih others
      rw [here] at named
      rw [entries_settle named same, if_pos rfl]
    · rw [if_neg (by simp [named, here])]
      apply ih others
      rw [entries_settle named rfl, if_neg (Ne.symm here), same]

/-- Sorted entries are known from their look-ups. -/
theorem entries_eq_of_lookup {left right : Registry}
    (same : ∀ name, left.entries.lookup name = right.entries.lookup name) :
    left.entries = right.entries := by
  have distinct (registry : Registry) : registry.entries.Nodup := by
    refine registry.sorted.imp ?_
    intro first second before equal
    exact String.lt_irrefl _ (equal ▸ before)
  have members : left.entries.Perm right.entries := by
    rw [List.perm_ext_iff_of_nodup (distinct left) (distinct right)]
    intro entry
    obtain ⟨name, overloads⟩ := entry
    rw [← lookup_eq_some_iff, ← lookup_eq_some_iff, same]
  apply members.eq_of_pairwise _ left.sorted right.sorted
  intro first second _ _ before behind
  exact absurd (String.lt_trans before behind) (String.lt_irrefl _)

end Registry

namespace History

/-- A table holds what the log of accepted signatures says, after every run of
registrations. Two runs of single registrations that have the same ones for each function, in the same
order, give the same table. -/
theorem of_reflects (registrations : List Registration) :
    (∃ registry : Registry, registry.entries = (of registrations).table ∧
      registry.Reflects (of registrations).log) ∧
    ∀ others : List Registration,
      (∀ registration ∈ registrations ++ others, registration.function?.isSome) →
      (∀ name, registrations.filter (·.function? = some name) =
        others.filter (·.function? = some name)) →
      (of registrations).table = (of others).table := by
  obtain ⟨table, logs⟩ := of_logs registrations
  refine ⟨⟨_, table.symm, logs.reflects⟩, ?_⟩
  intro others single same
  obtain ⟨first, second⟩ := List.forall_mem_append.mp single
  rw [table, (of_logs others).1]
  apply Registry.entries_eq_of_lookup
  intro name
  rw [Registry.entries_settleAll first name rfl, same, ← Registry.entries_settleAll second name rfl]

/-- The last registration fails, as it is the first one again. -/
def halfFirst : List Registration :=
  [.rule " half " [.numeric] fun _ => .ok .float64, .rule "wrap" [.any] fun _ => .ok .string,
    .rule "Half" [.exact .string] fun _ => .ok .string, .rule "HALF" [.numeric] fun _ => .ok .int64]

def wrapFirst : List Registration :=
  [.rule "wrap" [.any] fun _ => .ok .string, .rule " half " [.numeric] fun _ => .ok .float64,
    .rule "Half" [.exact .string] fun _ => .ok .string, .rule "HALF" [.numeric] fun _ => .ok .int64]

theorem wrapFirst_reflects :
    (∀ registration ∈ halfFirst ++ wrapFirst, registration.function?.isSome) ∧
    (∀ name, halfFirst.filter (·.function? = some name) =
      wrapFirst.filter (·.function? = some name)) ∧
    (of halfFirst).log.map Signature.text = ["HALF(NUMERIC)", "WRAP(ANY)", "HALF(STRING)"] ∧
    (of wrapFirst).log.map Signature.text = ["WRAP(ANY)", "HALF(NUMERIC)", "HALF(STRING)"] ∧
    (of halfFirst).table = (of wrapFirst).table := by
  have single : ∀ registration ∈ halfFirst ++ wrapFirst, registration.function?.isSome := by
    decide +kernel
  have same (name : String) : halfFirst.filter (·.function? = some name) =
      wrapFirst.filter (·.function? = some name) := by
    have half : Signature.key " half " = "HALF" := by decide +kernel
    have again : Signature.key "Half" = "HALF" := by decide +kernel
    have kept : Signature.key "HALF" = "HALF" := by decide +kernel
    have wrap : Signature.key "wrap" = "WRAP" := by decide +kernel
    simp only [halfFirst, wrapFirst, List.filter_cons, Registration.function?, half, again, kept,
      wrap, Option.some_inj, List.filter_nil]
    by_cases named : "HALF" = name
    · subst named
      simp
    · simp [named]
  exact ⟨single, same, by decide +kernel, by decide +kernel,
    (of_reflects halfFirst).2 wrapFirst single same⟩

end History

end QueryTyping
