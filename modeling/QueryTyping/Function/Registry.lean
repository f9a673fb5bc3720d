import QueryTyping.Function.Catalog
import QueryTyping.Function.Declaration

/-! Registries of functions. The overloads of one name are kept in the order in which they were
registered, which is also the order in which they are tried. The names are kept sorted. -/

namespace QueryTyping

structure Registry where
  entries : List (String × List Signature)
  sorted : entries.Pairwise (·.1 < ·.1)
  keyed : ∀ entry ∈ entries, Signature.key entry.1 = entry.1

namespace Registry

/-- Adds an overload behind those of its name, under a new name if there are none. -/
def insert (signature : Signature) :
    List (String × List Signature) → List (String × List Signature)
  | [] => [(signature.name, [signature])]
  | (name, overloads) :: rest =>
    if signature.name = name then (name, overloads ++ [signature]) :: rest
    else if signature.name < name then
      (signature.name, [signature]) :: (name, overloads) :: rest
    else (name, overloads) :: insert signature rest

private theorem name_of_mem_insert {signature : Signature}
    {entries : List (String × List Signature)} {entry : String × List Signature}
    (found : entry ∈ insert signature entries) :
    entry.1 = signature.name ∨ ∃ old ∈ entries, old.1 = entry.1 := by
  induction entries with
  | nil => simp_all [insert]
  | cons first rest ih =>
    simp only [insert] at found
    split at found
    · rcases List.mem_cons.mp found with rfl | later
      · exact .inr ⟨first, List.mem_cons_self, rfl⟩
      · exact .inr ⟨entry, List.mem_cons_of_mem _ later, rfl⟩
    · split at found
      · rcases List.mem_cons.mp found with rfl | later
        · exact .inl rfl
        · exact .inr ⟨entry, later, rfl⟩
      · rcases List.mem_cons.mp found with rfl | later
        · exact .inr ⟨first, List.mem_cons_self, rfl⟩
        · rcases ih later with new | ⟨old, member, same⟩
          · exact .inl new
          · exact .inr ⟨old, List.mem_cons_of_mem _ member, same⟩

theorem insert_sorted (signature : Signature) {entries : List (String × List Signature)}
    (sorted : entries.Pairwise (·.1 < ·.1)) :
    (insert signature entries).Pairwise (·.1 < ·.1) := by
  induction entries with
  | nil => simp [insert]
  | cons first rest ih =>
    obtain ⟨least, ordered⟩ := List.pairwise_cons.mp sorted
    simp only [insert]
    split
    · exact List.pairwise_cons.mpr ⟨least, ordered⟩
    · next other =>
      split
      · next before =>
        refine List.pairwise_cons.mpr ⟨?_, sorted⟩
        intro entry found
        rcases List.mem_cons.mp found with rfl | later
        · exact before
        · exact String.lt_trans before (least entry later)
      · next behind =>
        refine List.pairwise_cons.mpr ⟨?_, ih ordered⟩
        intro entry found
        rcases name_of_mem_insert found with new | ⟨old, member, same⟩
        · rw [new]
          exact Std.lt_of_le_of_ne (String.not_lt.mp behind) (Ne.symm other)
        · exact same ▸ least old member

theorem insert_keyed (signature : Signature) {entries : List (String × List Signature)}
    (keyed : ∀ entry ∈ entries, Signature.key entry.1 = entry.1) :
    ∀ entry ∈ insert signature entries, Signature.key entry.1 = entry.1 := by
  intro entry found
  rcases name_of_mem_insert found with new | ⟨old, member, same⟩
  · rw [new, signature.keyed]
  · exact same ▸ keyed old member

def empty : Registry where
  entries := []
  sorted := .nil
  keyed := by simp

/-- The overloads of a function, whatever the case of its name. -/
def signatures (registry : Registry) (function : String) : List Signature :=
  (registry.entries.lookup (Text.upper function)).getD []

def names (registry : Registry) : List String :=
  registry.entries.map (·.1)

/-- The number of names, not of overloads. -/
def size (registry : Registry) : Nat :=
  registry.entries.length

def isEmpty (registry : Registry) : Bool :=
  registry.entries.isEmpty

def contains (registry : Registry) (function : String) : Bool :=
  (registry.entries.lookup (Text.upper function)).isSome

def lookup (registry : Registry) (function : String) (arguments : List SqlType) :
    Option Signature :=
  (registry.signatures function).find? (·.accepts arguments)

def toCatalog (registry : Registry) : Catalog where
  contains := registry.contains
  lookup := registry.lookup

/-- Adds an overload, unless one of its name has the same parameters. -/
def register (registry : Registry) (signature : Signature) : Except CatalogError Registry :=
  if (registry.signatures signature.name).any (·.sameParameters signature) then
    .error (.duplicateSignature signature.name signature.text)
  else .ok {
    entries := insert signature registry.entries
    sorted := insert_sorted signature registry.sorted
    keyed := insert_keyed signature registry.keyed }

/-- Adds an overload with a fixed number of arguments whose result a rule computes. -/
def registerRule (registry : Registry) (name : String) (params : List Param)
    (rule : List SqlType → Except TypeError SqlType) : Except CatalogError Registry := do
  registry.register (← Signature.build name params false (.custom rule) none)

/-- Adds all declared overloads in order. The first that fails leaves the registry as it was. -/
def extend (registry : Registry) (declarations : Declarations) : Except CatalogError Registry :=
  declarations.overloads.foldlM (fun extended overload => do
    extended.register (← overload.signature)) registry

end Registry

end QueryTyping
