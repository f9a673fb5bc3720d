import QueryTyping.Proofs.Registration

/-! Registering by changing a table in place. A name gets its entry before anything is checked, a
document is taken in signature by signature, and a change that fails leaves the table as it was at
that point. What comes out is what the registry gives as a value: additions either happen as a
whole or not at all. -/

namespace QueryTyping

/-- The overloads of each name, sorted by name. -/
abbrev Table := List (String × List Signature)

namespace Table

/-- Makes an entry for a name that has none. -/
def makeRoom (name : String) : Table → Table
  | [] => [(name, [])]
  | (key, overloads) :: rest =>
    if name = key then (key, overloads) :: rest
    else if name < key then (name, []) :: (key, overloads) :: rest
    else (key, overloads) :: makeRoom name rest

/-- Puts an overload behind those in the entry of its name. -/
def push (signature : Signature) : Table → Table
  | [] => []
  | (key, overloads) :: rest =>
    if signature.name = key then (key, overloads ++ [signature]) :: rest
    else (key, overloads) :: push signature rest

def overloads (table : Table) (name : String) : List Signature :=
  (table.lookup name).getD []

theorem push_makeRoom (signature : Signature) (table : Table) :
    push signature (makeRoom signature.name table) = Registry.insert signature table := by
  induction table with
  | nil => simp [makeRoom, push, Registry.insert]
  | cons entry rest ih =>
    obtain ⟨key, overloads⟩ := entry
    simp only [makeRoom, Registry.insert]
    split
    next same => simp [push, same]
    next other =>
      split
      next before => simp [push]
      next behind => simp [push, other, ih]

theorem makeRoom_of_found {name : String} {table : Table} {overloads : List Signature}
    (sorted : table.Pairwise (·.1 < ·.1)) (found : table.lookup name = some overloads) :
    makeRoom name table = table := by
  induction table with
  | nil => cases found
  | cons entry rest ih =>
    obtain ⟨key, others⟩ := entry
    obtain ⟨least, ordered⟩ := List.pairwise_cons.mp sorted
    simp only [makeRoom]
    split
    · rfl
    next other =>
      have differs : (name == key) = false := beq_false_of_ne other
      rw [List.lookup_cons, differs] at found
      split
      next before =>
        obtain ⟨front, behind, split, _⟩ := List.lookup_eq_some_iff.mp found
        have later := least (name, overloads) (by simp [split])
        exact absurd (String.lt_trans before later) (String.lt_irrefl _)
      next => rw [ih ordered found]

theorem lookup_makeRoom_self (name : String) (table : Table) (missing : table.lookup name = none) :
    (makeRoom name table).lookup name = some [] := by
  induction table with
  | nil => simp [makeRoom]
  | cons entry rest ih =>
    obtain ⟨key, overloads⟩ := entry
    simp only [makeRoom]
    split
    next same => simp [same] at missing
    next other =>
      have differs : (name == key) = false := beq_false_of_ne other
      rw [List.lookup_cons, differs] at missing
      split
      next => simp
      next => rw [List.lookup_cons, differs, ih missing]

/-- The entry made for a new name has no overloads, and no other entry is touched. -/
theorem overloads_makeRoom {name : String} {table : Table} (sorted : table.Pairwise (·.1 < ·.1)) :
    overloads (makeRoom name table) name = overloads table name := by
  unfold overloads
  cases found : table.lookup name with
  | some others => rw [makeRoom_of_found sorted found, found]
  | none => rw [lookup_makeRoom_self name table found]; rfl

end Table

namespace Registry

/-- Makes the signature of a declared overload and adds it. -/
def add (registry : Registry) (overload : Overload) : Except CatalogError Registry := do
  registry.register (← overload.signature)

theorem extend_eq (registry : Registry) (declarations : Declarations) :
    registry.extend declarations = declarations.overloads.foldlM add registry :=
  rfl

/-- How an addition to a registry ends, and the table that it leaves: the new one or, if it fails, the
old one as it was. -/
def outcome (registry : Registry) :
    Except CatalogError Registry → Except CatalogError Unit × Table
  | .ok extended => (.ok (), extended.entries)
  | .error error => (.error error, registry.entries)

end Registry

/-- The functions outside of any group are taken as a last group. -/
def Declarations.allGroups (declarations : Declarations) : List FunctionGroup :=
  if declarations.functions.isEmpty then declarations.groups
  else declarations.groups ++ [{ name := "default", functions := declarations.functions }]

theorem Declarations.overloads_eq (declarations : Declarations) :
    declarations.overloads = (declarations.allGroups.flatMap FunctionGroup.functions).flatMap
      FunctionDeclaration.overloads := by
  unfold overloads allGroups
  cases declarations.functions <;> simp

/-- A change in place. What a change has done before it fails is not undone. -/
abbrev Change := ExceptT CatalogError (StateM Table)

namespace Change

/-- What a change returns or why it failed, and the table that it leaves. -/
def after (change : Change α) (table : Table) : Except CatalogError α × Table :=
  change.run table

@[simp] theorem after_lift (result : Except CatalogError α) (table : Table) :
    (liftM result : Change α).after table = (result, table) :=
  rfl

@[simp] theorem after_get (table : Table) : (get : Change Table).after table = (.ok table, table) :=
  rfl

@[simp] theorem after_modify (change : Table → Table) (table : Table) :
    (modify change : Change Unit).after table = (.ok (), change table) :=
  rfl

theorem after_bind (first : Change α) (next : α → Change β) (table : Table) :
    (first >>= next).after table =
      match first.after table with
      | (.ok value, middle) => (next value).after middle
      | (.error error, middle) => (.error error, middle) := by
  have step : (first >>= next).after table =
      ExceptT.bindCont next (first.after table).1 (first.after table).2 := rfl
  rw [step]
  rcases first.after table with ⟨result, middle⟩
  cases result <;> rfl

def register (signature : Signature) : Change Unit := do
  modify (Table.makeRoom signature.name)
  let overloads := (← get).overloads signature.name
  if overloads.any (·.sameParameters signature) then
    throw (.duplicateSignature signature.name signature.text)
  modify (Table.push signature)

def add (overload : Overload) : Change Unit := do
  register (← overload.signature)

def declare (declarations : Declarations) : Change Unit :=
  forM declarations.allGroups fun group =>
    forM group.functions fun function =>
      forM function.usages fun usage =>
        add ⟨function.name, function.description, usage⟩

/-- Works on a copy, which replaces the table when all went well. -/
def extendWith {Document : Type} (read : Document → Except Refusal Declarations)
    (document : Document) : Change Unit := do
  match read document with
  | .error _ => throw .malformed
  | .ok declarations =>
    match (declare declarations).after (← get) with
    | (.ok (), staged) => set staged
    | (.error error, _) => throw error

def perform : Registration → Change Unit
  | .signature signature => register signature
  | .rule name params rule => do
    register (← Signature.build name params false (.custom rule) none)
  | .document text => extendWith Declarations.ofText text

/-- Only a name that has overloads can have a duplicate, and such a name had its entry before. -/
theorem after_register (registry : Registry) (signature : Signature) :
    (register signature).after registry.entries =
      registry.outcome (registry.register signature) := by
  have same : Table.overloads registry.entries signature.name =
      registry.signatures signature.name := by
    rw [Registry.signatures, Signature.upper_of_key signature.keyed]
    rfl
  have room : Table.overloads (Table.makeRoom signature.name registry.entries) signature.name =
      Table.overloads registry.entries signature.name := Table.overloads_makeRoom registry.sorted
  simp only [register, after_bind, after_modify, after_get, room, same]
  unfold Registry.register
  split
  next duplicate =>
    have present : ∃ overloads, registry.entries.lookup signature.name = some overloads := by
      cases found : registry.entries.lookup signature.name with
      | some overloads => exact ⟨overloads, rfl⟩
      | none =>
        rw [← same, Table.overloads, found] at duplicate
        cases duplicate
    obtain ⟨overloads, found⟩ := present
    rw [Table.makeRoom_of_found registry.sorted found]
    rfl
  next fresh =>
    simp only [after_modify, Table.push_makeRoom]
    rfl

theorem after_add (registry : Registry) (overload : Overload) :
    (add overload).after registry.entries = registry.outcome (registry.add overload) := by
  simp only [add, after_bind, after_lift, Registry.add]
  cases overload.signature with
  | error error => rfl
  | ok signature => exact after_register registry signature

/-- Overload by overload, with those before the first error still in the table after it. -/
theorem after_forM_add (registry : Registry) (overloads : List Overload) :
    ∃ left, (forM overloads add).after registry.entries =
      match overloads.foldlM Registry.add registry with
      | .ok extended => (.ok (), extended.entries)
      | .error error => (.error error, left) := by
  induction overloads generalizing registry with
  | nil => exact ⟨[], rfl⟩
  | cons overload rest ih =>
    rw [List.forM_cons, List.foldlM_cons, after_bind, after_add]
    cases registry.add overload with
    | error error => exact ⟨registry.entries, rfl⟩
    | ok extended => exact ih extended

private theorem forM_flatMap {items : List α} {parts : α → List β} {step : β → Change Unit} :
    forM (items.flatMap parts) step = forM items fun item => forM (parts item) step := by
  induction items with
  | nil => rfl
  | cons item rest ih => rw [List.flatMap_cons, List.forM_append, List.forM_cons, ih]

theorem declare_eq (declarations : Declarations) :
    declare declarations = forM declarations.overloads add := by
  rw [declarations.overloads_eq, forM_flatMap, forM_flatMap]
  simp only [declare, FunctionDeclaration.overloads, List.forM_map]

/-- A document that fails half-way leaves nothing behind, because it is taken into a copy. -/
theorem after_extendWith {Document : Type} (read : Document → Except Refusal Declarations)
    (registry : Registry) (document : Document) :
    (extendWith read document).after registry.entries =
      registry.outcome (registry.extendWith read document) := by
  unfold extendWith Registry.extendWith
  cases read document with
  | error refusal => rfl
  | ok declarations =>
    obtain ⟨left, staged⟩ := after_forM_add registry declarations.overloads
    simp only [after_bind, after_get, declare_eq, staged, Registry.extend_eq]
    cases declarations.overloads.foldlM Registry.add registry <;> rfl

theorem after_perform (registry : Registry) (registration : Registration) :
    (perform registration).after registry.entries =
      registry.outcome (registry.perform registration) := by
  cases registration with
  | signature signature => exact after_register registry signature
  | document text => exact after_extendWith Declarations.ofText registry text
  | rule name params rule =>
    simp only [perform, after_bind, after_lift, Registry.perform, Registry.registerRule]
    cases Signature.build name params false (.custom rule) none with
    | error error => rfl
    | ok signature => exact after_register registry signature

end Change

end QueryTyping
