import Mathlib.Data.List.Forall2
import QueryTyping.Document.Form
import QueryTyping.Proofs.Outcome

/-! What a document is read as. The members of an object count by their keys and not by their order,
so that readings are stated for a document and for all those with the same members elsewhere. A form
yields a value when all that it asks for is there. -/

namespace QueryTyping

namespace Json

/-- Documents that differ at most in the order in which objects hold their members. -/
inductive Reordered : Json → Json → Prop where
  | same {document : Json} : Reordered document document
  | array {items others : List Json} (each : List.Forall₂ Reordered items others) :
      Reordered (.array items) (.array others)
  | object {members others : Members}
      (keys : (members.map Prod.fst).Perm (others.map Prod.fst))
      (each : ∀ key document other, (key, document) ∈ members → (key, other) ∈ others →
        Reordered document other) :
      Reordered (.object members) (.object others)

namespace Members

variable {members others : Members} {key : String} {document : Json}

private theorem split_of_mem (distinct : (members.map Prod.fst).Nodup)
    (member : (key, document) ∈ members) : ∃ before after,
      members = before ++ (key, document) :: after ∧ (∀ earlier ∈ before, earlier.1 ≠ key) ∧
        ∀ later ∈ after, later.1 ≠ key := by
  obtain ⟨before, after, rfl⟩ := List.append_of_mem member
  rw [List.map_append, List.map_cons, List.nodup_append] at distinct
  obtain ⟨_, behind, apart⟩ := distinct
  refine ⟨before, after, rfl, ?_, ?_⟩
  · intro earlier early
    exact apart _ (List.mem_map_of_mem early) _ List.mem_cons_self
  · intro later late same
    exact (List.nodup_cons.mp behind).1 (List.mem_map.mpr ⟨later, late, same⟩)

theorem lookup_of_mem (distinct : (members.map Prod.fst).Nodup)
    (member : (key, document) ∈ members) : members.lookup key = some document := by
  obtain ⟨before, after, same, earlier, _⟩ := split_of_mem distinct member
  refine List.lookup_eq_some_iff.mpr ⟨before, after, same, ?_⟩
  intro other early
  simpa using (earlier other early).symm

theorem only?_of_mem (distinct : (members.map Prod.fst).Nodup)
    (member : (key, document) ∈ members) : members.only? key = some document := by
  obtain ⟨before, after, rfl, earlier, later⟩ := split_of_mem distinct member
  have front : before.filter (·.1 = key) = [] := by simpa using earlier
  have back : after.filter (·.1 = key) = [] := by simpa using later
  simp [only?, List.filter_append, front, back]

theorem find_cons (name : String) (document : Json) (rest : Members) (key : String)
    (read : Json → Except Refusal α) :
    find ((name, document) :: rest) key read =
      if name = key then some (read document) else find rest key read := by
  rw [find, List.lookup_cons]
  by_cases same : name = key
  · simp [same]
  · have other : (key == name) = false := by simpa using Ne.symm same
    simp [other, same, find]

/-- An object that has these members and no others, each of them once and in any order. -/
structure Like (members others : Members) : Prop where
  distinct : (others.map Prod.fst).Nodup
  keys : ∀ key, key ∈ others.map Prod.fst ↔ key ∈ members.map Prod.fst
  each : ∀ key document, (key, document) ∈ members →
    ∃ other, (key, other) ∈ others ∧ document.Reordered other

end Members

theorem Reordered.members {members : Members} {document : Json}
    (distinct : (members.map Prod.fst).Nodup)
    (reordered : (Json.object members).Reordered document) :
    ∃ others, document = .object others ∧ members.Like others := by
  cases reordered with
  | same => exact ⟨members, rfl, distinct, fun _ => Iff.rfl, fun _ value member =>
      ⟨value, member, .same⟩⟩
  | @object _ others keys each =>
    refine ⟨others, rfl, keys.nodup_iff.mp distinct, fun _ => keys.mem_iff.symm, ?_⟩
    intro key value member
    obtain ⟨⟨_, other⟩, found, rfl⟩ :=
      List.mem_map.mp (keys.mem_iff.mp (List.mem_map_of_mem member))
    exact ⟨other, found, each _ _ _ member found⟩

/-- However its objects are ordered, the document is read as this value. -/
def ReadsAs (document : Json) (read : Json → Except Refusal α) (value : α) : Prop :=
  ∀ other, document.Reordered other → read other = .ok value

def isScalar : Json → Bool
  | array _ | object _ => false
  | _ => true

namespace ReadsAs

variable {read : Json → Except Refusal α} {value : α} {document : Json}

theorem scalar (plain : document.isScalar) (reads : read document = .ok value) :
    document.ReadsAs read value := by
  intro other reordered
  cases reordered with
  | same => exact reads
  | array | object => cases plain

theorem string (text : String) : (Json.string text).ReadsAs readString text :=
  scalar rfl rfl

theorem bool (value : Bool) : (Json.bool value).ReadsAs readBool value :=
  scalar rfl rfl

theorem below {bound number : Nat} (small : number < bound) :
    (Json.int number).ReadsAs (readBelow bound) number := by
  apply scalar rfl
  rw [readBelow, if_pos]
  · simp
  · simpa using small

theorem name (named : String → Option α) (name : String) (known : named name = some value) :
    (Json.string name).ReadsAs (readNestedName named) value := by
  apply scalar rfl
  rw [readNestedName, readName, known]
  exact nofun

theorem nullable (reads : document.ReadsAs read value) (given : document ≠ .null) :
    document.ReadsAs (readNullable read) (some value) := by
  intro other reordered
  have there : other ≠ .null := by
    cases reordered with
    | same => exact given
    | array | object => exact nofun
  rw [readNullable, reads other reordered]
  · rfl
  · exact there

private theorem mapM {documents others : List Json} {values : List α}
    (reads : List.Forall₂ (ReadsAs · read) documents values)
    (reordered : List.Forall₂ Reordered documents others) : others.mapM read = .ok values := by
  induction reads generalizing others with
  | nil =>
    cases reordered
    rfl
  | cons here _ ih =>
    cases reordered with
    | cons first rest => rw [List.mapM_cons, here _ first, ok_bind, ih rest, ok_bind]; rfl

theorem list {documents : List Json} {values : List α}
    (reads : List.Forall₂ (ReadsAs · read) documents values) :
    (array documents).ReadsAs (readList read) values := by
  intro other reordered
  cases reordered with
  | same => exact mapM reads (List.forall₂_same.mpr fun _ _ => .same)
  | array each => exact mapM reads each

theorem object {members : Members} (distinct : (members.map Prod.fst).Nodup)
    (reads : ∀ others, members.Like others → read (.object others) = .ok value) :
    (Json.object members).ReadsAs read value := by
  intro other reordered
  obtain ⟨others, rfl, like⟩ := reordered.members distinct
  exact reads others like

end ReadsAs

end Json

namespace Form

@[simp] theorem required_keys (key : String) (found : Option (Except Refusal α)) :
    (required key found).keys = [key] := by
  rcases found with _ | _ | _ <;> rfl

@[simp] theorem optional_keys (key : String) (default : α) (found : Option (Except Refusal α)) :
    (optional key default found).keys = [key] := by
  cases found with
  | none => rfl
  | some => exact required_keys key _

@[simp] theorem seq_keys (function : Form (α → β)) (argument : Form α) :
    (function <*> argument).keys = function.keys ++ argument.keys :=
  rfl

@[simp] theorem map_keys (change : α → β) (form : Form α) : (change <$> form).keys = form.keys :=
  rfl

/-- Nothing that the form asks for is refused or missing. -/
structure Yields (form : Form α) (result : α) : Prop where
  refusals : form.refusals = []
  value : form.value = some result

theorem readRecord_object (form : Json.Members → Form α) (members : Json.Members) :
    readRecord form (.object members) = (form members).read members :=
  rfl

theorem readClosedRecord_object (form : Json.Members → Form α) (members : Json.Members) :
    readClosedRecord form (.object members) = (form members).readClosed [] members :=
  rfl

namespace Yields

theorem seq {function : Form (α → β)} {argument : Form α} {change : α → β} {value : α}
    (first : function.Yields change) (second : argument.Yields value) :
    (function <*> argument).Yields (change value) := by
  constructor
  · change function.refusals ++ argument.refusals = []
    rw [first.refusals, second.refusals, List.append_nil]
  · change (do return (← function.value) (← argument.value)) = some (change value)
    rw [first.value, second.value]
    rfl

theorem map {form : Form α} {value : α} (change : α → β) (yields : form.Yields value) :
    (change <$> form).Yields (change value) :=
  have constant : (pure change : Form (α → β)).Yields change := ⟨rfl, rfl⟩
  constant.seq yields

variable {form : Form α} {value : α} {members others : Json.Members}

private theorem firstRefusal (yields : form.Yields value) {seen : List String}
    (distinct : (members.map Prod.fst).Nodup) (fresh : ∀ key ∈ seen, key ∉ members.map Prod.fst) :
    form.firstRefusal seen members = none := by
  induction members generalizing seen with
  | nil => rfl
  | cons member rest ih =>
    obtain ⟨key, document⟩ := member
    obtain ⟨here, behind⟩ := List.nodup_cons.mp distinct
    have others : ∀ other ∈ seen, other ∉ rest.map Prod.fst := fun other known listed =>
      fresh other known (List.mem_cons_of_mem _ listed)
    have unseen : key ∉ seen := fun known => fresh key known List.mem_cons_self
    rw [Form.firstRefusal]
    by_cases asked : key ∈ form.keys
    · have later := ih behind (List.forall_mem_cons.mpr ⟨here, others⟩)
      rw [if_pos asked, if_neg unseen, yields.refusals, later]
      rfl
    · rw [if_neg asked, ih behind others]

theorem read (yields : form.Yields value) (like : members.Like others) :
    Form.read others form = .ok value := by
  rw [Form.read, yields.firstRefusal like.distinct (by simp), yields.value]

theorem readClosed (yields : form.Yields value) (like : members.Like others) {names : List String}
    (closed : members.map Prod.fst ⊆ form.keys ++ names) :
    Form.readClosed names others form = .ok value := by
  have known : ∀ key ∈ others.map Prod.fst, key ∈ form.keys ∨ key ∈ names := by
    intro key listed
    exact List.mem_append.mp (closed ((like.keys key).mp listed))
  rw [Form.readClosed, if_pos (by simpa using known), yields.read like]

end Yields

end Form

namespace Json.Members.Like

variable {members others : Members} {document : Json} {read : Json → Except Refusal α} {value : α}

private theorem find (like : members.Like others) {key : String}
    (member : (key, document) ∈ members) (reads : document.ReadsAs read value) :
    others.find key read = some (.ok value) := by
  obtain ⟨other, found, reordered⟩ := like.each key document member
  rw [Members.find, lookup_of_mem like.distinct found, Option.map_some, reads other reordered]

theorem required (like : members.Like others) (key : String) (member : (key, document) ∈ members)
    (reads : document.ReadsAs read value) :
    (Form.required key (others.find key read)).Yields value := by
  rw [like.find member reads]
  exact ⟨rfl, rfl⟩

/-- A member that may be left out is read like any other where it is given. -/
theorem given (like : members.Like others) (key : String) (default : α)
    (member : (key, document) ∈ members) (reads : document.ReadsAs read value) :
    (Form.optional key default (others.find key read)).Yields value := by
  rw [like.find member reads]
  exact ⟨rfl, rfl⟩

theorem omitted (like : members.Like others) (key : String) (default : α)
    (absent : key ∉ members.map Prod.fst) :
    (Form.optional key default (others.find key read)).Yields default := by
  have nothing : others.lookup key = none := by
    rw [List.lookup_eq_none_iff]
    rintro ⟨other, _⟩ member
    have there : other ∈ members.map Prod.fst := (like.keys other).mp (List.mem_map_of_mem member)
    have different : key ≠ other := fun same => absent (same ▸ there)
    simpa using different
  rw [Members.find, nothing]
  exact ⟨rfl, rfl⟩

/-- A member that is written only where there is something to write. -/
theorem ifAny (like : members.Like others) (key : String) (write : α → Json)
    {read : Json → Except Refusal (Option α)} {value : Option α}
    (written : ∀ content, value = some content → (key, write content) ∈ members)
    (absent : value = none → key ∉ members.map Prod.fst)
    (reads : ∀ content, (write content).ReadsAs read (some content)) :
    (Form.optional key none (others.find key read)).Yields value := by
  cases value with
  | some content => exact like.given key none (written content rfl) (reads content)
  | none => exact like.omitted key none (absent rfl)

theorem only? (like : members.Like others) (key text : String)
    (member : (key, .string text) ∈ members) : others.only? key = some (.string text) := by
  obtain ⟨other, found, reordered⟩ := like.each key _ member
  cases reordered
  exact only?_of_mem like.distinct found

end Json.Members.Like

end QueryTyping
