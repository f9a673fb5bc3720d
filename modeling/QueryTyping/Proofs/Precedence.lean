import QueryTyping.Proofs.ColumnRules
import QueryTyping.Proofs.Row

/-! Which column a name means, stated as rules and without a search. A beginning of the name can be
the name of a column, the end of a dotted one, or the name of the relation before that of a column.
The longest beginning of such a kind counts, also where what is behind it leads nowhere, and the
rules never leave a choice. -/

namespace QueryTyping

/-- The field has a dotted name, and its last segment is meant by this one. -/
def Field.EndsIn (policy : CasePolicy) (segment : String) (field : Field) : Prop :=
  ∃ front last, front ≠ [] ∧ Text.segments field.name = front ++ [last] ∧
    policy.agree last segment

theorem Field.endsIn_iff {policy : CasePolicy} {segment : String} {field : Field} :
    (Text.lastSegment? field.name).any (policy.agree · segment) ↔
      field.EndsIn policy segment := by
  simp only [Option.any_eq_true, Text.lastSegment?_eq_some_iff]
  constructor
  · rintro ⟨last, ⟨front, some, parts⟩, agrees⟩
    exact ⟨front, last, some, parts, agrees⟩
  · rintro ⟨front, last, some, parts, agrees⟩
    exact ⟨last, ⟨front, some, parts⟩, agrees⟩

instance (policy : CasePolicy) (segment : String) :
    DecidablePred (Field.EndsIn policy segment) :=
  fun _ => decidable_of_iff _ Field.endsIn_iff

namespace Schema

/-- The column of this whole name. -/
def Named (schema : Schema) (name : String) (field : Field) : Prop :=
  field ∈ schema.fields ∧ schema.casePolicy.agree field.name name

/-- The columns with a dotted name that ends in a segment, in the order in which they are
declared. -/
def candidates (schema : Schema) (segment : String) : List Field :=
  schema.fields.filter (Field.EndsIn schema.casePolicy segment)

/-- The column for which a beginning of a name stands. The beginning is given by its segments. -/
inductive Hits (schema : Schema) : List String → Field → Prop where
  | whole {first : String} {rest : List String} {field : Field}
      (named : schema.Named (Text.dotted (first :: rest)) field) :
      Hits schema (first :: rest) field
  | ending {segment : String} {field : Field}
      (unnamed : ∀ other, ¬ schema.Named segment other)
      (only : schema.candidates segment = [field]) : Hits schema [segment] field
  | qualified {relation first next : String} {rest : List String} {field : Field}
      (unnamed : ∀ other, ¬ schema.Named (Text.dotted (first :: next :: rest)) other)
      (listed : relation ∈ schema.name) (qualifies : schema.casePolicy.agree relation first)
      (named : schema.Named (Text.dotted (next :: rest)) field) :
      Hits schema (first :: next :: rest) field

/-- No column is called like this segment, and more than one has a dotted name that ends in it. -/
structure Ambiguous (schema : Schema) (segment : String) : Prop where
  unnamed : ∀ other, ¬ schema.Named segment other
  several : 1 < (schema.candidates segment).length

/-- The beginnings of a name that are not given up for a shorter one. -/
def Settles (schema : Schema) (front : List String) : Prop :=
  (∃ field, schema.Hits front field) ∨ ∃ segment, front = [segment] ∧ schema.Ambiguous segment

/-- A name is cut where no longer beginning settles anything. -/
structure Longest (schema : Schema) (name : String) (front rest : List String) : Prop where
  split : front ++ rest = Text.segments name
  longest : ∀ longer, longer <+: Text.segments name → front.length < longer.length →
    ¬ schema.Settles longer

/-- One step into a `STRUCT`, from which its member of this name is reached. -/
def enter (schema : Schema) (reached : ResolvedColumn) (segment : String) :
    Except Cause ResolvedColumn :=
  match reached.type with
  | .struct members =>
    match schema.casePolicy.find? segment members with
    | some member => .ok
      { path := reached.path ++ "." ++ schema.fold segment, type := member.type }
    | none => .error (.fieldNotFound (schema.fold segment) reached.path)
  | found => .error (.notStruct (schema.fold segment) reached.path found)

/-- What a name leads to. What is behind the longest beginning is entered step by step. -/
inductive Resolves (schema : Schema) (name : String) : Except Cause ResolvedColumn → Prop where
  | column {front rest : List String} {field : Field} (longest : schema.Longest name front rest)
      (hits : schema.Hits front field) :
      Resolves schema name
        (rest.foldlM schema.enter { path := schema.columnPath field, type := field.type })
  | ambiguous {segment : String} {rest : List String}
      (longest : schema.Longest name [segment] rest) (ambiguous : schema.Ambiguous segment) :
      Resolves schema name (.error (.ambiguousField (schema.fold segment) schema.label
        ((schema.candidates segment).map Field.name)))
  | missing (unsettled : ∀ front, front <+: Text.segments name → ¬ schema.Settles front) :
      Resolves schema name (.error (.fieldNotFound (schema.fold name) schema.label))

variable {schema : Schema} {name segment : String} {field other : Field}
  {front rest : List String}

theorem named_iff :
    schema.Named name field ↔ schema.casePolicy.find? name schema.fields = some field :=
  find?_eq_some_iff.symm

theorem unnamed_iff :
    (∀ field, ¬ schema.Named name field) ↔ schema.casePolicy.find? name schema.fields = none := by
  simp only [named_iff, Option.eq_none_iff_forall_ne_some, ne_eq]

theorem Named.unique (named : schema.Named name field) (again : schema.Named name other) :
    field = other :=
  Option.some.inj ((named_iff.mp named).symm.trans (named_iff.mp again))

theorem endingIn_eq_candidates : schema.endingIn segment = schema.candidates segment := by
  unfold endingIn candidates
  apply List.filter_congr
  intro field _
  rw [Bool.eq_iff_iff, decide_eq_true_iff]
  exact Field.endsIn_iff

theorem enter_eq (schema : Schema) (reached : ResolvedColumn) (segment : String) :
    schema.enter reached segment =
      (fun type => { path := reached.path ++ "." ++ schema.fold segment, type }) <$>
        schema.member reached.type segment reached.path := by
  obtain ⟨path, type⟩ := reached
  cases type with
  | struct members =>
    simp only [enter, member, SqlType.fields?]
    cases schema.casePolicy.find? segment members <;> rfl
  | _ => rfl

theorem follow_eq_foldlM (schema : Schema) (path : String) (type : SqlType)
    (segments : List String) :
    schema.follow path type segments = segments.foldlM schema.enter { path, type } := by
  induction segments generalizing path type with
  | nil => rfl
  | cons segment rest ih =>
    rw [follow, List.foldlM_cons, enter_eq]
    cases schema.member type segment path with
    | error cause => rfl
    | ok inner => exact ih _ inner

/-- The path grows by the folded segments, whatever their types are. -/
theorem path_of_foldlM_enter {start found : ResolvedColumn} {segments : List String}
    (walked : segments.foldlM schema.enter start = .ok found) :
    found.path = Text.dotted (start.path :: segments.map schema.fold) := by
  induction segments generalizing start with
  | nil =>
    cases walked
    exact (Text.dotted_single _).symm
  | cons segment rest ih =>
    rw [List.foldlM_cons, enter_eq] at walked
    obtain ⟨next, entered, later⟩ := bind_eq_ok_iff.mp walked
    obtain ⟨type, _, rfl⟩ := map_eq_ok_iff.mp entered
    rw [ih later, List.map_cons, Text.dotted_cons_cons]

theorem Hits.mem (hits : schema.Hits front field) : field ∈ schema.fields := by
  cases hits with
  | whole named | qualified _ _ _ named => exact named.1
  | ending _ only =>
    have listed : field ∈ schema.candidates _ := only ▸ List.mem_cons_self
    exact (List.mem_filter.mp listed).1

/-- A beginning of a name stands for one column at most. -/
theorem Hits.unique (hits : schema.Hits front field) (again : schema.Hits front other) :
    field = other := by
  cases hits with
  | whole named =>
    cases again with
    | whole same => exact named.unique same
    | ending unnamed only =>
      rw [Text.dotted_single] at named
      exact absurd named (unnamed field)
    | qualified unnamed => exact absurd named (unnamed field)
  | ending unnamed only =>
    cases again with
    | whole named =>
      rw [Text.dotted_single] at named
      exact absurd named (unnamed other)
    | ending _ same => exact List.head_eq_of_cons_eq (only.symm.trans same)
  | qualified unnamed _ _ named =>
    cases again with
    | whole whole => exact absurd whole (unnamed other)
    | qualified _ _ _ same => exact named.unique same

theorem Ambiguous.not_hits (ambiguous : schema.Ambiguous segment) :
    ¬ schema.Hits [segment] field := by
  intro hits
  cases hits with
  | whole named =>
    rw [Text.dotted_single] at named
    exact ambiguous.unnamed field named
  | ending _ only =>
    have several := ambiguous.several
    rw [only] at several
    exact absurd several (Nat.lt_irrefl 1)

theorem Settles.ne_nil (settles : schema.Settles front) : front ≠ [] := by
  rcases settles with ⟨field, hits⟩ | ⟨segment, rfl, _⟩
  · cases hits <;> exact List.cons_ne_nil _ _
  · exact List.cons_ne_nil _ _

/-- Two beginnings of one name are the same or differ in length. -/
theorem Longest.unique {others behind : List String} (longest : schema.Longest name front rest)
    (again : schema.Longest name others behind) (settles : schema.Settles front)
    (settled : schema.Settles others) : front = others ∧ rest = behind := by
  have one : front <+: Text.segments name := ⟨rest, longest.split⟩
  have two : others <+: Text.segments name := ⟨behind, again.split⟩
  have same : front = others := by
    rcases Nat.lt_trichotomy front.length others.length with shorter | equal | longer
    · exact absurd settled (longest.longest others two shorter)
    · exact (List.prefix_of_prefix_length_le one two (Nat.le_of_eq equal)).eq_of_length equal
    · exact absurd settles (again.longest front one longer)
  subst same
  exact ⟨rfl, List.append_cancel_left (longest.split.trans again.split.symm)⟩

theorem Resolves.unique {first second : Except Cause ResolvedColumn}
    (resolves : schema.Resolves name first) (again : schema.Resolves name second) :
    first = second := by
  cases resolves with
  | column longest hits =>
    have settles : schema.Settles _ := .inl ⟨_, hits⟩
    cases again with
    | column other same =>
      obtain ⟨rfl, rfl⟩ := longest.unique other settles (.inl ⟨_, same⟩)
      rw [hits.unique same]
    | ambiguous other ambiguous =>
      obtain ⟨rfl, rfl⟩ := longest.unique other settles (.inr ⟨_, rfl, ambiguous⟩)
      exact absurd hits ambiguous.not_hits
    | missing unsettled => exact absurd settles (unsettled _ ⟨_, longest.split⟩)
  | ambiguous longest ambiguous =>
    have settles : schema.Settles _ := .inr ⟨_, rfl, ambiguous⟩
    cases again with
    | column other hits =>
      obtain ⟨rfl, rfl⟩ := longest.unique other settles (.inl ⟨_, hits⟩)
      exact absurd hits ambiguous.not_hits
    | ambiguous other same =>
      obtain ⟨front, rfl⟩ := longest.unique other settles (.inr ⟨_, rfl, same⟩)
      cases front
      rfl
    | missing unsettled => exact absurd settles (unsettled _ ⟨_, longest.split⟩)
  | missing unsettled =>
    cases again with
    | column other hits => exact absurd (.inl ⟨_, hits⟩) (unsettled _ ⟨_, other.split⟩)
    | ambiguous other ambiguous =>
      exact absurd (.inr ⟨_, rfl, ambiguous⟩) (unsettled _ ⟨_, other.split⟩)
    | missing => rfl

theorem Resolves.column_of_ok {result : Except Cause ResolvedColumn} {found : ResolvedColumn}
    (resolves : schema.Resolves name result) (ok : result = .ok found) :
    ∃ front rest field, schema.Longest name front rest ∧ schema.Hits front field ∧
      rest.foldlM schema.enter { path := schema.columnPath field, type := field.type } =
        .ok found := by
  cases resolves with
  | column longest hits => exact ⟨_, _, _, longest, hits, ok⟩
  | ambiguous => cases ok
  | missing => cases ok

section Search

variable (parts : Text.segments (Text.dotted front) = front)

include parts

theorem column?_of_hits (hits : schema.Hits front field) :
    schema.column? (Text.dotted front) = .ok (some field) := by
  cases hits with
  | whole named => exact column?_of_whole (named_iff.mp named)
  | ending unnamed only =>
    rw [Text.dotted_single] at parts ⊢
    rw [column?_of_single (unnamed_iff.mp unnamed) parts, endingIn_eq_candidates, only]
  | qualified unnamed listed qualifies named =>
    have relation : schema.name.any (schema.casePolicy.agree · _) :=
      (Option.any_eq_true _ _).mpr ⟨_, listed, qualifies⟩
    rw [column?_of_qualified (unnamed_iff.mp unnamed) parts, if_pos relation, named_iff.mp named]

private theorem settles_of_column? (something : schema.column? (Text.dotted front) ≠ .ok none) :
    schema.Settles front := by
  cases whole : schema.casePolicy.find? (Text.dotted front) schema.fields with
  | some field =>
    obtain ⟨first, rest, rfl⟩ : ∃ first rest, front = first :: rest :=
      List.exists_cons_of_ne_nil (parts ▸ Text.segments_ne_nil _)
    exact .inl ⟨field, .whole (named_iff.mpr whole)⟩
  | none =>
    have unnamed := unnamed_iff.mpr whole
    rcases front with _ | ⟨first, _ | ⟨next, rest⟩⟩
    · exact absurd parts (Text.segments_ne_nil _)
    · rw [Text.dotted_single] at whole parts unnamed something
      rw [column?_of_single whole parts, endingIn_eq_candidates] at something
      rcases ending : schema.candidates first with _ | ⟨field, _ | ⟨second, others⟩⟩
      · rw [ending] at something
        exact absurd rfl something
      · exact .inl ⟨field, .ending unnamed ending⟩
      · exact .inr ⟨first, rfl, unnamed, by simp [ending]⟩
    · rw [column?_of_qualified whole parts] at something
      split at something
      next qualifies =>
        obtain ⟨relation, listed, agrees⟩ := (Option.any_eq_true _ _).mp qualifies
        obtain ⟨field, behind⟩ := Option.ne_none_iff_exists'.mp fun none =>
          something (congrArg Except.ok none)
        exact .inl ⟨field, .qualified unnamed listed agrees (named_iff.mpr behind)⟩
      next => exact absurd rfl something

omit parts in
theorem column?_of_ambiguous (single : Text.segments segment = [segment])
    (ambiguous : schema.Ambiguous segment) :
    schema.column? segment = .error (.ambiguousField (schema.fold segment) schema.label
      ((schema.candidates segment).map Field.name)) := by
  have several := ambiguous.several
  rw [column?_of_single (unnamed_iff.mp ambiguous.unnamed) single, endingIn_eq_candidates]
  split
  next none => simp [none] at several
  next one => simp [one] at several
  next => rfl

/-- The search goes on behind the beginnings that settle nothing. -/
theorem column?_eq_none_iff :
    schema.column? (Text.dotted front) = .ok none ↔ ¬ schema.Settles front := by
  constructor
  · rintro nothing (⟨field, hits⟩ | ⟨segment, rfl, ambiguous⟩)
    · cases nothing.symm.trans (column?_of_hits parts hits)
    · rw [Text.dotted_single] at parts nothing
      cases nothing.symm.trans (column?_of_ambiguous parts ambiguous)
  · intro unsettled
    exact Classical.byContradiction fun something => unsettled (settles_of_column? parts something)

end Search

/-- The induction is on the cuts that are still to be tried. Those passed are all the longer ones,
and they settle nothing. -/
private theorem resolves_firstColumn {passed cuts : List (List String × List String)}
    (split : passed ++ cuts = Text.fronts (Text.segments name))
    (unsettled : ∀ cut ∈ passed, ¬ schema.Settles cut.1) :
    schema.Resolves name (schema.firstColumn name cuts) := by
  induction cuts generalizing passed with
  | nil =>
    rw [List.append_nil] at split
    refine .missing fun front begins settles => ?_
    obtain ⟨rest, whole⟩ := begins
    have member : (front, rest) ∈ passed := by
      rw [split, Text.mem_fronts_iff]
      exact ⟨settles.ne_nil, whole⟩
    exact unsettled _ member settles
  | cons cut shorter ih =>
    obtain ⟨front, rest⟩ := cut
    have member : (front, rest) ∈ Text.fronts (Text.segments name) := by
      rw [← split]
      exact List.mem_append_right _ List.mem_cons_self
    obtain ⟨some, whole⟩ := Text.mem_fronts_iff.mp member
    have parts : Text.segments (Text.dotted front) = front := by
      apply Text.segments_dotted_of_subset some
      rw [← whole]
      exact List.subset_append_left front rest
    have longest : schema.Longest name front rest := by
      refine ⟨whole, fun longer begins more => ?_⟩
      obtain ⟨behind, whole⟩ := begins
      have nonempty := List.ne_nil_of_length_pos (Nat.zero_lt_of_lt more)
      have listed := Text.mem_fronts_iff.mpr ⟨nonempty, whole⟩
      exact unsettled _ (Text.mem_of_longer split listed more)
    by_cases settles : schema.Settles front
    · rcases settles with ⟨field, hits⟩ | ⟨segment, rfl, ambiguous⟩
      · simp only [firstColumn, column?_of_hits parts hits, ok_bind, follow_eq_foldlM]
        exact .column longest hits
      · rw [Text.dotted_single] at parts
        rw [firstColumn, Text.dotted_single, column?_of_ambiguous parts ambiguous, error_bind]
        exact .ambiguous longest ambiguous
    · simp only [firstColumn, (column?_eq_none_iff parts).mpr settles, ok_bind]
      have onward : passed ++ [(front, rest)] ++ shorter = Text.fronts (Text.segments name) := by
        rw [← split, List.append_assoc, List.singleton_append]
      refine ih onward fun cut member => ?_
      rcases List.mem_append.mp member with before | here
      · exact unsettled cut before
      · rw [List.mem_singleton.mp here]
        exact settles

theorem resolves_resolveColumn (schema : Schema) (name : String) :
    schema.Resolves name (schema.resolveColumn name) :=
  resolves_firstColumn (List.nil_append _) (by simp)

theorem Resolves.eq {result : Except Cause ResolvedColumn}
    (resolves : schema.Resolves name result) : schema.resolveColumn name = result :=
  (resolves_resolveColumn schema name).unique resolves

/-- Looking a column up follows the rules: it gives what the longest beginning that settles
anything leads to. -/
theorem resolveColumn_eq_iff (schema : Schema) (name : String)
    (result : Except Cause ResolvedColumn) :
    schema.resolveColumn name = result ↔ schema.Resolves name result := by
  constructor
  · rintro rfl
    exact resolves_resolveColumn schema name
  · exact Resolves.eq

/-- A column is called like the relation, and one of its members like another column. -/
def ordersInOrders : Schema where
  name := some "ORDERS"
  fields := [
    { name := "ORDERS",
      type := .struct [{ name := "UNITS", type := .int32 }, { name := "CODE", type := .string }] },
    { name := "UNITS", type := .float64 }]
  casePolicy := .insensitive
  folded := by decide
  accepted := rfl

/-- Both segments together stand for a column, so that the first is not tried alone. -/
example : ordersInOrders.resolveColumn "orders.units" = .ok ⟨"ORDERS.UNITS", .float64⟩ :=
  rfl

end Schema

end QueryTyping
