/-! Dotted names such as `ORDERS.ADDRESS.STATE`. A name is its segments with a point between each
two; a name without a point is a single segment, also when it is empty. -/

namespace QueryTyping.Text

/-- Cuts at every point, so there is always at least one segment. -/
def segments (name : String) : List String :=
  (name.toList.splitOn '.').map String.ofList

def dotted (segments : List String) : String :=
  ".".intercalate segments

def hasDot (name : String) : Bool :=
  name.toList.contains '.'

/-- The segment behind the last point, if the name has one. -/
def lastSegment? (name : String) : Option String :=
  match segments name with
  | _ :: next :: rest => (next :: rest).getLast?
  | _ => none

/-- Every way to cut a list into a front that is not empty and the rest, the longest front first. -/
def fronts : List α → List (List α × List α)
  | [] => []
  | first :: rest =>
    (fronts rest).map (fun (front, behind) => (first :: front, behind)) ++ [([first], rest)]

theorem append_of_mem_fronts {items : List α} {cut : List α × List α}
    (member : cut ∈ fronts items) : cut.1 ≠ [] ∧ cut.1 ++ cut.2 = items := by
  induction items generalizing cut with
  | nil => cases member
  | cons first rest ih =>
    rcases List.mem_append.mp member with longer | last
    · obtain ⟨shorter, inside, rfl⟩ := List.mem_map.mp longer
      exact ⟨List.cons_ne_nil _ _, congrArg (first :: ·) (ih inside).2⟩
    · obtain rfl := List.mem_singleton.mp last
      exact ⟨List.cons_ne_nil _ _, rfl⟩

theorem mem_fronts_iff {items front rest : List α} :
    (front, rest) ∈ fronts items ↔ front ≠ [] ∧ front ++ rest = items := by
  refine ⟨append_of_mem_fronts, ?_⟩
  intro whole
  obtain ⟨some, rfl⟩ := whole
  induction front with
  | nil => exact absurd rfl some
  | cons first others ih =>
    rw [List.cons_append, fronts, List.mem_append]
    cases others with
    | nil => exact .inr List.mem_cons_self
    | cons next later =>
      exact .inl (List.mem_map.mpr ⟨_, ih (List.cons_ne_nil _ _), rfl⟩)

/-- The whole list is the first front. -/
theorem fronts_eq_cons {items : List α} (some : items ≠ []) :
    ∃ shorter, fronts items = (items, []) :: shorter := by
  induction items with
  | nil => exact absurd rfl some
  | cons first rest ih =>
    cases rest with
    | nil => exact ⟨[], rfl⟩
    | cons next later =>
      obtain ⟨shorter, whole⟩ := ih (List.cons_ne_nil _ _)
      rw [fronts, whole]
      exact ⟨_, rfl⟩

theorem fronts_sorted (items : List α) :
    (fronts items).Pairwise fun cut other => other.1.length < cut.1.length := by
  induction items with
  | nil => exact .nil
  | cons first rest ih =>
    rw [fronts, List.pairwise_append, List.pairwise_map]
    refine ⟨ih.imp fun shorter => Nat.succ_lt_succ shorter, List.pairwise_singleton _ _, ?_⟩
    intro cut longer last single
    obtain ⟨inner, member, rfl⟩ := List.mem_map.mp longer
    obtain rfl := List.mem_singleton.mp single
    exact Nat.succ_lt_succ (List.length_pos_iff.mpr (append_of_mem_fronts member).1)

/-- A front that is longer than another one stands before it. -/
theorem mem_of_longer {items : List α} {passed shorter : List (List α × List α)}
    {cut other : List α × List α} (split : passed ++ cut :: shorter = fronts items)
    (listed : other ∈ fronts items) (longer : cut.1.length < other.1.length) : other ∈ passed := by
  have sorted := fronts_sorted items
  rw [← split] at listed sorted
  rcases List.mem_append.mp listed with before | after
  · exact before
  rcases List.mem_cons.mp after with rfl | behind
  · exact absurd longer (Nat.lt_irrefl _)
  · have below := (List.pairwise_cons.mp (List.pairwise_append.mp sorted).2.1).1 other behind
    exact absurd longer (Nat.lt_asymm below)

theorem segments_ne_nil (name : String) : segments name ≠ [] := by
  simp [segments, List.splitOn_ne_nil]

theorem dotted_segments (name : String) : dotted (segments name) = name := by
  apply String.toList_inj.mp
  simp [dotted, segments, Function.comp_def, List.intercalate_splitOn]

private theorem point_notMem_of_mem_splitOn {characters piece : List Char}
    (member : piece ∈ characters.splitOn '.') : '.' ∉ piece := by
  induction characters generalizing piece with
  | nil =>
    obtain rfl : piece = [] := by simpa using member
    exact List.not_mem_nil
  | cons c rest ih =>
    rw [List.splitOn_cons_eq_if_modifyHead] at member
    split at member
    · rcases List.mem_cons.mp member with rfl | later
      · exact List.not_mem_nil
      · exact ih later
    · next other =>
      -- The first piece gets one more character, and the others stay as they are.
      cases pieces : rest.splitOn '.' with
      | nil => exact absurd pieces (List.splitOn_ne_nil _ _)
      | cons first behind =>
        rw [pieces] at member ih
        rcases List.mem_cons.mp member with rfl | later
        · rw [List.mem_cons, not_or]
          exact ⟨fun point => other (beq_iff_eq.mpr point.symm), ih List.mem_cons_self⟩
        · exact ih (List.mem_cons_of_mem _ later)

theorem hasDot_of_mem_segments {name part : String} (member : part ∈ segments name) :
    hasDot part = false := by
  obtain ⟨piece, inside, rfl⟩ := List.mem_map.mp member
  simpa [hasDot] using point_notMem_of_mem_splitOn inside

/-- Joining and cutting gives the segments back, when there are any and no point is inside one. -/
theorem segments_dotted {parts : List String} (some : parts ≠ [])
    (plain : ∀ part ∈ parts, hasDot part = false) : segments (dotted parts) = parts := by
  have inside : ∀ piece ∈ parts.map String.toList, '.' ∉ piece := by
    simpa [hasDot] using plain
  simp [dotted, segments, List.splitOn_intercalate '.' inside (by simpa using some),
    Function.comp_def]

/-- Segments of one name can be joined to another name and are its segments then. -/
theorem segments_dotted_of_subset {name : String} {parts : List String} (some : parts ≠ [])
    (taken : parts ⊆ segments name) : segments (dotted parts) = parts :=
  segments_dotted some fun _ member => hasDot_of_mem_segments (taken member)

@[simp] theorem dotted_single (part : String) : dotted [part] = part := by
  simp [dotted]

theorem dotted_cons_cons (first next : String) (rest : List String) :
    dotted (first :: next :: rest) = dotted ((first ++ "." ++ next) :: rest) := by
  unfold dotted
  cases rest with
  | nil =>
    rw [String.intercalate_cons_cons, String.intercalate_singleton, String.intercalate_singleton]
  | cons third others =>
    rw [String.intercalate_cons_cons, String.intercalate_cons_cons, String.intercalate_cons_cons]
    simp only [String.append_assoc]

theorem hasDot_dotted (first next : String) (rest : List String) :
    hasDot (dotted (first :: next :: rest)) := by
  simp [hasDot, dotted, String.intercalate_cons_cons]

theorem dotted_concat (first : String) (parts : List String) (part : String) :
    dotted (first :: parts ++ [part]) = dotted (first :: parts) ++ "." ++ part := by
  unfold dotted
  induction parts generalizing first with
  | nil => simp
  | cons next rest ih =>
    have behind := ih next
    simp only [List.cons_append] at behind ⊢
    rw [String.intercalate_cons_cons, behind, String.intercalate_cons_cons]
    simp only [String.append_assoc]

/-- Joining what is joined already gives the same name as joining everything at once. -/
theorem dotted_append (first : String) (rest others : List String) :
    dotted (dotted (first :: rest) :: others) = dotted (first :: rest ++ others) := by
  induction rest generalizing first with
  | nil => rw [dotted_single, List.singleton_append]
  | cons next rest ih =>
    rw [dotted_cons_cons, ih, List.cons_append, List.cons_append, List.cons_append,
      dotted_cons_cons]

/-- Parts without a point that are put behind a name become its last segments. -/
theorem segments_dotted_cons (name : String) {parts : List String}
    (plain : ∀ part ∈ parts, hasDot part = false) :
    segments (dotted (name :: parts)) = segments name ++ parts := by
  obtain ⟨first, rest, split⟩ := List.exists_cons_of_ne_nil (segments_ne_nil name)
  have whole : dotted (name :: parts) = dotted (segments name ++ parts) := by
    rw [split, ← dotted_append, ← split, dotted_segments]
  rw [whole]
  apply segments_dotted (List.append_ne_nil_of_left_ne_nil (segments_ne_nil name) parts)
  intro part member
  rcases List.mem_append.mp member with inside | behind
  · exact hasDot_of_mem_segments inside
  · exact plain part behind

/-- A point between two names is one of the points at which both together are cut. -/
theorem segments_append_point (first second : String) :
    segments (first ++ "." ++ second) = segments first ++ segments second := by
  obtain ⟨next, rest, split⟩ := List.exists_cons_of_ne_nil (segments_ne_nil second)
  have joined : dotted (first :: segments second) = first ++ "." ++ second := by
    rw [split, dotted, String.intercalate_cons_cons, ← dotted, ← split, dotted_segments,
      String.append_assoc]
  rw [← joined]
  exact segments_dotted_cons first fun _ => hasDot_of_mem_segments

theorem segments_of_undotted {name : String} (undotted : hasDot name = false) :
    segments name = [name] := by
  have plain : ∀ part ∈ [name], hasDot part = false := by simpa using undotted
  simpa using segments_dotted (List.cons_ne_nil name []) plain

theorem lastSegment?_eq_some_iff {name last : String} :
    lastSegment? name = some last ↔
      ∃ front, front ≠ [] ∧ segments name = front ++ [last] := by
  rw [lastSegment?]
  rcases parts : segments name with _ | ⟨first, _ | ⟨next, rest⟩⟩
  · exact absurd parts (segments_ne_nil name)
  · refine ⟨nofun, ?_⟩
    intro dotted
    obtain ⟨front, some, split⟩ := dotted
    rcases List.append_eq_singleton_iff.mp split.symm with ⟨none, _⟩ | ⟨_, impossible⟩
    · exact absurd none some
    · cases impossible
  · simp only [List.getLast?_eq_some_iff]
    constructor
    · intro ends
      obtain ⟨front, split⟩ := ends
      exact ⟨first :: front, List.cons_ne_nil _ _, by rw [split, List.cons_append]⟩
    · intro ends
      obtain ⟨front, some, split⟩ := ends
      cases front with
      | nil => exact absurd rfl some
      | cons head front => exact ⟨front, (List.cons.inj split).2⟩

theorem eq_of_segments_single {name segment : String} (single : segments name = [segment]) :
    segment = name := by
  rw [← dotted_segments name, single, dotted_single]

end QueryTyping.Text
