import QueryTyping.SqlType
import Mathlib.Data.List.Basic

/-! The written form of a type can be read back. As long as field names have neither a space nor a
`>` in them, it shows where it ends, whatever comes behind it, and all of the type but its null
flags. -/

namespace QueryTyping

mutual

/-- Makes every field at every level nullable, so types are equal after it if they only differed in
their null flags. -/
def SqlType.relaxed : SqlType → SqlType
  | .array items => .array items.relaxed
  | .map key value => .map key.relaxed value.relaxed
  | .struct fields => .struct (Field.relaxAll fields)
  | type => type

def Field.relaxAll : List Field → List Field
  | [] => []
  | ⟨name, type, _⟩ :: rest => ⟨name, type.relaxed, true⟩ :: Field.relaxAll rest

end

mutual

/-- The names of the fields at every level. -/
def SqlType.fieldNames : SqlType → List String
  | .array items => items.fieldNames
  | .map key value => key.fieldNames ++ value.fieldNames
  | .struct fields => Field.allNames fields
  | _ => []

def Field.allNames : List Field → List String
  | [] => []
  | ⟨name, type, _⟩ :: rest => name :: (type.fieldNames ++ Field.allNames rest)

end

/-- Neither a space nor a `>` -/
abbrev Text.Bare (name : String) : Prop :=
  ' ' ∉ name.toList ∧ '>' ∉ name.toList

namespace SqlType

def kindNames : List String :=
  ["INT32", "INT64", "FLOAT64", "STRING", "BOOLEAN", "ARRAY", "MAP", "STRUCT"]

theorem kindName_mem (type : SqlType) : type.kindName ∈ kindNames := by
  cases type <;> simp [kindName, kindNames]

/-- No kind has a name that another one starts with. -/
theorem eq_of_isPrefix_kindNames :
    ∀ first ∈ kindNames, ∀ second ∈ kindNames, first.toList <+: second.toList → first = second := by
  decide

theorem kindName_isPrefix (type : SqlType) : type.kindName.toList <+: type.text.toList := by
  cases type with
  | array items => exact ⟨('<' :: items.text.toList) ++ ['>'], by simp [text, kindName]⟩
  | map key value =>
    refine ⟨('<' :: key.text.toList) ++ (',' :: ' ' :: value.text.toList) ++ ['>'], ?_⟩
    simp [text, kindName]
  | struct fields =>
    exact ⟨('<' :: (", ".intercalate (Field.texts fields)).toList) ++ ['>'],
      by simp [text, kindName]⟩
  | _ => exact List.prefix_rfl

/-- Types of different kinds differ in their written forms before the first of these ends. -/
theorem kindName_of_text {left right : SqlType} {x y : List Char}
    (equal : left.text.toList ++ x = right.text.toList ++ y) : left.kindName = right.kindName := by
  have first : left.kindName.toList <+: right.text.toList ++ y :=
    equal ▸ left.kindName_isPrefix.trans (List.prefix_append _ _)
  have second : right.kindName.toList <+: right.text.toList ++ y :=
    right.kindName_isPrefix.trans (List.prefix_append _ _)
  rcases List.prefix_or_prefix_of_prefix first second with shorter | shorter
  · exact eq_of_isPrefix_kindNames _ left.kindName_mem _ right.kindName_mem shorter
  · exact (eq_of_isPrefix_kindNames _ right.kindName_mem _ left.kindName_mem shorter).symm

end SqlType

namespace Text

/-- A word without a space ends at the first space. -/
theorem word_append_inj {word other rest more : List Char} (one : ' ' ∉ word) (two : ' ' ∉ other)
    (equal : word ++ ' ' :: rest = other ++ ' ' :: more) : word = other ∧ rest = more := by
  induction word generalizing other with
  | nil =>
    cases other with
    | nil => exact ⟨rfl, (List.cons.inj equal).2⟩
    | cons head tail => exact absurd ((List.cons.inj equal).1 ▸ List.mem_cons_self) two
  | cons first others ih =>
    cases other with
    | nil => exact absurd ((List.cons.inj equal).1 ▸ List.mem_cons_self) one
    | cons head tail =>
      obtain ⟨same, behind⟩ := List.cons.inj equal
      obtain ⟨whole, after⟩ := ih (List.not_mem_of_not_mem_cons one)
        (List.not_mem_of_not_mem_cons two) behind
      exact ⟨same ▸ whole ▸ rfl, after⟩

/-- A list with commas as it is written up to the sign that ends it, and what comes behind that. -/
def listed (stop : Char) (texts : List String) (x : List Char) : List Char :=
  (", ".intercalate texts).toList ++ stop :: x

/-- What comes behind an item of such a list that has others behind it. -/
def behind (stop : Char) : List String → List Char → List Char
  | [], x => stop :: x
  | next :: rest, x => ',' :: ' ' :: listed stop (next :: rest) x

theorem listed_cons (stop : Char) (first : String) (rest : List String) (x : List Char) :
    listed stop (first :: rest) x = first.toList ++ behind stop rest x := by
  cases rest with
  | nil => rw [listed, behind, String.intercalate_singleton]
  | cons next others => simp [listed, behind, String.intercalate_cons_cons]

theorem listed_of_behind {stop : Char} (ends : stop ≠ ',') {left right : List String}
    {x y : List Char} (equal : behind stop left x = behind stop right y) :
    listed stop left x = listed stop right y := by
  cases left with
  | nil =>
    cases right with
    | nil => exact equal
    | cons next rest => exact absurd (List.cons.inj equal).1 ends
  | cons first others =>
    cases right with
    | nil => exact absurd (List.cons.inj equal).1.symm ends
    | cons next rest => exact (List.cons.inj (List.cons.inj equal).2).2

/-- No name without a `>` can be taken for the end of a list of fields. -/
theorem word_append_ne {word rest more : List Char} (closed : '>' ∉ word) :
    word ++ ' ' :: rest ≠ '>' :: more := by
  cases word with
  | nil => exact fun equal => absurd (List.cons.inj equal).1 (by decide)
  | cons first others => exact fun equal => closed ((List.cons.inj equal).1 ▸ List.mem_cons_self)

end Text

theorem Field.texts_cons_listed (name : String) (type : SqlType) (nullable : Bool)
    (rest : List Field) (x : List Char) :
    Text.listed '>' (Field.texts (⟨name, type, nullable⟩ :: rest)) x =
      name.toList ++ ' ' :: (type.text.toList ++ Text.behind '>' (Field.texts rest) x) := by
  simp [Field.texts, Text.listed_cons]

mutual

/-- Two texts that begin with types and are equal begin with the same type, and go on alike. -/
theorem SqlType.text_append_inj : (left right : SqlType) →
    (∀ name ∈ left.fieldNames, Text.Bare name) → (∀ name ∈ right.fieldNames, Text.Bare name) →
    ∀ {x y : List Char}, left.text.toList ++ x = right.text.toList ++ y →
      left.relaxed = right.relaxed ∧ x = y
  | .array items, right, one, two, x, y, equal => by
    -- Both are of one kind, so that the parts of the one stand where those of the other do.
    have kind := SqlType.kindName_of_text equal
    cases right with
    | array other =>
      have inside : items.text.toList ++ '>' :: x = other.text.toList ++ '>' :: y := by
        simpa [SqlType.text] using equal
      obtain ⟨same, after⟩ := SqlType.text_append_inj items other one two inside
      exact ⟨congrArg SqlType.array same, (List.cons.inj after).2⟩
    | _ => simp [SqlType.kindName] at kind
  | .map key value, right, one, two, x, y, equal => by
    have kind := SqlType.kindName_of_text equal
    cases right with
    | map other content =>
      have inside : key.text.toList ++ ',' :: ' ' :: (value.text.toList ++ '>' :: x) =
          other.text.toList ++ ',' :: ' ' :: (content.text.toList ++ '>' :: y) := by
        simpa [SqlType.text] using equal
      rw [SqlType.fieldNames, List.forall_mem_append] at one two
      obtain ⟨keys, later⟩ := SqlType.text_append_inj key other one.1 two.1 inside
      obtain ⟨values, after⟩ := SqlType.text_append_inj value content one.2 two.2
        (List.cons.inj (List.cons.inj later).2).2
      exact ⟨congrArg₂ SqlType.map keys values, (List.cons.inj after).2⟩
    | _ => simp [SqlType.kindName] at kind
  | .struct fields, right, one, two, x, y, equal => by
    have kind := SqlType.kindName_of_text equal
    cases right with
    | struct others =>
      have inside :
          Text.listed '>' (Field.texts fields) x = Text.listed '>' (Field.texts others) y := by
        simpa [SqlType.text, Text.listed] using equal
      obtain ⟨same, after⟩ := Field.texts_listed_inj fields others one two inside
      exact ⟨congrArg SqlType.struct same, after⟩
    | _ => simp [SqlType.kindName] at kind
  | .int32, right, _, _, x, y, equal | .int64, right, _, _, x, y, equal
  | .float64, right, _, _, x, y, equal | .string, right, _, _, x, y, equal
  | .boolean, right, _, _, x, y, equal => by
    have kind := SqlType.kindName_of_text equal
    cases right <;> simp [SqlType.kindName] at kind
    exact ⟨rfl, List.append_cancel_left equal⟩

theorem Field.texts_listed_inj : (left right : List Field) →
    (∀ name ∈ Field.allNames left, Text.Bare name) →
    (∀ name ∈ Field.allNames right, Text.Bare name) →
    ∀ {x y : List Char},
      Text.listed '>' (Field.texts left) x = Text.listed '>' (Field.texts right) y →
      Field.relaxAll left = Field.relaxAll right ∧ x = y
  | [], [], _, _, _, _, equal => ⟨rfl, (List.cons.inj equal).2⟩
  | [], ⟨other, shape, optional⟩ :: others, _, two, x, y, equal => by
    rw [Field.texts_cons_listed] at equal
    exact absurd equal.symm (Text.word_append_ne (two other List.mem_cons_self).2)
  | ⟨name, type, nullable⟩ :: rest, [], one, _, x, y, equal => by
    rw [Field.texts_cons_listed] at equal
    exact absurd equal (Text.word_append_ne (one name List.mem_cons_self).2)
  | ⟨name, type, nullable⟩ :: rest, ⟨other, shape, optional⟩ :: others, one, two, x, y, equal => by
    rw [Field.allNames, List.forall_mem_cons, List.forall_mem_append] at one two
    rw [Field.texts_cons_listed, Field.texts_cons_listed] at equal
    obtain ⟨named, typed⟩ := Text.word_append_inj one.1.1 two.1.1 equal
    obtain ⟨types, later⟩ := SqlType.text_append_inj type shape one.2.1 two.2.1 typed
    obtain ⟨same, after⟩ := Field.texts_listed_inj rest others one.2.2 two.2.2
      (Text.listed_of_behind (by decide) later)
    refine ⟨?_, after⟩
    rw [Field.relaxAll, Field.relaxAll, String.toList_inj.mp named, types, same]

end

mutual

/-- The null flags are not written. -/
theorem SqlType.text_relaxed : (type : SqlType) → type.relaxed.text = type.text
  | .array items => by rw [SqlType.relaxed, SqlType.text, SqlType.text, SqlType.text_relaxed items]
  | .map key value => by
    rw [SqlType.relaxed, SqlType.text, SqlType.text, SqlType.text_relaxed key,
      SqlType.text_relaxed value]
  | .struct fields => by
    rw [SqlType.relaxed, SqlType.text, SqlType.text, Field.texts_relaxAll fields]
  | .int32 | .int64 | .float64 | .string | .boolean => rfl

theorem Field.texts_relaxAll :
    (fields : List Field) → Field.texts (Field.relaxAll fields) = Field.texts fields
  | [] => rfl
  | ⟨name, type, nullable⟩ :: rest => by
    rw [Field.relaxAll, Field.texts, Field.texts, SqlType.text_relaxed type,
      Field.texts_relaxAll rest]

end

/-- Types whose field names have neither a space nor a `>` in them are written alike exactly when
they are equal up to their null flags, and no text behind the one can turn it into the other. -/
theorem SqlType.text_identifies {left right : SqlType}
    (one : ∀ name ∈ left.fieldNames, Text.Bare name)
    (two : ∀ name ∈ right.fieldNames, Text.Bare name) :
    (left.text = right.text ↔ left.relaxed = right.relaxed) ∧
    ∀ x y : String, left.text ++ x = right.text ++ y → left.relaxed = right.relaxed ∧ x = y := by
  have readable (x y : String) (equal : left.text ++ x = right.text ++ y) :
      left.relaxed = right.relaxed ∧ x = y := by
    have spelled : left.text.toList ++ x.toList = right.text.toList ++ y.toList := by
      rw [← String.toList_append, ← String.toList_append, equal]
    obtain ⟨same, after⟩ := SqlType.text_append_inj left right one two spelled
    exact ⟨same, String.toList_inj.mp after⟩
  refine ⟨⟨?_, ?_⟩, readable⟩
  · exact fun equal => (readable "" "" (by rw [equal])).1
  · exact fun same => by rw [← left.text_relaxed, same, right.text_relaxed]

namespace SqlType

/-- `STRUCT<ID INT32, TAGS MAP<STRING, ARRAY<STRUCT<>>>>` with a key that is never null. -/
def parcel : SqlType :=
  .struct [
    { name := "ID", type := .int32, nullable := false },
    { name := "TAGS", type := .map .string (.array (.struct [])) }]

def looseParcel : SqlType :=
  .struct [
    { name := "ID", type := .int32 },
    { name := "TAGS", type := .map .string (.array (.struct [])), nullable := false }]

theorem parcel_text_identifies :
    (∀ name ∈ parcel.fieldNames, Text.Bare name) ∧
    (∀ name ∈ looseParcel.fieldNames, Text.Bare name) ∧
    parcel ≠ looseParcel ∧ parcel.text = looseParcel.text ∧
    parcel.relaxed = looseParcel.relaxed ∧
    ∀ x y : String, parcel.text ++ x = looseParcel.text ++ y → x = y := by
  have one : ∀ name ∈ parcel.fieldNames, Text.Bare name := by decide
  have two : ∀ name ∈ looseParcel.fieldNames, Text.Bare name := by decide
  obtain ⟨alike, readable⟩ := text_identifies one two
  have same : parcel.text = looseParcel.text := alike.mpr rfl
  exact ⟨one, two, by decide, same, alike.mp same, fun x y equal => (readable x y equal).2⟩

/-- A space in a name can make one field look like two. -/
example :
    (struct [{ name := "A INT32, B", type := .int32 }]).text =
      (struct [{ name := "A", type := .int32 }, { name := "B", type := .int32 }]).text := by
  decide

end SqlType

end QueryTyping
