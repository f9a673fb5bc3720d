/-! The types of SQL values: five scalars and three composites. A `STRUCT` holds named fields in a
fixed order, and a field says whether it may be null. The written form of a type leaves the null
flags out. -/

namespace QueryTyping

mutual

inductive SqlType where
  | int32
  | int64
  | float64
  | string
  | boolean
  | array (items : SqlType)
  | map (key value : SqlType)
  | struct (fields : List Field)

/-- A named column of a row or member of a `STRUCT`. Columns may be null unless stated. -/
structure Field where
  name : String
  type : SqlType
  nullable : Bool := true

end

mutual

/-- Structural equality, the null flags included. -/
def SqlType.same : SqlType → SqlType → Bool
  | .int32, .int32 => true
  | .int64, .int64 => true
  | .float64, .float64 => true
  | .string, .string => true
  | .boolean, .boolean => true
  | .array left, .array right => left.same right
  | .map key value, .map other content => key.same other && value.same content
  | .struct left, .struct right => Field.sameAll left right
  | _, _ => false

def Field.sameAll : List Field → List Field → Bool
  | [], [] => true
  | ⟨name, type, nullable⟩ :: rest, ⟨other, shape, optional⟩ :: others =>
    name == other && type.same shape && nullable == optional && Field.sameAll rest others
  | _, _ => false

end

mutual

theorem SqlType.eq_of_same : (left right : SqlType) → left.same right → left = right
  | .array left, .array right, equal =>
    congrArg SqlType.array (SqlType.eq_of_same left right (by simpa [SqlType.same] using equal))
  | .map key value, .map other content, equal => by
    simp only [SqlType.same, Bool.and_eq_true] at equal
    rw [SqlType.eq_of_same key other equal.1, SqlType.eq_of_same value content equal.2]
  | .struct left, .struct right, equal =>
    congrArg SqlType.struct (Field.eq_of_sameAll left right (by simpa [SqlType.same] using equal))
  | .int32, .int32, _ | .int64, .int64, _ | .float64, .float64, _ | .string, .string, _
  | .boolean, .boolean, _ => rfl

theorem Field.eq_of_sameAll :
    (left right : List Field) → Field.sameAll left right → left = right
  | [], [], _ => rfl
  | ⟨name, type, nullable⟩ :: rest, ⟨other, shape, optional⟩ :: others, equal => by
    simp only [Field.sameAll, Bool.and_eq_true, beq_iff_eq] at equal
    rw [equal.1.1.1, SqlType.eq_of_same type shape equal.1.1.2, equal.1.2,
      Field.eq_of_sameAll rest others equal.2]

end

mutual

theorem SqlType.same_self : (type : SqlType) → type.same type
  | .array items => by simpa [SqlType.same] using SqlType.same_self items
  | .map key value => by simp [SqlType.same, SqlType.same_self key, SqlType.same_self value]
  | .struct fields => by simpa [SqlType.same] using Field.sameAll_self fields
  | .int32 | .int64 | .float64 | .string | .boolean => rfl

theorem Field.sameAll_self : (fields : List Field) → Field.sameAll fields fields
  | [] => rfl
  | ⟨name, type, nullable⟩ :: rest => by
    simp [Field.sameAll, SqlType.same_self type, Field.sameAll_self rest]

end

namespace SqlType

theorem same_iff {left right : SqlType} : left.same right ↔ left = right :=
  ⟨eq_of_same left right, fun equal => equal ▸ same_self left⟩

instance : DecidableEq SqlType := fun _ _ => decidable_of_iff _ same_iff

instance : DecidableEq Field := fun left right =>
  decidable_of_iff
    (left.name = right.name ∧ left.type = right.type ∧ left.nullable = right.nullable)
    (by cases left; cases right; simp)

def isNumeric : SqlType → Bool
  | int32 | int64 | float64 => true
  | _ => false

def isIntegral : SqlType → Bool
  | int32 | int64 => true
  | _ => false

def isString : SqlType → Bool
  | string => true
  | _ => false

def isBoolean : SqlType → Bool
  | boolean => true
  | _ => false

def fields? : SqlType → Option (List Field)
  | struct fields => some fields
  | _ => none

/-- What a subscript selects: the items of an `ARRAY`, the values of a `MAP`. -/
def element? : SqlType → Option SqlType
  | array items => some items
  | map _ value => some value
  | _ => none

def kindName : SqlType → String
  | int32 => "INT32"
  | int64 => "INT64"
  | float64 => "FLOAT64"
  | string => "STRING"
  | boolean => "BOOLEAN"
  | array _ => "ARRAY"
  | map _ _ => "MAP"
  | struct _ => "STRUCT"

end SqlType

mutual

def SqlType.text : SqlType → String
  | .array items => "ARRAY<" ++ items.text ++ ">"
  | .map key value => "MAP<" ++ key.text ++ ", " ++ value.text ++ ">"
  | .struct fields => "STRUCT<" ++ ", ".intercalate (Field.texts fields) ++ ">"
  | type => type.kindName

def Field.texts : List Field → List String
  | [] => []
  | ⟨name, type, _⟩ :: rest => (name ++ " " ++ type.text) :: Field.texts rest

end

instance : ToString SqlType := ⟨SqlType.text⟩

mutual

/-- Changes the name of every field at every level, below arrays and maps too. -/
def SqlType.rename (change : String → String) : SqlType → SqlType
  | .array items => .array (items.rename change)
  | .map key value => .map (key.rename change) (value.rename change)
  | .struct fields => .struct (Field.renameAll change fields)
  | type => type

def Field.renameAll (change : String → String) : List Field → List Field
  | [] => []
  | ⟨name, type, nullable⟩ :: rest =>
    ⟨change name, type.rename change, nullable⟩ :: Field.renameAll change rest

end

mutual

/-- Renaming by a rule that is stable under itself can be done once or twice. -/
theorem SqlType.rename_rename {change : String → String}
    (stable : ∀ name, change (change name) = change name) :
    (type : SqlType) → (type.rename change).rename change = type.rename change
  | .array items => by simp [SqlType.rename, SqlType.rename_rename stable items]
  | .map key value => by
    simp [SqlType.rename, SqlType.rename_rename stable key, SqlType.rename_rename stable value]
  | .struct fields => by simp [SqlType.rename, Field.renameAll_renameAll stable fields]
  | .int32 | .int64 | .float64 | .string | .boolean => rfl

theorem Field.renameAll_renameAll {change : String → String}
    (stable : ∀ name, change (change name) = change name) : (fields : List Field) →
    Field.renameAll change (Field.renameAll change fields) = Field.renameAll change fields
  | [] => rfl
  | ⟨name, type, nullable⟩ :: rest => by
    simp [Field.renameAll, stable, SqlType.rename_rename stable type,
      Field.renameAll_renameAll stable rest]

end

end QueryTyping
