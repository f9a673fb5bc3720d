/-! White space by the Unicode property White_Space. A name made of blanks alone counts as empty,
and blanks around the name of a function are not part of it. -/

namespace QueryTyping.Text

/-- Every character of the property White_Space. Joiners and the byte order mark are not in it. -/
def isBlank (c : Char) : Bool :=
  let code := c.toNat
  (0x09 ≤ code && code ≤ 0x0D) || code == 0x20 || code == 0x85 || code == 0xA0 ||
    code == 0x1680 || (0x2000 ≤ code && code ≤ 0x200A) || code == 0x2028 || code == 0x2029 ||
    code == 0x202F || code == 0x205F || code == 0x3000

/-- The characters between the first and the last one that is no blank. -/
def trimmed (characters : List Char) : List Char :=
  ((characters.dropWhile isBlank).reverse.dropWhile isBlank).reverse

def trim (text : String) : String :=
  String.ofList (trimmed text.toList)

def isBlankText (text : String) : Bool :=
  text.toList.all isBlank

private theorem dropWhile_eq_self {characters : List Char}
    (start : ∀ c ∈ characters.head?, isBlank c = false) :
    characters.dropWhile isBlank = characters := by
  cases characters with
  | nil => rfl
  | cons c rest => exact List.dropWhile_cons_of_neg (by simp [start c rfl])

private theorem head_dropWhile (characters : List Char) :
    ∀ c ∈ (characters.dropWhile isBlank).head?, isBlank c = false := by
  intro c first
  have unblank := List.head?_dropWhile_not isBlank characters
  simpa [Option.mem_def.mp first] using unblank

theorem head_trimmed (characters : List Char) :
    ∀ c ∈ (trimmed characters).head?, isBlank c = false := by
  intro c first
  apply head_dropWhile characters
  obtain ⟨behind, whole⟩ : trimmed characters <+: characters.dropWhile isBlank := by
    rw [← List.reverse_suffix]
    simpa [trimmed] using List.dropWhile_suffix isBlank
  rw [← whole, List.head?_append, Option.mem_def.mp first]
  rfl

theorem getLast_trimmed (characters : List Char) :
    ∀ c ∈ (trimmed characters).getLast?, isBlank c = false := by
  intro c last
  apply head_dropWhile (characters.dropWhile isBlank).reverse
  simpa [trimmed] using last

theorem trimmed_trimmed (characters : List Char) :
    trimmed (trimmed characters) = trimmed characters := by
  have front : (trimmed characters).dropWhile isBlank = trimmed characters :=
    dropWhile_eq_self (head_trimmed characters)
  have back : (trimmed characters).reverse.dropWhile isBlank = (trimmed characters).reverse := by
    apply dropWhile_eq_self
    intro c last
    exact getLast_trimmed characters c (by simpa using last)
  rw [trimmed, front, back, List.reverse_reverse]

end QueryTyping.Text
