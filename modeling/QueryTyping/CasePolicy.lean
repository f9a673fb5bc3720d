/-! How names are compared. Folding brings a name into the form in which a schema keeps it, and
two names agree when they are meant to be the same. Only the ASCII letters have two cases here, so
`É` and `é` are different names under both policies. -/

namespace QueryTyping

namespace Text

/-- Upper-cases the ASCII letters and leaves every other character alone. -/
def upper (text : String) : String :=
  String.ofList (text.toList.map Char.toUpper)

theorem toNat_toUpper (c : Char) :
    c.toUpper.toNat = if 97 ≤ c.toNat ∧ c.toNat ≤ 122 then c.toNat - 32 else c.toNat := by
  delta Char.toUpper
  simp only [UInt32.le_iff_toNat_le]
  split
  · next letter =>
    rw [if_pos (by simpa using letter), ← Char.toNat_val, UInt32.toNat_add]
    simp at letter ⊢
    omega
  · next other => rw [if_neg (by simpa using other)]

private theorem toUpper_toUpper (c : Char) : c.toUpper.toUpper = c.toUpper := by
  rw [← Char.toNat_inj, toNat_toUpper c.toUpper, if_neg]
  rw [toNat_toUpper]
  split <;> omega

theorem upper_upper (text : String) : upper (upper text) = upper text := by
  have twice : Char.toUpper ∘ Char.toUpper = Char.toUpper := funext toUpper_toUpper
  simp only [upper, String.toList_ofList, List.map_map, twice]

/-- Compares letter by letter through lower case, so that no folded copy is needed. -/
def sameLetters : List Char → List Char → Bool
  | [], [] => true
  | a :: rest, b :: others => a.toLower == b.toLower && sameLetters rest others
  | _, _ => false

end Text

inductive CasePolicy where
  | sensitive
  | insensitive
  deriving DecidableEq, Repr

namespace CasePolicy

/-- Unquoted SQL names ignore case unless a schema says otherwise. -/
instance : Inhabited CasePolicy := ⟨insensitive⟩

def fold : CasePolicy → String → String
  | sensitive, name => name
  | insensitive, name => Text.upper name

def agree : CasePolicy → String → String → Bool
  | sensitive, a, b => a == b
  | insensitive, a, b => Text.sameLetters a.toList b.toList

@[simp] theorem fold_fold (policy : CasePolicy) (name : String) :
    policy.fold (policy.fold name) = policy.fold name := by
  cases policy with
  | sensitive => rfl
  | insensitive => exact Text.upper_upper name

end CasePolicy

end QueryTyping
