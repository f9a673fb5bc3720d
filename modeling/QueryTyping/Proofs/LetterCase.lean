import QueryTyping.CasePolicy

/-! Comparing names is comparing their folded forms, although the comparison goes through lower
case and the folding through upper case. So it sorts the names into classes, and a name changes by
folding only if case is ignored and there is a small letter in it. -/

namespace QueryTyping

namespace Text

private theorem toNat_toLower (c : Char) :
    c.toLower.toNat = if 65 ≤ c.toNat ∧ c.toNat ≤ 90 then c.toNat + 32 else c.toNat := by
  delta Char.toLower
  simp only [ge_iff_le, UInt32.le_iff_toNat_le]
  split
  · next letter =>
    rw [if_pos (by simpa using letter), ← Char.toNat_val, UInt32.toNat_add]
    simp at letter ⊢
    omega
  · next other => rw [if_neg (by simpa using other)]

private theorem toLower_eq_iff {a b : Char} : a.toLower = b.toLower ↔ a.toUpper = b.toUpper := by
  simp only [← Char.toNat_inj, toNat_toLower, toNat_toUpper]
  split <;> split <;> split <;> split <;> omega

theorem sameLetters_iff {a b : List Char} :
    sameLetters a b ↔ a.map Char.toUpper = b.map Char.toUpper := by
  induction a generalizing b with
  | nil => cases b <;> simp [sameLetters]
  | cons c rest ih =>
    cases b with
    | nil => simp [sameLetters]
    | cons d others => simp [sameLetters, toLower_eq_iff, ih]

private theorem toUpper_eq_self_iff {c : Char} : c.toUpper = c ↔ ¬ c.isLower := by
  rw [← Char.toNat_inj, toNat_toUpper]
  delta Char.isLower
  simp only [ge_iff_le, Bool.and_eq_true, decide_eq_true_eq, UInt32.le_iff_toNat_le]
  have first : 'a'.val.toNat = 97 := rfl
  have last : 'z'.val.toNat = 122 := rfl
  rw [first, last, Char.toNat_val]
  split <;> omega

theorem upper_eq_self_iff {text : String} :
    upper text = text ↔ ∀ c ∈ text.toList, ¬ c.isLower := by
  have letters : upper text = text ↔ text.toList.map Char.toUpper = text.toList.map id := by
    rw [List.map_id, ← String.toList_inj, upper, String.toList_ofList]
  rw [letters, List.map_inj_left]
  simp only [id, toUpper_eq_self_iff]

end Text

namespace CasePolicy

variable {policy : CasePolicy}

/-- Names agree exactly when a schema would keep them as the same name. -/
theorem agree_iff {a b : String} : policy.agree a b ↔ policy.fold a = policy.fold b := by
  cases policy with
  | sensitive => simp [agree, fold]
  | insensitive => simp [agree, fold, Text.upper, Text.sameLetters_iff, String.ofList_inj]

theorem agree_equivalence (policy : CasePolicy) :
    Equivalence fun a b : String => (policy.agree a b : Prop) where
  refl _ := agree_iff.mpr rfl
  symm same := agree_iff.mpr (agree_iff.mp same).symm
  trans first second := agree_iff.mpr ((agree_iff.mp first).trans (agree_iff.mp second))

theorem fold_eq_self_iff {name : String} :
    policy.fold name = name ↔ policy = .sensitive ∨ ∀ c ∈ name.toList, ¬ c.isLower := by
  cases policy with
  | sensitive => simp [fold]
  | insensitive => simp [fold, Text.upper_eq_self_iff]

end CasePolicy

end QueryTyping
