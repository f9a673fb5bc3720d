import QueryTyping.Function.Outline
import Mathlib.Data.List.Basic

/-! What an outline shows. Names may hold any characters, but every character of an outline can be
seen where it stands, because names are quoted in it. -/

namespace QueryTyping

namespace Text

/-- Nothing in the text is hidden. -/
def Visible (text : String) : Prop :=
  ∀ c ∈ text.toList, isVisible c

theorem isVisible_of_ascii {c : Char} (low : 0x20 ≤ c.toNat) (high : c.toNat < 0x7F) :
    isVisible c := by
  have apart : ∀ run ∈ shapeless ++ combining ++ unassigned, run.2 < 0x20 ∨ 0x7F ≤ run.1 := by
    decide +kernel
  unfold isVisible
  generalize shapeless ++ combining ++ unassigned = runs at apart ⊢
  simp only [Bool.not_eq_true', List.any_eq_false, Bool.and_eq_true, decide_eq_true_eq, not_and]
  intro run listed
  have outside := apart run listed
  omega

namespace Visible

theorem of_ascii {text : String}
    (plain : text.toList.all fun c => 0x20 ≤ c.toNat && c.toNat < 0x7F) : Visible text := by
  intro c found
  have both := List.all_eq_true.mp plain c found
  simp only [Bool.and_eq_true, decide_eq_true_eq] at both
  exact isVisible_of_ascii both.1 both.2

theorem append {left right : String} (first : Visible left) (second : Visible right) :
    Visible (left ++ right) := by
  intro c found
  rw [String.toList_append] at found
  exact (List.mem_append.mp found).elim (first c) (second c)

theorem intercalate {separator : String} (between : Visible separator) {texts : List String}
    (each : ∀ text ∈ texts, Visible text) : Visible (separator.intercalate texts) := by
  induction texts with
  | nil => exact nofun
  | cons first rest ih =>
    obtain ⟨here, later⟩ := List.forall_mem_cons.mp each
    cases rest with
    | nil => rwa [String.intercalate_singleton]
    | cons next others =>
      rw [String.intercalate_cons_cons]
      exact (here.append between).append (ih later)

/-- The digits of a number in any base up to sixteen. -/
theorem digits {base : Nat} (more : 1 < base) (most : base ≤ 16) (number : Nat) :
    Visible (String.ofList (Nat.toDigits base number)) := by
  have digit : ∀ value < 16, isVisible (Nat.digitChar value) := by
    intro value small
    have plain : ∀ value < 16, 0x20 ≤ (Nat.digitChar value).toNat ∧
        (Nat.digitChar value).toNat < 0x7F := by decide
    exact isVisible_of_ascii (plain value small).1 (plain value small).2
  intro c found
  rw [String.toList_ofList] at found
  induction number using Nat.strongRecOn with
  | ind number ih =>
    rw [Nat.toDigits_eq_if more] at found
    split at found
    next single =>
      rw [List.mem_singleton.mp found]
      exact digit number (by omega)
    next long =>
      rcases List.mem_append.mp found with front | last
      · exact ih _ (Nat.div_lt_self (by omega) more) front
      · rw [List.mem_singleton.mp last]
        have below : number % base < base := Nat.mod_lt _ (by omega)
        exact digit _ (by omega)

theorem toString (number : Nat) : Visible (toString number) := by
  rw [Nat.toString_eq_ofList_toDigits]
  exact digits (by decide) (by decide) number

theorem quoteCharacter (c : Char) : Visible (quoteCharacter c) := by
  unfold Text.quoteCharacter
  split
  iterate 6 exact of_ascii rfl
  split
  next shown =>
    intro other found
    rw [String.toList_singleton, List.mem_singleton] at found
    rwa [found]
  next =>
    have number : Visible (String.ofList (Nat.toDigits 16 c.toNat)) :=
      digits (by decide) (by decide) _
    refine .append (.append ?_ number) ?_ <;> exact of_ascii rfl

theorem quoted (text : String) : Visible (quoted text) := by
  have inside : Visible (String.join (text.toList.map Text.quoteCharacter)) := by
    intro c found
    rw [String.toList_join] at found
    obtain ⟨part, listed, member⟩ := List.mem_flatMap.mp found
    obtain ⟨other, _, rfl⟩ := List.mem_map.mp listed
    exact quoteCharacter other c member
  have mark : Visible "\"" := of_ascii rfl
  exact (mark.append inside).append mark

end Visible

end Text

open Text (Visible)

mutual

theorem SqlType.visible_outline : (type : SqlType) → Visible type.outline
  | .int32 | .int64 | .float64 | .string | .boolean => .of_ascii rfl
  | .array items => by
    change Visible ("Array \x7b items: " ++ items.outline ++ " \x7d")
    refine .append (.append ?_ items.visible_outline) ?_ <;> exact .of_ascii rfl
  | .map key value => by
    change Visible ("Map \x7b key: " ++ key.outline ++ ", value: " ++ value.outline ++ " \x7d")
    refine .append (.append (.append (.append ?_ key.visible_outline) ?_) value.visible_outline) ?_
    all_goals exact .of_ascii rfl
  | .struct fields => by
    change Visible ("Struct \x7b fields: [" ++ ", ".intercalate (Field.outlines fields) ++ "] \x7d")
    have inside : Visible (", ".intercalate (Field.outlines fields)) :=
      .intercalate (.of_ascii rfl) (Field.visible_outlines fields)
    refine .append (.append ?_ inside) ?_ <;> exact .of_ascii rfl

theorem Field.visible_outlines : (fields : List Field) →
    ∀ text ∈ Field.outlines fields, Visible text
  | [] => nofun
  | ⟨name, type, nullable⟩ :: rest => by
    rw [Field.outlines]
    refine List.forall_mem_cons.mpr ⟨?_, Field.visible_outlines rest⟩
    have flag : Visible (toString nullable) := by
      cases nullable <;> exact .of_ascii rfl
    have typed := type.visible_outline
    refine .append (.append (.append (.append (.append (.append ?_ (.quoted name)) ?_) typed) ?_)
      flag) ?_
    all_goals exact .of_ascii rfl

end

/-- Whatever the names in it are, nothing in the outline of a rule is hidden. -/
theorem ReturnRule.visible_outline (rule : ReturnRule) : Visible rule.outline := by
  cases rule with
  | fixed type =>
    refine .append (.append ?_ type.visible_outline) ?_ <;> exact .of_ascii rfl
  | sameAsArgument index | elementOf index =>
    refine .append (.append ?_ (.toString index)) ?_ <;> exact .of_ascii rfl
  | widestNumeric => exact .of_ascii rfl
  | custom rule =>
    change Visible "Custom(..)"
    exact .of_ascii rfl

end QueryTyping
