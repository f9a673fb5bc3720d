import QueryTyping.Proofs.NameFolding

/-! Comparing names and folding them are one notion. A look-up may do either, before or after a name
is cut at its points, and among the fields of an accepted level it ends at the only one that is
meant. -/

namespace QueryTyping

/-- A name means at most one field of a level with good names. -/
theorem Field.WellNamed.length_filter_agree {policy : CasePolicy} {fields : List Field}
    (good : Field.WellNamed policy fields) (name : String) :
    (fields.filter (policy.agree ·.name name)).length ≤ 1 := by
  rcases Field.filter_agree_cases good.fold_distinct name with nothing | ⟨field, single⟩
  · rw [nothing]
    exact Nat.zero_le 1
  · rw [single]
    exact Nat.le_refl 1

namespace CasePolicy

/-- Names agree exactly when they fold to the same name, so that they fall into classes. Folding a
second time changes nothing, and the first time only a name with small letters under a policy that
ignores case. All points stay where they are, and the segments of a folded name are the folded
segments. At every level of an accepted row a name then means one field at most, and a search finds
that field and no other. -/
theorem agree_as_folded (policy : CasePolicy) :
    (∀ a b, policy.agree a b ↔ policy.fold a = policy.fold b) ∧
    Equivalence (fun a b : String => (policy.agree a b : Prop)) ∧
    (∀ name, policy.fold (policy.fold name) = policy.fold name ∧
      (policy.fold name = name ↔ policy = .sensitive ∨ ∀ c ∈ name.toList, ¬ c.isLower) ∧
      (policy.fold name).toList.idxsOf '.' = name.toList.idxsOf '.' ∧
      Text.segments (policy.fold name) = (Text.segments name).map policy.fold) ∧
    ∀ path fields, Field.checkAll policy path [] fields = .ok () →
      ∀ level, (SqlType.struct level).Part (.struct fields) → ∀ name,
        (level.filter (policy.agree ·.name name)).length ≤ 1 ∧
        ∀ field, policy.find? name level = some field ↔
          field ∈ level ∧ policy.agree field.name name := by
  refine ⟨fun _ _ => agree_iff, agree_equivalence policy, ?_, ?_⟩
  · intro name
    exact ⟨fold_fold policy name, fold_eq_self_iff, idxsOf_point_fold name, segments_fold name⟩
  · intro path fields accepted level inside name
    have good := SqlType.wellFormed_of_check (.struct fields) accepted level inside
    exact ⟨good.length_filter_agree name, fun field => Field.find?_eq_some_iff good.fold_distinct⟩

/-- Only the letters of the alphabet have two cases, so that the first two names differ. -/
def accented : List Field :=
  [⟨"É", .int32, true⟩, ⟨"é", .string, true⟩, ⟨"Home.Zip", .int64, true⟩]

theorem accented_agree_as_folded :
    Field.checkAll .insensitive "schema" [] [⟨"Items", .array (.struct accented), true⟩] = .ok () ∧
    (SqlType.struct accented).Part (.struct [⟨"Items", .array (.struct accented), true⟩]) ∧
    insensitive.fold "é" ≠ insensitive.fold "É" ∧
    ¬ insensitive.agree "é" "É" ∧
    insensitive.agree "Home.Zip" "hOME.zIP" ∧
    insensitive.find? "hOME.zIP" accented = some ⟨"Home.Zip", .int64, true⟩ := by
  have accepted : Field.checkAll .insensitive "schema" []
      [⟨"Items", .array (.struct accented), true⟩] = .ok () := rfl
  have inside : (SqlType.struct accented).Part
      (.struct [⟨"Items", .array (.struct accented), true⟩]) :=
    .member List.mem_cons_self (.items .whole)
  obtain ⟨agrees, _, _, levels⟩ := agree_as_folded .insensitive
  have differ : insensitive.fold "é" ≠ insensitive.fold "É" := by decide
  have same : insensitive.agree "Home.Zip" "hOME.zIP" := by decide
  obtain ⟨_, found⟩ := levels _ _ accepted _ inside "hOME.zIP"
  refine ⟨accepted, inside, differ, mt (agrees _ _).mp differ, same, ?_⟩
  exact (found ⟨"Home.Zip", .int64, true⟩).mpr ⟨by simp [accented], same⟩

end CasePolicy

end QueryTyping
