import QueryTree.Proofs.Hint.Grammar

/-!
Hints written out as comments. A hint is read back from the comment it is written as exactly if it
is tidy, and whatever is read out of a comment is tidy.
-/
namespace QueryTree.Hint

/-- The comment that a hint is written as. -/
def render (hint : Hint) : String :=
  if hint.singleLine then "--+ " ++ hint.value else "/*+ " ++ hint.value ++ " */"

/-- Whether a hint has the form in which hints are read. -/
structure Tidy (hint : Hint) : Prop where
  filled : hint.value ≠ ""
  bare : Text.Bare hint.value.toList
  /-- A hint that ends with its line has no more than one. -/
  inLine : hint.singleLine = true → '\n' ∉ hint.value.toList

theorem Holds.tidy {comment : List Char} {hint : Hint} (holds : Holds comment hint) :
    hint.Tidy := by
  cases holds with
  | line opened inLine filled ended trimmed =>
    refine ⟨fun empty => filled ?_, trimmed.bare, fun _ feed => inLine ?_⟩
    · exact trimmed.core_eq_nil_iff.mp (String.toList_eq_nil_iff.mpr empty)
    · obtain ⟨before, after, -, -, rfl⟩ := trimmed.split
      exact List.mem_append_left _ (List.mem_append_right _ feed)
  | block opened filled starless starred closed trimmed =>
    refine ⟨fun empty => filled ?_, trimmed.bare, nofun⟩
    exact trimmed.core_eq_nil_iff.mp (String.toList_eq_nil_iff.mpr empty)

/-- The blanks that are written around a tidy hint are all that is trimmed of it. -/
theorem Tidy.holds_render {hint : Hint} (tidy : hint.Tidy) : Holds hint.render.toList hint := by
  obtain ⟨value, singleLine⟩ := hint
  obtain ⟨filled, bare, inLine⟩ := tidy
  have nonempty : value.toList ≠ [] := mt String.toList_eq_nil_iff.mp filled
  cases singleLine with
  | true =>
    have trimmed : Text.Trims (' ' :: value.toList) value.toList :=
      ⟨⟨[' '], [], rfl, rfl, by simp⟩, bare⟩
    have written : (render ⟨value, true⟩).toList =
        [] ++ "--+".toList ++ (' ' :: value.toList) ++ [] := by
      simp [render]
    rw [written]
    refine .line rfl ?_ (mt trimmed.core_eq_nil_iff.mpr nonempty) nofun trimmed
    simpa using inLine rfl
  | false =>
    have trimmed : Text.Trims (' ' :: value.toList ++ [' ']) value.toList :=
      ⟨⟨[' '], [' '], rfl, rfl, by simp⟩, bare⟩
    -- The blank in front of the end keeps the stars of the hint from being taken for those of the
    -- end.
    have starless : (' ' :: value.toList ++ [' ']).getLast? ≠ some '*' := by
      rw [List.getLast?_concat]
      decide
    have written : (render ⟨value, false⟩).toList =
        [] ++ "/*+".toList ++ (' ' :: value.toList ++ [' ']) ++ [] ++ "*/".toList ++ [] := by
      simp [render]
    rw [written]
    exact .block rfl (mt trimmed.core_eq_nil_iff.mpr nonempty) starless nofun rfl trimmed

theorem tidy_of_ofComment {comment : String} {hint : Hint}
    (accepted : ofComment comment = .ok hint) : hint.Tidy :=
  (holds_of_ofComment accepted).tidy

theorem ofComment_render_iff {hint : Hint} : ofComment hint.render = .ok hint ↔ hint.Tidy :=
  ⟨tidy_of_ofComment, fun tidy => ofComment_of_holds tidy.holds_render⟩

/-- A hint comes back from the comment it is written as exactly if it is tidy. What is read out of a
comment is, so that to read, to write and to read again gives the hint that was read first. -/
theorem ofComment_render :
    (∀ hint : Hint, ofComment hint.render = .ok hint ↔ hint.Tidy) ∧
    ∀ comment hint, ofComment comment = .ok hint →
      hint.Tidy ∧ ofComment hint.render = .ok hint := by
  refine ⟨fun hint => ofComment_render_iff, fun comment hint accepted => ?_⟩
  have tidy := tidy_of_ofComment accepted
  exact ⟨tidy, ofComment_render_iff.mpr tidy⟩

/-- The hint is full of what ends or marks other comments, and its line ends with a carriage
return. -/
theorem ofComment_render_marks :
    ofComment "  --+ /*+ * 2 --+ */ *\r\nFROM t" = .ok ⟨"/*+ * 2 --+ */ *", true⟩ ∧
      Tidy ⟨"/*+ * 2 --+ */ *", true⟩ ∧
      ofComment (render ⟨"/*+ * 2 --+ */ *", true⟩) = .ok ⟨"/*+ * 2 --+ */ *", true⟩ := by
  have accepted :
      ofComment "  --+ /*+ * 2 --+ */ *\r\nFROM t" = .ok ⟨"/*+ * 2 --+ */ *", true⟩ := rfl
  exact ⟨accepted, ofComment_render.2 _ _ accepted⟩

end QueryTree.Hint
