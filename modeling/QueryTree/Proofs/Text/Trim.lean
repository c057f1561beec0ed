import QueryTree.Text.Blank

/-!
Trimming. `Trims` says what a text is without the blanks at its ends, whatever way that is found,
and `trim` finds just that.
-/
namespace QueryTree.Text

/-! ### Runs at the ends of a text -/

variable {inClass : Char → Bool} {text core : List Char}

theorem dropWhile_eq_iff :
    text.dropWhile inClass = core ↔ ∃ before, before.all inClass = true ∧ text = before ++ core ∧
      ∀ c ∈ core.head?, inClass c = false := by
  constructor
  · rintro rfl
    refine ⟨text.takeWhile inClass, List.all_takeWhile, List.takeWhile_append_dropWhile.symm, ?_⟩
    intro c first
    have stopped := List.head?_dropWhile_not inClass text
    rw [first] at stopped
    exact stopped
  · rintro ⟨before, all, rfl, stopped⟩
    rw [List.dropWhile_append_of_pos (List.all_eq_true.mp all)]
    cases core with
    | nil => rfl
    | cons c core => exact List.dropWhile_cons_of_neg (by simp [stopped c rfl])

theorem dropTrailing_eq_iff :
    dropTrailing inClass text = core ↔ ∃ after, after.all inClass = true ∧ text = core ++ after ∧
      ∀ c ∈ core.getLast?, inClass c = false := by
  unfold dropTrailing
  rw [List.reverse_eq_iff, dropWhile_eq_iff, List.head?_reverse]
  constructor
  · rintro ⟨after, all, split, stopped⟩
    refine ⟨after.reverse, ?_, ?_, stopped⟩
    · rwa [List.all_reverse]
    · rw [← List.reverse_reverse text, split]
      simp
  · rintro ⟨after, all, rfl, stopped⟩
    exact ⟨after.reverse, by rwa [List.all_reverse], List.reverse_append, stopped⟩

/-! ### Blank texts -/

theorem allBlank_iff : allBlank text = true ↔ ∀ c ∈ text, isBlank c = true :=
  List.all_eq_true

theorem allBlank_append {left right : List Char} :
    allBlank (left ++ right) = true ↔ allBlank left = true ∧ allBlank right = true := by
  rw [allBlank, List.all_append, Bool.and_eq_true]
  rfl

/-! ### What is left between the blanks -/

/-- Whether a text neither starts nor ends with a blank. -/
structure Bare (text : List Char) : Prop where
  first : ∀ c ∈ text.head?, isBlank c = false
  last : ∀ c ∈ text.getLast?, isBlank c = false

/-- Whether `core` is a text without the blanks at its ends. -/
structure Trims (text core : List Char) : Prop where
  split : ∃ before after, allBlank before ∧ allBlank after ∧ text = before ++ core ++ after
  bare : Bare core

theorem trim_eq_iff : trim text = core ↔ Trims text core := by
  unfold trim trimEnd trimStart
  rw [dropTrailing_eq_iff]
  constructor
  · rintro ⟨after, blankAfter, rest, last⟩
    obtain ⟨before, blankBefore, rfl, first⟩ := dropWhile_eq_iff.mp rest
    refine ⟨⟨before, after, blankBefore, blankAfter, (List.append_assoc ..).symm⟩, ?_, last⟩
    intro c start
    apply first
    rw [List.head?_append, start]
    rfl
  · rintro ⟨⟨before, after, blankBefore, blankAfter, rfl⟩, first, last⟩
    cases core with
    | nil =>
      -- Everything is blank, and so are the blanks in front of the ones behind.
      refine ⟨[], rfl, ?_, last⟩
      refine dropWhile_eq_iff.mpr ⟨before ++ [] ++ after, ?_, (List.append_nil _).symm, nofun⟩
      exact allBlank_append.mpr ⟨allBlank_append.mpr ⟨blankBefore, rfl⟩, blankAfter⟩
    | cons c core =>
      refine ⟨after, blankAfter, ?_, last⟩
      exact dropWhile_eq_iff.mpr ⟨before, blankBefore, List.append_assoc .., first⟩

theorem trims_trim (text : List Char) : Trims text (trim text) :=
  trim_eq_iff.mp rfl

theorem Trims.append_blank {more : List Char} (trims : Trims text core) (blank : allBlank more) :
    Trims (text ++ more) core := by
  obtain ⟨⟨before, after, blankBefore, blankAfter, rfl⟩, bare⟩ := trims
  refine ⟨⟨before, after ++ more, blankBefore, ?_, List.append_assoc ..⟩, bare⟩
  exact allBlank_append.mpr ⟨blankAfter, blank⟩

theorem trim_append_blank {more : List Char} (blank : allBlank more) :
    trim (text ++ more) = trim text :=
  trim_eq_iff.mpr ((trims_trim text).append_blank blank)

theorem exists_trimEnd (text : List Char) : ∃ after, allBlank after ∧ text = trimEnd text ++ after ∧
    ∀ c ∈ (trimEnd text).getLast?, isBlank c = false :=
  dropTrailing_eq_iff.mp rfl

/-- A bare text behind blanks is where a trimmed text starts, whatever follows it. -/
theorem trim_append_bare {before marker : List Char} (blank : allBlank before) (bare : Bare marker)
    (filled : marker ≠ []) (rest : List Char) :
    trim (before ++ marker ++ rest) = marker ++ trimEnd rest := by
  obtain ⟨c, marker, rfl⟩ := List.exists_cons_of_ne_nil filled
  obtain ⟨after, blankAfter, split, last⟩ := exists_trimEnd rest
  refine trim_eq_iff.mpr ⟨⟨before, after, blank, blankAfter, ?_⟩, bare.first, fun c final => ?_⟩
  · rw [List.append_assoc, List.append_assoc, List.append_assoc, ← split]
  · rw [List.getLast?_append, Option.mem_def, Option.or_eq_some_iff] at final
    rcases final with final | ⟨-, final⟩
    · exact last c final
    · exact bare.last c final

theorem Trims.core_eq_nil_iff (trims : Trims text core) : core = [] ↔ allBlank text := by
  obtain ⟨⟨before, after, blankBefore, blankAfter, rfl⟩, first, -⟩ := trims
  rw [allBlank_append, allBlank_append]
  constructor
  · rintro rfl
    exact ⟨⟨blankBefore, rfl⟩, blankAfter⟩
  · rintro ⟨⟨-, blank⟩, -⟩
    -- A core that is not empty starts with a character that is not blank.
    cases core with
    | nil => rfl
    | cons c core => exact absurd (allBlank_iff.mp blank c (.head _)) (by simp [first c rfl])

end QueryTree.Text
