import QueryTree.Hint
import QueryTree.Proofs.Text.Cut

/-!
Which comments hold a hint. `Holds` is the grammar of hint comments: it says how a comment is put
together, and what the hint in it is. A comment is read as a hint exactly if it holds that hint, and
every other one is refused as it was given.
-/
namespace QueryTree.Hint

/-! ### The grammar -/

/-- Whether a comment holds a hint. -/
inductive Holds : (comment : List Char) → Hint → Prop where
  /-- Behind its marker the hint goes on to the end of the line. -/
  | line {before text after : List Char} {value : String} (opened : Text.allBlank before)
      (inLine : '\n' ∉ text) (filled : ¬ Text.allBlank text) (ended : ∀ c ∈ after.head?, c = '\n')
      (trimmed : Text.Trims text value.toList) :
      Holds (before ++ "--+".toList ++ text ++ after) ⟨value, true⟩
  /-- Behind its marker the hint goes on to the stars in front of the end of the comment. -/
  | block {before text stars after : List Char} {value : String} (opened : Text.allBlank before)
      (filled : ¬ Text.allBlank text) (starless : text.getLast? ≠ some '*')
      (starred : ∀ c ∈ stars, c = '*') (closed : Text.allBlank after)
      (trimmed : Text.Trims text value.toList) :
      Holds (before ++ "/*+".toList ++ text ++ stars ++ "*/".toList ++ after) ⟨value, false⟩

/-! ### Comments with a marker -/

theorem body?_eq_line_iff {comment body : List Char} :
    body? comment = some (body, true) ↔
      ∃ rest, comment = lineMarker ++ rest ∧ Text.firstLine rest = body := by
  unfold body?
  constructor
  · intro found
    split at found
    next rest marked =>
      cases found
      exact ⟨rest, Text.afterStart?_eq_some_iff.mp marked, rfl⟩
    next =>
      split at found
      next => simp at found
      next => cases found
  · rintro ⟨rest, rfl, rfl⟩
    rw [Text.afterStart?_eq_some_iff.mpr rfl]

private theorem dropTrailing_star_iff {inner body : List Char} :
    Text.dropTrailing (· = '*') inner = body ↔ ∃ stars, (∀ c ∈ stars, c = '*') ∧
      body.getLast? ≠ some '*' ∧ inner = body ++ stars := by
  rw [Text.dropTrailing_eq_iff]
  constructor
  · rintro ⟨stars, starred, split, starless⟩
    refine ⟨stars, by simpa using starred, fun star => ?_, split⟩
    exact absurd (starless '*' star) (by decide)
  · rintro ⟨stars, starred, starless, split⟩
    refine ⟨stars, by simpa using starred, split, fun c last => ?_⟩
    exact decide_eq_false fun star => starless (star ▸ last)

theorem body?_eq_block_iff {comment body : List Char} :
    body? comment = some (body, false) ↔ ∃ stars, (∀ c ∈ stars, c = '*') ∧
      body.getLast? ≠ some '*' ∧ comment = blockStart ++ body ++ stars ++ blockEnd := by
  unfold body?
  constructor
  · intro found
    split at found
    next => simp at found
    next =>
      split at found
      next rest marked =>
        obtain ⟨inner, closed, made⟩ := Option.map_eq_some_iff.mp found
        obtain ⟨stars, starred, starless, rfl⟩ :=
          dropTrailing_star_iff.mp (congrArg Prod.fst made)
        refine ⟨stars, starred, starless, ?_⟩
        rw [Text.afterStart?_eq_some_iff.mp marked, Text.beforeEnd?_eq_some_iff.mp closed]
        simp only [List.append_assoc]
      next => cases found
  · rintro ⟨stars, starred, starless, rfl⟩
    have unmarked : Text.afterStart? lineMarker (blockStart ++ body ++ stars ++ blockEnd) = none :=
      rfl
    have marked : Text.afterStart? blockStart (blockStart ++ body ++ stars ++ blockEnd) =
        some (body ++ stars ++ blockEnd) :=
      rfl
    have closed : Text.beforeEnd? blockEnd (body ++ stars ++ blockEnd) = some (body ++ stars) :=
      Text.beforeEnd?_eq_some_iff.mpr rfl
    have shortened := dropTrailing_star_iff.mpr ⟨stars, starred, starless, rfl⟩
    rw [unmarked, marked]
    dsimp only
    rw [closed, Option.map_some, shortened]

/-! ### Trimmed comments -/

/-- With blanks around it a comment is still one with a line hint; the blanks behind it belong to
its line, as far as that goes. -/
theorem trim_body?_line_iff {comment value : List Char} :
    (∃ body, body? (Text.trim comment) = some (body, true) ∧ Text.trim body = value) ↔
      ∃ before line after, Text.allBlank before ∧ '\n' ∉ line ∧ (∀ c ∈ after.head?, c = '\n') ∧
        comment = before ++ "--+".toList ++ line ++ after ∧ Text.Trims line value := by
  constructor
  · rintro ⟨body, found, trimmed⟩
    obtain ⟨rest, marked, rfl⟩ := body?_eq_line_iff.mp found
    obtain ⟨⟨before, blanks, opened, blank, split⟩, -⟩ := Text.trim_eq_iff.mp marked
    -- The blanks that were trimmed may belong to the line, which is found again with them in place.
    obtain ⟨line, after, inLine, ended, same⟩ := Text.exists_line (rest ++ blanks)
    refine ⟨before, line, after, opened, inLine, ended, ?_, ?_⟩
    · rw [split, List.append_assoc before, List.append_assoc _ line, ← same]
      simp [lineMarker]
    · rw [← Text.trim_eq_iff, ← Text.trim_firstLine_append inLine ended, ← same,
        Text.trim_firstLine_append_blank blank, trimmed]
  · rintro ⟨before, line, after, opened, inLine, ended, rfl, trimmed⟩
    have bare : Text.Bare "--+".toList := ⟨by rintro c ⟨⟩; rfl, by rintro c ⟨⟩; rfl⟩
    have marked := Text.trim_append_bare opened bare (by decide) (line ++ after)
    refine ⟨Text.firstLine (Text.trimEnd (line ++ after)), ?_, ?_⟩
    · refine body?_eq_line_iff.mpr ⟨Text.trimEnd (line ++ after), ?_, rfl⟩
      rw [List.append_assoc, marked]
      rfl
    · rw [Text.trim_firstLine_trimEnd, Text.trim_firstLine_append inLine ended,
        Text.trim_eq_iff.mpr trimmed]

theorem trim_body?_eq_block_iff {comment body : List Char} :
    body? (Text.trim comment) = some (body, false) ↔
      ∃ before stars after, Text.allBlank before ∧ (∀ c ∈ stars, c = '*') ∧
        body.getLast? ≠ some '*' ∧ Text.allBlank after ∧
        comment = before ++ "/*+".toList ++ body ++ stars ++ "*/".toList ++ after := by
  rw [body?_eq_block_iff]
  constructor
  · rintro ⟨stars, starred, starless, marked⟩
    obtain ⟨⟨before, after, opened, closed, split⟩, -⟩ := Text.trim_eq_iff.mp marked
    refine ⟨before, stars, after, opened, starred, starless, closed, ?_⟩
    simpa [blockStart, blockEnd] using split
  · rintro ⟨before, stars, after, opened, starred, starless, closed, rfl⟩
    refine ⟨stars, starred, starless, Text.trim_eq_iff.mpr
      ⟨?_, ⟨fun c first => ?_, fun c last => ?_⟩⟩⟩
    · exact ⟨before, after, opened, closed, by simp [blockStart, blockEnd]⟩
    · -- A comment with both of its marks starts and ends with a slash.
      obtain rfl : '/' = c := Option.some.inj first
      rfl
    · rw [List.getLast?_append] at last
      obtain rfl : '/' = c := Option.some.inj last
      rfl

/-! ### What is read, and what the grammar says -/

theorem ofComment_eq_ok_iff {comment : String} {hint : Hint} :
    ofComment comment = .ok hint ↔ ∃ body,
      body? (Text.trim comment.toList) = some (body, hint.singleLine) ∧
        Text.trim body = hint.value.toList ∧ hint.value.toList ≠ [] := by
  obtain ⟨value, singleLine⟩ := hint
  unfold ofComment
  constructor
  · intro accepted
    split at accepted
    next body line found =>
      dsimp only at accepted
      split at accepted
      next => cases accepted
      next filled =>
        cases accepted
        rw [String.toList_ofList]
        exact ⟨body, found, rfl, fun empty => filled (List.isEmpty_iff.mpr empty)⟩
    next => cases accepted
  · rintro ⟨body, found, trimmed, filled⟩
    rw [found]
    dsimp only at trimmed filled ⊢
    rw [trimmed, if_neg fun empty => filled (List.isEmpty_iff.mp empty), String.ofList_toList]

/-- There is one reason to refuse a comment, and it is returned as it was given. -/
theorem eq_invalidHint_of_ofComment {comment : String} {error : NodeError}
    (refused : ofComment comment = .error error) : error = .invalidHint comment := by
  unfold ofComment at refused
  split at refused
  next =>
    dsimp only at refused
    split at refused
    next => exact (Except.error.inj refused).symm
    next => cases refused
  next => exact (Except.error.inj refused).symm

theorem holds_of_ofComment {comment : String} {hint : Hint}
    (accepted : ofComment comment = .ok hint) : Holds comment.toList hint := by
  obtain ⟨body, found, trimmed, filled⟩ := ofComment_eq_ok_iff.mp accepted
  obtain ⟨value, singleLine⟩ := hint
  cases singleLine with
  | true =>
    obtain ⟨before, line, after, opened, inLine, ended, whole, trimmed⟩ :=
      trim_body?_line_iff.mp ⟨body, found, trimmed⟩
    rw [whole]
    exact .line opened inLine (mt trimmed.core_eq_nil_iff.mpr filled) ended trimmed
  | false =>
    obtain ⟨before, stars, after, opened, starred, starless, closed, whole⟩ :=
      trim_body?_eq_block_iff.mp found
    have trimmed := Text.trim_eq_iff.mp trimmed
    rw [whole]
    exact .block opened (mt trimmed.core_eq_nil_iff.mpr filled) starless starred closed trimmed

theorem ofComment_of_holds {comment : String} {hint : Hint} (holds : Holds comment.toList hint) :
    ofComment comment = .ok hint := by
  rw [ofComment_eq_ok_iff]
  generalize comment.toList = whole at holds
  cases holds with
  | @line before text after value opened inLine filled ended trimmed =>
    obtain ⟨body, found, same⟩ := trim_body?_line_iff.mpr
      ⟨before, text, after, opened, inLine, ended, rfl, trimmed⟩
    exact ⟨body, found, same, mt trimmed.core_eq_nil_iff.mp filled⟩
  | @block before text stars after value opened filled starless starred closed trimmed =>
    have found := trim_body?_eq_block_iff.mpr
      ⟨before, stars, after, opened, starred, starless, closed, rfl⟩
    exact ⟨text, found, Text.trim_eq_iff.mpr trimmed, mt trimmed.core_eq_nil_iff.mp filled⟩

/-- A comment is read as the hint that the grammar says it holds; if it holds none, it is refused as
it was given, and not called a hint. -/
theorem ofComment_grammar (comment : String) :
    (∀ hint, ofComment comment = .ok hint ↔ Holds comment.toList hint) ∧
    (∀ error, ofComment comment = .error error ↔
      error = .invalidHint comment ∧ ∀ hint, ¬ Holds comment.toList hint) ∧
    (isHint comment = true ↔ ∃ hint, Holds comment.toList hint) := by
  have read_iff (hint : Hint) : ofComment comment = .ok hint ↔ Holds comment.toList hint :=
    ⟨holds_of_ofComment, ofComment_of_holds⟩
  refine ⟨read_iff, fun error => ?_, ?_⟩
  · simp only [← read_iff]
    cases read : ofComment comment with
    | ok hint => simp
    | error cause =>
      obtain rfl := eq_invalidHint_of_ofComment read
      simp [eq_comm]
  · simp only [← read_iff, isHint]
    cases ofComment comment with
    | ok hint => simp [Except.isOk, Except.toBool]
    | error cause => simp [Except.isOk, Except.toBool]

/-- The star of the marker is not that of the end, and the stars in front of the end are not the
hint's. -/
example : isHint "/*+/" = false ∧ ofComment " /*+ 2 **/ " = .ok ⟨"2", false⟩ :=
  ⟨rfl, rfl⟩

end QueryTree.Hint
