import Mathlib.Data.List.Basic
import QueryTree.Proofs.Hint.Grammar

/-!
Where block comments end. A comment with a block hint is taken to end with its last `*/`, so that an
earlier one, and what stands behind it, becomes a part of the hint. This is the only way in which a
hint comes to hold a `*/`.
-/
namespace QueryTree.Hint

/-! ### Pairs of characters inside of a text -/

private theorem pair_infix_append_left_iff {a b : Char} {left right : List Char}
    (absent : b ∉ right) : [a, b] <:+: left ++ right ↔ [a, b] <:+: left := by
  constructor
  · intro inside
    rcases List.infix_append_iff.mp inside with
      inside | inside | ⟨front, behind, split, ended, begun⟩
    · exact inside
    · exact absurd (inside.subset (by simp)) absent
    · -- The pair is all in the left text, because its second character is not in the right one.
      rcases List.eq_nil_or_concat' behind with rfl | ⟨behind, c, rfl⟩
      · rw [split, List.append_nil]
        exact ended.isInfix
      · have last : b = c := by simpa using congrArg List.getLast? split
        exact absurd (begun.subset (by simp [last])) absent
  · exact fun inside => inside.trans (List.prefix_append left right).isInfix

private theorem pair_infix_append_right_iff {a b : Char} {left right : List Char}
    (absent : a ∉ left) : [a, b] <:+: left ++ right ↔ [a, b] <:+: right := by
  have reversed (text : List Char) : [a, b].reverse <:+: text.reverse ↔ [a, b] <:+: text :=
    List.reverse_infix
  have mirrored : [b, a] <:+: right.reverse ++ left.reverse ↔ [b, a] <:+: right.reverse :=
    pair_infix_append_left_iff (by simpa using absent)
  rw [← reversed, ← reversed right, List.reverse_append]
  exact mirrored

/-! ### Ends of block comments -/

/-- What is trimmed of a text takes no end of a comment with it. -/
theorem blockEnd_infix_iff_of_trims {text core : List Char} (trims : Text.Trims text core) :
    "*/".toList <:+: text ↔ "*/".toList <:+: core := by
  obtain ⟨⟨before, after, blankBefore, blankAfter, rfl⟩, -⟩ := trims
  have slashless : '/' ∉ after := fun slash =>
    absurd (Text.allBlank_iff.mp blankAfter _ slash) (by decide)
  have starless : '*' ∉ before := fun star =>
    absurd (Text.allBlank_iff.mp blankBefore _ star) (by decide)
  exact (pair_infix_append_left_iff slashless).trans (pair_infix_append_right_iff starless)

theorem blockEnd_infix_append_stars_iff {text stars : List Char} (starred : ∀ c ∈ stars, c = '*') :
    "*/".toList <:+: text ++ stars ↔ "*/".toList <:+: text :=
  pair_infix_append_left_iff fun slash => absurd (starred _ slash) (by decide)

/-- Two ends of comments do not overlap. -/
private theorem blockEnd_apart {between left right : List Char}
    (same : "*/".toList ++ left = between ++ ("*/".toList ++ right)) :
    between = [] ∨
      ∃ more, between = "*/".toList ++ more ∧ left = more ++ ("*/".toList ++ right) := by
  change '*' :: '/' :: left = _ at same
  match between with
  | [] => exact .inl rfl
  | [c] =>
    have slash : '/' = '*' := (List.cons.inj (List.cons.inj same).2).1
    exact absurd slash (by decide)
  | c :: d :: more =>
    obtain ⟨rfl, slash⟩ := List.cons.inj same
    obtain ⟨rfl, rest⟩ := List.cons.inj slash
    exact .inr ⟨more, rfl, rest⟩

/-- The end of a comment stands in its text exactly if the comment can be taken to end earlier. -/
theorem blockEnd_infix_iff_earlier {text after : List Char} (blank : Text.allBlank after) :
    "*/".toList <:+: text ↔ ∃ inner behind,
      text ++ "*/".toList ++ after = inner ++ "*/".toList ++ behind ∧ inner ≠ text := by
  constructor
  · rintro ⟨inner, behind, rfl⟩
    refine ⟨inner, behind ++ "*/".toList ++ after, by simp only [List.append_assoc], ?_⟩
    intro same
    simpa using congrArg List.length same
  · rintro ⟨inner, behind, same, earlier⟩
    rw [List.append_assoc, List.append_assoc] at same
    rcases List.append_eq_append_iff.mp same with ⟨between, rfl, rest⟩ | ⟨between, rfl, rest⟩
    · rcases blockEnd_apart rest with rfl | ⟨more, rfl, rfl⟩
      · exact absurd (List.append_nil text) earlier
      · -- The other end would stand in the blanks behind the comment.
        exact absurd (Text.allBlank_iff.mp blank '*' (by simp)) (by decide)
    · rcases blockEnd_apart rest with rfl | ⟨more, rfl, -⟩
      · exact absurd (List.append_nil inner).symm earlier
      · exact ⟨inner, more, List.append_assoc ..⟩

/-! ### What a block hint can hold -/

/-- A block hint holds no end of a comment exactly if its own comment ends with the first one behind
the marker. Otherwise its text goes on behind that end, up to the last one. -/
theorem ofComment_block_closed {comment : String} {value : String}
    (accepted : ofComment comment = .ok ⟨value, false⟩) :
    ∃ before text after, Text.allBlank before ∧ Text.allBlank after ∧
      comment.toList = before ++ "/*+".toList ++ text ++ "*/".toList ++ after ∧
      (¬ "*/".toList <:+: value.toList ↔ ∀ inner behind,
        text ++ "*/".toList ++ after = inner ++ "*/".toList ++ behind → inner = text) := by
  have holds := holds_of_ofComment accepted
  generalize comment.toList = whole at holds
  cases holds with
  | @block before text stars after value opened filled starless starred closed trimmed =>
    refine ⟨before, text ++ stars, after, opened, closed, by simp only [List.append_assoc], ?_⟩
    rw [← blockEnd_infix_iff_of_trims trimmed, ← blockEnd_infix_append_stars_iff starred,
      blockEnd_infix_iff_earlier closed]
    simp only [not_exists, not_and, not_not]

/-- A hint, a statement and another comment are read as one hint. -/
theorem ofComment_block_closed_twoComments :
    ofComment "/*+ FULL(t) */ SELECT 1 /* x */" = .ok ⟨"FULL(t) */ SELECT 1 /* x", false⟩ ∧
      ∃ before text after, Text.allBlank before ∧ Text.allBlank after ∧
        "/*+ FULL(t) */ SELECT 1 /* x */".toList =
          before ++ "/*+".toList ++ text ++ "*/".toList ++ after ∧
        (¬ "*/".toList <:+: "FULL(t) */ SELECT 1 /* x".toList ↔ ∀ inner behind,
          text ++ "*/".toList ++ after = inner ++ "*/".toList ++ behind → inner = text) :=
  ⟨rfl, ofComment_block_closed rfl⟩

/-- So the text of a block hint can go on behind the end of its comment. -/
theorem ofComment_block_open :
    ¬ ∀ comment value, ofComment comment = .ok ⟨value, false⟩ →
      ¬ "*/".toList <:+: value.toList := by
  intro closed
  have accepted : ofComment "/*+ FULL(t) */ SELECT 1 /* x */" =
      .ok ⟨"FULL(t) */ SELECT 1 /* x", false⟩ := rfl
  exact closed _ _ accepted ⟨"FULL(t) ".toList, " SELECT 1 /* x".toList, rfl⟩

end QueryTree.Hint
