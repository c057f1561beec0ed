import Mathlib.Data.List.TakeDrop
import QueryTree.Proofs.Text.Trim

/-!
Texts that are cut: behind a start, in front of an end, behind a run of characters of a class, at
the first line break and at every separator.
-/
namespace QueryTree.Text

/-! ### Starts and ends -/

theorem afterStart?_eq_some_iff {start text rest : List Char} :
    afterStart? start text = some rest ↔ text = start ++ rest := by
  induction start generalizing text with
  | nil => simp [afterStart?]
  | cons c start ih =>
    cases text with
    | nil => simp [afterStart?]
    | cons d text =>
      by_cases same : c = d
      · simp [afterStart?, same, ih]
      · simp [afterStart?, same, Ne.symm same]

theorem beforeEnd?_eq_some_iff {ending text front : List Char} :
    beforeEnd? ending text = some front ↔ text = front ++ ending := by
  unfold beforeEnd?
  constructor
  · intro found
    obtain ⟨reversed, rest, rfl⟩ := Option.map_eq_some_iff.mp found
    have split := afterStart?_eq_some_iff.mp rest
    rw [← List.reverse_reverse text, split, List.reverse_append, List.reverse_reverse]
  · rintro rfl
    refine Option.map_eq_some_iff.mpr ⟨front.reverse, ?_, List.reverse_reverse front⟩
    exact afterStart?_eq_some_iff.mpr List.reverse_append

/-! ### Runs of characters -/

theorem span_eq_iff {inClass : Char → Bool} {text run rest : List Char} :
    text.span inClass = (run, rest) ↔
      text = run ++ rest ∧ (∀ c ∈ run, inClass c) ∧ ∀ c ∈ rest.head?, inClass c = false := by
  rw [List.span_eq_takeWhile_dropWhile, Prod.mk.injEq, dropWhile_eq_iff]
  constructor
  · rintro ⟨rfl, before, all, split, stopped⟩
    have same : text.dropWhile inClass = rest := dropWhile_eq_iff.mpr ⟨before, all, split, stopped⟩
    refine ⟨?_, List.all_eq_true.mp List.all_takeWhile, stopped⟩
    rw [← same, List.takeWhile_append_dropWhile]
  · rintro ⟨rfl, all, stopped⟩
    refine ⟨?_, run, List.all_eq_true.mpr all, rfl, stopped⟩
    rw [List.takeWhile_append_of_pos all]
    cases rest with
    | nil => simp
    | cons c rest => simp [stopped c rfl]

/-! ### The first line -/

theorem firstLine_of_ended {after : List Char} (ended : ∀ c ∈ after.head?, c = '\n') :
    firstLine after = [] := by
  cases after with
  | nil => rfl
  | cons c after =>
    obtain rfl := ended c rfl
    rfl

/-- The first line of a text is all that stands in front of the first line feed, but for a carriage
return at the end of that. -/
theorem firstLine_append {line after : List Char} (inLine : '\n' ∉ line)
    (ended : ∀ c ∈ after.head?, c = '\n') :
    line = firstLine (line ++ after) ∨ line = firstLine (line ++ after) ++ ['\r'] := by
  induction line with
  | nil => exact .inl (firstLine_of_ended ended).symm
  | cons c line ih =>
    rw [List.mem_cons, not_or] at inLine
    obtain ⟨other, inLine⟩ := inLine
    rw [List.cons_append]
    by_cases returns : c = '\r' ∧ ∃ rest, line ++ after = '\n' :: rest
    · -- The line feed is not one of the line, so that nothing of the line follows the return.
      obtain ⟨rfl, rest, feed⟩ := returns
      cases line with
      | nil =>
        rw [feed]
        exact .inr rfl
      | cons d line =>
        obtain ⟨rfl, -⟩ := List.cons.inj feed
        exact absurd (.head _) inLine
    · have kept : firstLine (c :: (line ++ after)) = c :: firstLine (line ++ after) :=
        firstLine.eq_4 _ _ (fun same => other same.symm) fun rest same feed =>
          returns ⟨same, rest, feed⟩
      rw [kept, List.cons_append, List.cons_inj_right, List.cons_inj_right]
      exact ih inLine

/-- Every text has a first line: it is split where its first line feed stands, if it has one. -/
theorem exists_line (text : List Char) :
    ∃ line after, '\n' ∉ line ∧ (∀ c ∈ after.head?, c = '\n') ∧ text = line ++ after := by
  have behind : text.dropWhile (· ≠ '\n') = text.dropWhile (· ≠ '\n') := rfl
  obtain ⟨line, inLine, split, ended⟩ := dropWhile_eq_iff.mp behind
  refine ⟨line, _, fun feed => ?_, fun c first => ?_, split⟩
  · simpa using List.all_eq_true.mp inLine _ feed
  · simpa using ended c first

/-- Without the blanks at its ends the first line does not depend on how its break is written. -/
theorem trim_firstLine_append {line after : List Char} (inLine : '\n' ∉ line)
    (ended : ∀ c ∈ after.head?, c = '\n') : trim (firstLine (line ++ after)) = trim line := by
  rcases firstLine_append inLine ended with same | same
  · rw [← same]
  · rw [same, trim_append_blank rfl, ← same]

/-- Blanks behind a text change nothing in its first line, or stand at the end of that. -/
theorem trim_firstLine_append_blank {text after : List Char} (blank : allBlank after) :
    trim (firstLine (text ++ after)) = trim (firstLine text) := by
  obtain ⟨line, behind, inLine, ended, rfl⟩ := exists_line text
  rw [trim_firstLine_append inLine ended]
  cases behind with
  | nil =>
    -- The line goes on into the blanks.
    obtain ⟨more, behind, inMore, ended, rfl⟩ := exists_line after
    have joined : '\n' ∉ line ++ more := by simp [inLine, inMore]
    rw [List.append_nil, ← List.append_assoc, trim_firstLine_append joined ended]
    exact trim_append_blank (allBlank_append.mp blank).1
  | cons c behind =>
    rw [List.append_assoc]
    exact trim_firstLine_append inLine ended

theorem trim_firstLine_trimEnd (text : List Char) :
    trim (firstLine (trimEnd text)) = trim (firstLine text) := by
  obtain ⟨after, blank, split, -⟩ := exists_trimEnd text
  calc trim (firstLine (trimEnd text))
    _ = trim (firstLine (trimEnd text ++ after)) := (trim_firstLine_append_blank blank).symm
    _ = trim (firstLine text) := by rw [← split]

/-! ### Pieces -/

theorem pieces_eq_splitOn (separator : Char) (text : List Char) :
    pieces separator text = text.splitOn separator := by
  induction text with
  | nil => rfl
  | cons c text ih =>
    rw [pieces, List.splitOn_cons_eq_if_modifyHead, ih]
    by_cases same : c = separator
    · rw [if_pos same, if_pos (beq_iff_eq.mpr same)]
    · rw [if_neg same, if_neg (by simpa using same)]
      cases split : text.splitOn separator with
      | nil => exact absurd split (List.splitOn_ne_nil separator text)
      | cons piece rest => rfl

/-- Separators stand between pieces only. -/
theorem not_mem_of_mem_splitOn {separator : Char} {text piece : List Char}
    (member : piece ∈ text.splitOn separator) : separator ∉ piece := by
  induction text generalizing piece with
  | nil =>
    obtain rfl : piece = [] := by simpa using member
    exact List.not_mem_nil
  | cons c text ih =>
    rw [List.splitOn_cons_eq_if_modifyHead] at member
    split at member
    next =>
      rcases List.mem_cons.mp member with rfl | later
      · exact List.not_mem_nil
      · exact ih later
    next other =>
      -- The character goes in front of the first piece of the others.
      obtain ⟨first, rest, split⟩ := List.exists_cons_of_ne_nil (List.splitOn_ne_nil separator text)
      rw [split] at member ih
      rcases List.mem_cons.mp member with rfl | later
      · rw [List.mem_cons, not_or]
        exact ⟨fun same => other (beq_iff_eq.mpr same.symm), ih (.head _)⟩
      · exact ih (.tail _ later)

end QueryTree.Text
