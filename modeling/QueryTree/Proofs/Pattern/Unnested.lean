import QueryTree.Proofs.Pattern.Reading

/-!
Patterns without groups, classes and escapes. In most texts nothing has to be escaped, and they are
patterns as they stand: only a few characters mean something to what is around them, and of these
the signs of repetitions may follow any other character.
-/
namespace QueryTree.Pattern

/-- The signs of repetitions. -/
def repetitionSigns : List Char :=
  ['*', '+', '?']

/-- Whether a character is a part of a pattern by itself, wherever it stands outside of classes. -/
def isPlain (c : Char) : Bool :=
  c ∉ ['(', ')', '|', '[', '\x7b', '\\'] ++ repetitionSigns

theorem isPlain_of_isDigit {c : Char} (digit : c.isDigit = true) : isPlain c = true := by
  unfold isPlain
  refine decide_eq_true fun special => ?_
  simp only [repetitionSigns, List.cons_append, List.nil_append, List.mem_cons,
    List.not_mem_nil, or_false] at special
  rcases special with rfl | rfl | rfl | rfl | rfl | rfl | rfl | rfl | rfl <;>
    exact absurd digit (by decide)

/-- The texts of plain characters, each of which may have the sign of a repetition behind it. -/
inductive Unnested : List Char → Prop
  | nil : Unnested []
  | plain {c : Char} {text : List Char} (plain : isPlain c = true) (unnested : Unnested text) :
    Unnested (c :: text)
  | repeated {c sign : Char} {text : List Char} (plain : isPlain c = true)
    (repeats : sign ∈ repetitionSigns) (unnested : Unnested text) : Unnested (c :: sign :: text)

namespace Unnested

variable {text others : List Char}

theorem append (front : Unnested text) (behind : Unnested others) : Unnested (text ++ others) := by
  induction front with
  | nil => exact behind
  | plain plain _ ih => exact .plain plain ih
  | repeated plain repeats _ ih => exact .repeated plain repeats ih

theorem of_plain (plain : ∀ c ∈ text, isPlain c = true) : Unnested text := by
  induction text with
  | nil => exact .nil
  | cons c text ih =>
    rw [List.forall_mem_cons] at plain
    exact .plain plain.1 (ih plain.2)

end Unnested

namespace Reading

variable {r : Reading} {c : Char}

/-- What holds of the reading of a text without groups, classes and escapes. -/
structure Flat (r : Reading) : Prop where
  mode : (∃ part, r.mode = .sequence part) ∨ ∃ height, r.mode = .repetition height
  comment : r.comment = false
  flags : r.flags = .initial
  groups : r.groups = []
  branches : r.branches = .empty
  highest : r.parts.highest ≤ 1

theorem Flat.start : Flat .start :=
  ⟨.inl ⟨none, rfl⟩, rfl, rfl, rfl, rfl, Nat.zero_le _⟩

/-- With the flags of the start, nothing is passed over. -/
theorem Flat.next?_eq (flat : Flat r) (c : Char) (rest : List Char) :
    r.next? c rest = r.read? c rest := by
  simp [next?, flat.comment, flat.flags, Flags.initial]

theorem inSequence?_plain (flags : r.flags = .initial) (plain : isPlain c = true)
    (last : Option Nat) : r.inSequence? last c = some (r.addPart 0) := by
  have special : c ∉ ['(', ')', '|', '[', '\x7b', '\\'] ++ repetitionSigns :=
    of_decide_eq_true plain
  simp only [repetitionSigns, List.cons_append, List.nil_append, List.mem_cons, not_or] at special
  unfold inSequence?
  split <;> simp_all [single?, Flags.initial]

/-- A plain character is a part, whatever is in front of it. -/
theorem Flat.next?_plain (flat : Flat r) (plain : isPlain c = true) (rest : List Char) :
    r.next? c rest = some (r.addPart 0) := by
  rw [flat.next?_eq]
  unfold read?
  rcases flat.mode with ⟨part, mode⟩ | ⟨height, mode⟩
  · simp only [mode]
    exact inSequence?_plain flat.flags plain part
  · -- A second question mark would belong to the repetition, but that is not plain.
    have sign : c ≠ '?' := by
      rintro rfl
      cases plain
    simp only [mode, if_neg sign]
    exact inSequence?_plain flat.flags plain (some height)

theorem Flat.addPart (flat : Flat r) : Flat (r.addPart 0) :=
  ⟨.inl ⟨some 0, rfl⟩, flat.comment, flat.flags, flat.groups, flat.branches,
    Nat.max_le.mpr ⟨flat.highest, Nat.zero_le _⟩⟩

/-- The sign of a repetition may follow a single character. -/
theorem Flat.next?_repeated (flat : Flat (r.addPart 0)) (repeats : c ∈ repetitionSigns)
    (rest : List Char) : (r.addPart 0).next? c rest = some ((r.addPart 0).repeated 0) := by
  rw [flat.next?_eq]
  simp only [repetitionSigns, List.mem_cons, List.not_mem_nil, or_false] at repeats
  rcases repeats with rfl | rfl | rfl <;> rfl

theorem Flat.repeated (flat : Flat r) : Flat (r.repeated 0) :=
  ⟨.inr ⟨1, rfl⟩, flat.comment, flat.flags, flat.groups, flat.branches,
    Nat.max_le.mpr ⟨flat.highest, Nat.le_refl _⟩⟩

theorem Flat.run? (flat : Flat r) {text : List Char} (unnested : Unnested text) :
    ∃ last, r.run? text = some last ∧ Flat last := by
  induction unnested generalizing r with
  | nil => exact ⟨r, rfl, flat⟩
  | plain plain _ ih =>
    simp only [Reading.run?, flat.next?_plain plain]
    exact ih flat.addPart
  | repeated plain repeats _ ih =>
    simp only [Reading.run?, flat.next?_plain plain, flat.addPart.next?_repeated repeats]
    exact ih flat.addPart.repeated

theorem Flat.isComplete (flat : Flat r) : r.isComplete = true := by
  have parts : r.parts.height ≤ 2 := by
    have := flat.highest
    unfold Parts.height
    split <;> omega
  -- A list of repetitions, in the only branch.
  have low : r.height ≤ heightLimit := by
    rw [Reading.height, flat.branches]
    exact Nat.le_trans (Nat.max_le.mpr ⟨Nat.zero_le _, parts⟩) (by decide)
  unfold Reading.isComplete
  rcases flat.mode with ⟨part, mode⟩ | ⟨height, mode⟩
  · simp [mode, flat.groups, low]
  · simp [mode, flat.groups, low]

end Reading

theorem Unnested.isWellFormed {text : List Char} (unnested : Unnested text) :
    isWellFormed text = true := by
  obtain ⟨last, read, flat⟩ := Reading.Flat.start.run? unnested
  rw [Pattern.isWellFormed, read]
  exact flat.isComplete

end QueryTree.Pattern
