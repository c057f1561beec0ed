import QueryTree.Text.Alphanumeric
import QueryTree.Text.Invisible

/-!
The tables of characters. Each lists its ranges in ascending order, and none of them says anything
about ASCII.
-/
namespace QueryTree.Text

/-- Whether ranges are in ascending order, and none begins below a code point. -/
def ascendFrom (least : Nat) : List (Nat × Nat) → Bool
  | [] => true
  | (low, high) :: ranges => least ≤ low && low ≤ high && ascendFrom (high + 1) ranges

theorem not_any_of_ascendFrom {least code : Nat} {ranges : List (Nat × Nat)}
    (ascend : ascendFrom least ranges = true) (below : code < least) :
    (ranges.any fun (low, high) => low ≤ code && code ≤ high) = false := by
  induction ranges generalizing least with
  | nil => rfl
  | cons range ranges ih =>
    obtain ⟨low, high⟩ := range
    simp only [ascendFrom, Bool.and_eq_true, decide_eq_true_iff] at ascend
    obtain ⟨⟨begins, ordered⟩, rest⟩ := ascend
    have outside : ¬ low ≤ code := by omega
    rw [List.any_cons, ih rest (by omega)]
    simp [outside]

/-- Below the first range no character is held. -/
theorem Ranges.holds_eq_false {ranges : Ranges} {least : Nat} {c : Char}
    (ascend : ascendFrom least ranges.toList = true) (below : c.toNat < least) :
    ranges.holds c = false := by
  rw [Ranges.holds, ← Array.any_toList]
  exact not_any_of_ascendFrom ascend below

theorem ascendFrom_letters : ascendFrom 128 letters.toList = true := by
  decide +kernel

theorem ascendFrom_numerals : ascendFrom 128 numerals.toList = true := by
  decide +kernel

theorem ascendFrom_invisible : ascendFrom 128 invisible.toList = true := by
  decide +kernel

variable {c : Char}

/-- In ASCII the letters are those of the alphabet. -/
theorem isLetter_of_ascii (ascii : c.toNat < 128) : isLetter c = c.isAlpha := by
  rw [isLetter, Ranges.holds_eq_false ascendFrom_letters ascii, Bool.or_false]

theorem isAlphanumeric_of_ascii (ascii : c.toNat < 128) : isAlphanumeric c = c.isAlphanum := by
  rw [isAlphanumeric, isLetter_of_ascii ascii, Ranges.holds_eq_false ascendFrom_numerals ascii,
    Bool.or_false]
  rfl

theorem isInvisible_of_ascii (ascii : c.toNat < 128) : isInvisible c = false :=
  Ranges.holds_eq_false ascendFrom_invisible ascii

end QueryTree.Text
