import Mathlib.Tactic.IntervalCases
import QueryTree.Proofs.Text.Cut
import QueryTree.Proofs.Text.Ranges
import QueryTree.Text.Quoted

/-!
What quoting is for. A quoted text keeps to its line: whatever it stands for, it has none but
characters with a shape of their own. And it tells the text: no two texts are quoted alike.
-/
namespace QueryTree.Text

/-! ### Numbers -/

/-- The digits of hexadecimal numbers. -/
def hexDigits : List Char :=
  ['0', '1', '2', '3', '4', '5', '6', '7', '8', '9', 'a', 'b', 'c', 'd', 'e', 'f']

/-- The number that hexadecimal digits stand for. -/
def hexValue (digits : List Char) : Nat :=
  digits.foldl (fun value c => value * 16 + hexDigits.idxOf c) 0

private theorem idxOf_digitChar {digit : Nat} (small : digit < 16) :
    hexDigits.idxOf (Nat.digitChar digit) = digit := by
  interval_cases digit <;> rfl

theorem hexValue_toDigits (n : Nat) : hexValue (Nat.toDigits 16 n) = n := by
  induction n using Nat.strongRecOn with
  | ind n ih =>
    by_cases small : n < 16
    · rw [Nat.toDigits_of_lt_base small, hexValue, List.foldl_cons, List.foldl_nil, Nat.zero_mul,
        Nat.zero_add, idxOf_digitChar small]
    · have front : hexValue (Nat.toDigits 16 (n / 16)) = n / 16 := ih (n / 16) (by omega)
      rw [Nat.toDigits_of_base_le (by decide) (by omega), hexValue, List.foldl_append,
        List.foldl_cons, List.foldl_nil, idxOf_digitChar (Nat.mod_lt n (by decide))]
      unfold hexValue at front
      rw [front]
      omega

theorem mem_hexDigits {n : Nat} {c : Char} (member : c ∈ Nat.toDigits 16 n) : c ∈ hexDigits := by
  have mem {digit : Nat} (small : digit < 16) : Nat.digitChar digit ∈ hexDigits := by
    rw [← List.idxOf_lt_length_iff, idxOf_digitChar small]
    exact small
  induction n using Nat.strongRecOn with
  | ind n ih =>
    rw [Nat.toDigits_eq_if (by decide)] at member
    split at member
    next small =>
      obtain rfl := List.mem_singleton.mp member
      exact mem small
    next large =>
      rcases List.mem_append.mp member with front | last
      · exact ih (n / 16) (by omega) front
      · obtain rfl := List.mem_singleton.mp last
        exact mem (Nat.mod_lt n (by decide))

/-! ### Single characters -/

/-- Whether a character has a shape of its own on a line. -/
def isShown (c : Char) : Bool :=
  !(c.toNat < 0x20 || c.toNat == 0x7f || isInvisible c)

theorem isShown_of_ascii {c : Char} (low : 0x20 ≤ c.toNat) (high : c.toNat < 0x7f) :
    isShown c = true := by
  have beyond : ¬ c.toNat < 0x20 := by omega
  have delete : c.toNat ≠ 0x7f := by omega
  simp [isShown, beyond, delete, isInvisible_of_ascii (show c.toNat < 128 by omega)]

/-- What stands behind a backslash, and the character that it stands for. -/
def escapes : List (Char × Char) :=
  [('0', '\x00'), ('t', '\t'), ('r', '\r'), ('n', '\n'), ('"', '"'), ('\\', '\\')]

/-- The ways to show a character between double quotes. -/
inductive Shows : Char → List Char → Prop
  | plain {c : Char} (shape : isShown c = true) (other : c ≠ '\\') : Shows c [c]
  | escaped {sign c : Char} (listed : (sign, c) ∈ escapes) : Shows c ['\\', sign]
  | number (c : Char) : Shows c ('\\' :: 'u' :: '\x7b' :: (Nat.toDigits 16 c.toNat ++ ['\x7d']))

theorem shows_quotedChar (c : Char) : Shows c (quotedChar c).toList := by
  unfold quotedChar
  -- The escapes come first.
  iterate 6
    split
    next same =>
      subst same
      exact .escaped (by decide)
  split
  · have digits : (byNumber c).toList =
        '\\' :: 'u' :: '\x7b' :: (Nat.toDigits 16 c.toNat ++ ['\x7d']) := by simp [byNumber]
    rw [digits]
    exact .number c
  next shape =>
    have bare : c.toString.toList = [c] := by simp
    rw [bare]
    exact .plain (by simpa [isShown] using shape) ‹_›

variable {c d : Char} {shown other rest behind : List Char}

theorem Shows.isShown (shows : Shows c shown) : ∀ d ∈ shown, isShown d = true := by
  have ascii (chars : List Char)
      (all : chars.all (fun d => 0x20 ≤ d.toNat && d.toNat < 0x7f) = true) :
      ∀ d ∈ chars, Text.isShown d = true := by
    intro d member
    have range := List.all_eq_true.mp all d member
    rw [Bool.and_eq_true, decide_eq_true_iff, decide_eq_true_iff] at range
    exact isShown_of_ascii range.1 range.2
  cases shows with
  | plain shape => simpa using shape
  | @escaped sign c listed =>
    have signs := ascii ('\\' :: escapes.map Prod.fst) (by decide)
    have sign : sign ∈ escapes.map Prod.fst := List.mem_map_of_mem listed
    simp only [List.mem_cons, List.not_mem_nil, or_false, forall_eq_or_imp, forall_eq]
    exact ⟨signs '\\' (by simp), signs _ (List.mem_cons_of_mem _ sign)⟩
  | number c =>
    intro d member
    have signs := ascii ('\\' :: 'u' :: '\x7b' :: '\x7d' :: hexDigits) (by decide)
    refine signs d ?_
    simp only [List.mem_cons, List.mem_append, List.not_mem_nil, or_false] at member ⊢
    rcases member with rfl | rfl | rfl | digit | rfl
    · simp
    · simp
    · simp
    · simp [mem_hexDigits digit]
    · simp

/-- What is shown of a character can be told from what follows it, and tells the character. -/
theorem Shows.append_inj (shows : Shows c shown) (shows' : Shows d other)
    (same : shown ++ rest = other ++ behind) : c = d ∧ rest = behind := by
  have functional : ∀ p ∈ escapes, ∀ q ∈ escapes, p.1 = q.1 → p.2 = q.2 := by decide
  have noNumber : ∀ p ∈ escapes, p.1 ≠ 'u' := by decide
  cases shows with
  | plain shape slash =>
    cases shows' with
    | plain => simpa using same
    | escaped | number => exact absurd (List.cons.inj same).1 slash
  | @escaped sign c listed =>
    cases shows' with
    | plain shape slash => exact absurd (List.cons.inj same).1.symm slash
    | escaped listed' =>
      obtain ⟨signs, rest⟩ : _ ∧ _ := by simpa using same
      exact ⟨functional _ listed _ listed' signs, rest⟩
    | number =>
      obtain ⟨sign, -⟩ : sign = 'u' ∧ _ := by simpa using same
      exact absurd sign (noNumber _ listed)
  | number c =>
    cases shows' with
    | plain shape slash => exact absurd (List.cons.inj same).1.symm slash
    | @escaped sign d listed =>
      obtain ⟨sign, -⟩ : 'u' = sign ∧ _ := by simpa using same
      exact absurd sign.symm (noNumber _ listed)
    | number d =>
      -- The brace is no digit, so that both numbers end at it.
      have digits (n : Nat) (rest : List Char) :
          (Nat.toDigits 16 n ++ '\x7d' :: rest).span (· ≠ '\x7d') =
            (Nat.toDigits 16 n, '\x7d' :: rest) := by
        refine span_eq_iff.mpr ⟨rfl, fun c member => ?_, by simp⟩
        have apart : hexDigits.all (· ≠ '\x7d') = true := by decide
        exact List.all_eq_true.mp apart c (mem_hexDigits member)
      have tails : Nat.toDigits 16 c.toNat ++ '\x7d' :: rest =
          Nat.toDigits 16 d.toNat ++ '\x7d' :: behind := by simpa using same
      have pair := (digits _ _).symm.trans ((congrArg _ tails).trans (digits _ _))
      obtain ⟨numbers, rests⟩ := Prod.mk.inj pair
      have codes := congrArg hexValue numbers
      rw [hexValue_toDigits, hexValue_toDigits] at codes
      exact ⟨Char.toNat_inj.mp codes, (List.cons.inj rests).2⟩

/-! ### Whole texts -/

theorem toList_quoted (s : String) :
    (quoted s).toList = '"' :: (s.toList.flatMap (fun c => (quotedChar c).toList) ++ ['"']) := by
  simp [quoted, List.flatMap_map]

/-- A quoted text keeps to its line, and all of it is seen. -/
theorem isShown_of_mem_quoted {s : String} (member : c ∈ (quoted s).toList) : isShown c = true := by
  rw [toList_quoted, List.mem_cons, List.mem_append, List.mem_singleton] at member
  rcases member with rfl | inside | rfl
  · exact isShown_of_ascii (by decide) (by decide)
  · obtain ⟨d, -, shown⟩ := List.mem_flatMap.mp inside
    exact (shows_quotedChar d).isShown c shown
  · exact isShown_of_ascii (by decide) (by decide)

private theorem flatMap_quotedChar_inj {text others : List Char}
    (same : text.flatMap (fun c => (quotedChar c).toList) =
      others.flatMap (fun c => (quotedChar c).toList)) : text = others := by
  have nonempty (c : Char) : (quotedChar c).toList ≠ [] := by
    intro none
    have shows := shows_quotedChar c
    rw [none] at shows
    cases shows
  induction text generalizing others with
  | nil =>
    cases others with
    | nil => rfl
    | cons d others => exact absurd (List.append_eq_nil_iff.mp same.symm).1 (nonempty d)
  | cons c text ih =>
    cases others with
    | nil => exact absurd (List.append_eq_nil_iff.mp same).1 (nonempty c)
    | cons d others =>
      rw [List.flatMap_cons, List.flatMap_cons] at same
      obtain ⟨rfl, rest⟩ := (shows_quotedChar c).append_inj (shows_quotedChar d) same
      rw [ih rest]

/-- No two texts are quoted alike. -/
theorem quoted_injective {s t : String} (same : quoted s = quoted t) : s = t := by
  have chars := congrArg String.toList same
  rw [toList_quoted, toList_quoted, List.cons.injEq, List.append_cancel_right_eq] at chars
  exact String.toList_inj.mp (flatMap_quotedChar_inj chars.2)

/-- A text that may be absent is told from its quotation too. -/
theorem quotedOption_injective {s t : Option String} (same : quotedOption s = quotedOption t) :
    s = t := by
  have other (s : String) : "None" ≠ "Some(" ++ quoted s ++ ")" := by
    intro alike
    have chars := congrArg String.toList alike
    simp at chars
  cases s with
  | none =>
    cases t with
    | none => rfl
    | some t => exact absurd same (other t)
  | some s =>
    cases t with
    | none => exact absurd same.symm (other s)
    | some t =>
      have inner : quoted s = quoted t := by simpa [quotedOption] using same
      rw [quoted_injective inner]

end QueryTree.Text
