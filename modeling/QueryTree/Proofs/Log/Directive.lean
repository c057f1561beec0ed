import QueryTree.Log.Filter
import QueryTree.Proofs.Pattern.Unnested
import QueryTree.Proofs.Text.Cut
import QueryTree.Proofs.Text.Offset

/-!
How directives are written. In a text without blanks at its ends the parts of a directive are cut
out where they are found, and what is read is just what `Written` describes.
-/
namespace QueryTree.Log.Directive

open Pattern (Unnested isPlain)

/-! ### Values of fields -/

/-- A text in which nothing has to be escaped is the value of a field. -/
theorem isValue_of_unnested {text : List Char} (unnested : Unnested text) :
    isValue text = true := by
  unfold isValue
  split
  next number =>
    -- The plus sign repeats what is in front of it.
    cases unnested with
    | plain plain | repeated plain => cases plain
  · exact unnested.isWellFormed

private theorem unnested_of_isExponent {text : List Char} (exponent : isExponent text = true) :
    Unnested text := by
  cases text with
  | nil => exact .nil
  | cons c text =>
    simp only [isExponent, Bool.and_eq_true, decide_eq_true_iff] at exponent
    obtain ⟨⟨letter, -⟩, digits⟩ := exponent
    have plain : isPlain c = true := by
      simp only [List.mem_cons, List.not_mem_nil, or_false] at letter
      rcases letter with rfl | rfl <;> rfl
    have all {digits : List Char} (digit : digits.all Char.isDigit = true) : Unnested digits :=
      .of_plain fun c member => Pattern.isPlain_of_isDigit (List.all_eq_true.mp digit c member)
    split at digits
    · exact .repeated plain (by decide) (all digits)
    · exact .plain plain (.plain rfl (all digits))
    · exact .plain plain (all digits)

theorem unnested_of_isDecimal {number : List Char} (decimal : isDecimal number = true) :
    Unnested number := by
  have digits {text digits rest : List Char} (split : text.span Char.isDigit = (digits, rest)) :
      text = digits ++ rest ∧ Unnested digits := by
    obtain ⟨rfl, digit, -⟩ := Text.span_eq_iff.mp split
    exact ⟨rfl, .of_plain fun c member => Pattern.isPlain_of_isDigit (digit c member)⟩
  cases split : number.span Char.isDigit with | mk whole rest
  obtain ⟨rfl, whole⟩ := digits split
  simp only [isDecimal, split] at decimal
  refine whole.append ?_
  by_cases point : ∃ behind, rest = '.' :: behind
  · obtain ⟨behind, rfl⟩ := point
    cases split : behind.span Char.isDigit with | mk fraction rest
    obtain ⟨rfl, fraction⟩ := digits split
    simp only [split, Bool.and_eq_true] at decimal
    exact .plain rfl (fraction.append (unnested_of_isExponent decimal.2))
  · split at decimal
    next behind => exact absurd ⟨behind, rfl⟩ point
    · rw [Bool.and_eq_true] at decimal
      exact unnested_of_isExponent decimal.2

/-- Every decimal number is the value of a field, with a sign or without. -/
theorem isValue_of_isDecimal {number : List Char} (decimal : isDecimal number = true) :
    isValue number = true ∧ isValue ('-' :: number) = true ∧ isValue ('+' :: number) = true := by
  have unnested := unnested_of_isDecimal decimal
  refine ⟨isValue_of_unnested unnested, isValue_of_unnested (.plain rfl unnested), ?_⟩
  exact Bool.or_eq_true_iff.mpr (.inl decimal)

/-! ### Scopes -/

/-- Whether a text may stand in front of brackets or of the sign that a level follows. -/
def IsTarget (text : List Char) : Prop :=
  ∀ c ∈ text, c ∉ ['=', '[']

/-- Whether a text may be the name of a span. -/
def IsSpan (text : List Char) : Prop :=
  ∀ c ∈ text, c ∉ [']', '\x7b']

/-- The scopes that texts begin with. -/
inductive Scope.Begins : List Char → Scope → Prop
  | target {start rest : List Char} : IsTarget start → (∀ c ∈ rest.head?, c = '=') →
    Begins (start ++ rest) ⟨some start, none, false, rest⟩
  | span {start name rest : List Char} : IsTarget start → IsSpan name →
    Begins (start ++ '[' :: (name ++ ']' :: rest)) ⟨target? start, none, true, rest⟩
  | field {start name field rest : List Char} : IsTarget start → IsSpan name → '\x7d' ∉ field →
    Begins (start ++ '[' :: (name ++ '\x7b' :: (field ++ '\x7d' :: ']' :: rest)))
      ⟨target? start, some (Text.width (start ++ '[' :: (name ++ ['\x7b'])), Text.width field),
        !name.isEmpty, rest⟩

variable {text start name field rest : List Char}

private theorem span_iff {stops run : List Char} :
    text.span (· ∉ stops) = (run, rest) ↔
      text = run ++ rest ∧ (∀ c ∈ run, c ∉ stops) ∧ ∀ c ∈ rest.head?, c ∈ stops := by
  rw [Text.span_eq_iff]
  simp only [decide_eq_true_iff, decide_eq_false_iff_not, not_not]

private theorem span_brace_iff :
    text.span (· ≠ '\x7d') = (field, rest) ↔
      text = field ++ rest ∧ '\x7d' ∉ field ∧ ∀ c ∈ rest.head?, c = '\x7d' := by
  rw [Text.span_eq_iff]
  simp only [decide_eq_true_iff, decide_eq_false_iff_not, not_not]
  refine and_congr_right fun _ => and_congr_left fun _ => ?_
  exact ⟨fun all member => all _ member rfl, fun closes c member same => closes (same ▸ member)⟩

/-- The field is found behind the brace in front of it. -/
private theorem field_place (start name back : List Char) :
    Text.width (start ++ '[' :: (name ++ '\x7b' :: back)) - Text.width back =
      Text.width (start ++ '[' :: (name ++ ['\x7b'])) := by
  have split : start ++ '[' :: (name ++ '\x7b' :: back) =
      start ++ '[' :: (name ++ ['\x7b']) ++ back := by simp
  rw [split, Text.width_append_sub]

theorem Scope.ofText?_of_begins {scope : Scope} (begins : Begins text scope) :
    ofText? text = some scope := by
  cases begins with
  | @target start rest target ended =>
    have found : (start ++ rest).span (· ∉ ['=', '[']) = (start, rest) :=
      span_iff.mpr ⟨rfl, target, fun c first => by simp [ended c first]⟩
    rw [ofText?, found]
    cases rest with
    | nil => rfl
    | cons c rest =>
      obtain rfl := ended c rfl
      rfl
  | @span start name rest target spans =>
    have brackets : (start ++ '[' :: (name ++ ']' :: rest)).span (· ∉ ['=', '[']) = _ :=
      span_iff.mpr ⟨rfl, target, by simp⟩
    have named : (name ++ ']' :: rest).span (· ∉ [']', '\x7b']) = _ :=
      span_iff.mpr ⟨rfl, spans, by simp⟩
    simp only [ofText?, brackets, named]
  | @field start name field rest target spans closes =>
    have brackets : (start ++ '[' :: (name ++ '\x7b' :: (field ++ '\x7d' :: ']' :: rest))).span
        (· ∉ ['=', '[']) = _ := span_iff.mpr ⟨rfl, target, by simp⟩
    have named : (name ++ '\x7b' :: (field ++ '\x7d' :: ']' :: rest)).span
        (· ∉ [']', '\x7b']) = _ := span_iff.mpr ⟨rfl, spans, by simp⟩
    have braces : (field ++ '\x7d' :: ']' :: rest).span (· ≠ '\x7d') = _ :=
      span_brace_iff.mpr ⟨rfl, closes, by simp⟩
    simp only [ofText?, brackets, named]
    -- A brace is not the end of the brackets.
    split
    next same => simp at same
    next same =>
      obtain ⟨rfl, rfl, rfl⟩ : _ ∧ _ ∧ _ := by simpa using same
      rw [braces, field_place]
      rfl
    next none => exact absurd rfl (none _ _ _)

theorem Scope.begins_of_ofText? {scope : Scope} (found : ofText? text = some scope) :
    Begins text scope := by
  unfold ofText? at found
  split at found
  next start brackets split =>
    obtain ⟨rfl, target, -⟩ := span_iff.mp split
    dsimp only at found
    split at found
    next name rest split =>
      obtain ⟨rfl, spans, -⟩ := span_iff.mp split
      cases found
      exact .span target spans
    next name c braces noEnd split =>
      obtain ⟨rfl, spans, ended⟩ := span_iff.mp split
      obtain rfl : c = '\x7b' := by
        have stops : c = ']' ∨ c = '\x7b' := by simpa using ended c rfl
        exact stops.resolve_left noEnd
      split at found
      next field c rest split =>
        obtain ⟨rfl, closes, ended⟩ := span_brace_iff.mp split
        obtain rfl : c = '\x7d' := ended c rfl
        cases found
        rw [field_place]
        exact .field target spans closes
      · cases found
    · cases found
  next start rest noBrackets split =>
    obtain ⟨rfl, target, ended⟩ := span_iff.mp split
    cases found
    refine .target target fun c first => ?_
    have stops : c = '=' ∨ c = '[' := by simpa using ended c first
    refine stops.resolve_right ?_
    rintro rfl
    obtain ⟨brackets, rfl⟩ := List.head?_eq_some_iff.mp first
    exact noBrackets brackets rfl

theorem Scope.ofText?_eq_some_iff {scope : Scope} :
    ofText? text = some scope ↔ Begins text scope :=
  ⟨begins_of_ofText?, ofText?_of_begins⟩

/-! ### Directives -/

/-- What may follow a scope, and the threshold that it says. -/
inductive Tail : List Char → Threshold → Prop
  | nothing : Tail [] (some .trace)
  | level {level : List Char} {threshold : Threshold} :
    threshold? level = some threshold → Tail ('=' :: level) threshold

/-- How directives are written in texts without blanks at their ends. -/
inductive Written : List Char → Directive → Prop
  /-- A threshold for all lines. -/
  | level {text : List Char} {threshold : Threshold} : IsTarget text →
    Threshold.ofWord? (String.ofList text) = some threshold →
    Written text ⟨none, none, false, threshold⟩
  /-- A target alone. -/
  | target {text : List Char} : IsTarget text → Threshold.ofWord? (String.ofList text) = none →
    Written text ⟨some text, none, false, some .trace⟩
  | limited {target level : List Char} {threshold : Threshold} : IsTarget target →
    threshold? level = some threshold →
    Written (target ++ '=' :: level) ⟨some target, none, false, threshold⟩
  | span {start name tail : List Char} {threshold : Threshold} : IsTarget start → IsSpan name →
    Tail tail threshold →
    Written (start ++ '[' :: (name ++ ']' :: tail)) ⟨target? start, none, true, threshold⟩
  | field {start name field tail : List Char} {known : String} {valued : Bool}
    {threshold : Threshold} : IsTarget start → IsSpan name → '\x7d' ∉ field →
    field? field = some (known, valued) → Tail tail threshold →
    Written (start ++ '[' :: (name ++ '\x7b' :: (field ++ '\x7d' :: ']' :: tail)))
      ⟨target? start, some known, !name.isEmpty || valued, threshold⟩

variable {scope : Scope}

/-- The target and the field of a scope are cut out where they are found. -/
theorem Scope.targetIn?_of_begins (begins : Begins text scope) :
    scope.targetIn? text = some scope.target := by
  have front (start back : List Char) :
      Text.cut? 0 (Text.width start) (start ++ back) = some start :=
    Text.cut?_eq_some_iff.mpr ⟨[], back, rfl, rfl, rfl⟩
  cases begins with
  | target => simp only [targetIn?, front, Option.map_some]
  | @span start | @field start =>
    cases start with
    | nil => rfl
    | cons c start => exact congrArg (Option.map some) (front (c :: start) _)

theorem Scope.fieldIn?_field (start name field rest : List Char) (target : Option (List Char))
    (named : Bool) :
    fieldIn? (start ++ '[' :: (name ++ '\x7b' :: (field ++ '\x7d' :: ']' :: rest)))
        ⟨target, some (Text.width (start ++ '[' :: (name ++ ['\x7b'])), Text.width field), named,
          rest⟩ =
      (field? field).map fun (known, valued) => (some known, valued) := by
  have found : Text.cut? (Text.width (start ++ '[' :: (name ++ ['\x7b']))) (Text.width field)
      (start ++ '[' :: (name ++ '\x7b' :: (field ++ '\x7d' :: ']' :: rest))) = some field :=
    Text.cut?_eq_some_iff.mpr
      ⟨start ++ '[' :: (name ++ ['\x7b']), '\x7d' :: ']' :: rest, by simp, rfl, rfl⟩
  simp only [fieldIn?, found, Option.bind_some]

theorem Scope.exists_front (begins : Begins text scope) : ∃ front, text = front ++ scope.rest := by
  cases begins with
  | @target start => exact ⟨start, rfl⟩
  | @span start name => exact ⟨start ++ '[' :: (name ++ [']']), by simp⟩
  | @field start name field =>
    exact ⟨start ++ '[' :: (name ++ '\x7b' :: (field ++ ['\x7d', ']'])), by simp⟩

theorem Scope.thresholdIn?_eq_some_iff (begins : Begins text scope) {threshold : Threshold} :
    scope.thresholdIn? text text = some threshold ↔ Tail scope.rest threshold := by
  obtain ⟨front, split⟩ := exists_front begins
  have behind (level : List Char) (signed : scope.rest = '=' :: level) :
      Text.dropTo? (Text.width text - Text.width level) text = some level := by
    have place := Text.width_append_sub (front ++ ['=']) level
    refine Text.dropTo?_eq_some_iff.mpr ⟨front ++ ['='], by simp [split, signed], ?_⟩
    rw [← place, split, signed]
    simp
  unfold thresholdIn?
  constructor
  · intro said
    split at said
    next nothing =>
      cases said
      rw [nothing]
      exact .nothing
    next level signed =>
      rw [behind level signed] at said
      rw [signed]
      exact .level said
    next => cases said
  · intro tail
    generalize scope.rest = rest at tail behind
    cases tail with
    | nothing => rfl
    | level said => simp [behind _ rfl, said]

private theorem ofScope?_eq_some_iff (begins : Scope.Begins text scope) {directive : Directive} :
    ofScope? text text scope = some directive ↔
      ∃ known valued threshold, scope.fieldIn? text = some (known, valued) ∧
        Tail scope.rest threshold ∧
        ⟨scope.target, known, scope.named || valued, threshold⟩ = directive := by
  simp only [ofScope?, Scope.targetIn?_of_begins begins, Option.bind_eq_bind, Option.bind_some,
    Option.bind_eq_some_iff, Scope.thresholdIn?_eq_some_iff begins, Prod.exists, Option.some.injEq,
    exists_and_left]

private theorem written_of_ofScope? (begins : Scope.Begins text scope) (other : ¬ IsTarget text)
    {directive : Directive} (read : ofScope? text text scope = some directive) :
    Written text directive := by
  obtain ⟨known, valued, threshold, found, tail, rfl⟩ := (ofScope?_eq_some_iff begins).mp read
  cases begins with
  | @target start rest target ended =>
    cases found
    cases tail with
    | nothing => exact absurd (by rwa [List.append_nil]) other
    | level said => exact .limited target said
  | span target spans =>
    cases found
    exact .span target spans tail
  | field target spans closes =>
    rw [Scope.fieldIn?_field] at found
    obtain ⟨⟨name, valued⟩, known, same⟩ := Option.map_eq_some_iff.mp found
    cases same
    exact .field target spans closes known tail

private theorem exists_scope_of_written {directive : Directive} (written : Written text directive)
    (other : ¬ IsTarget text) :
    ∃ scope, Scope.Begins text scope ∧ ofScope? text text scope = some directive := by
  cases written with
  | level target | target target => exact absurd target other
  | @limited target level threshold plain said =>
    have begins : Scope.Begins (target ++ '=' :: level) ⟨some target, none, false, '=' :: level⟩ :=
      .target plain (by simp)
    exact ⟨_, begins, (ofScope?_eq_some_iff begins).mpr
      ⟨none, false, threshold, rfl, .level said, rfl⟩⟩
  | @span start name tail threshold target spans said =>
    have begins : Scope.Begins (start ++ '[' :: (name ++ ']' :: tail)) _ := .span target spans
    exact ⟨_, begins, (ofScope?_eq_some_iff begins).mpr ⟨none, false, threshold, rfl, said, rfl⟩⟩
  | @field start name field tail known valued threshold target spans closes read said =>
    have begins : Scope.Begins
        (start ++ '[' :: (name ++ '\x7b' :: (field ++ '\x7d' :: ']' :: tail))) _ :=
      .field target spans closes
    refine ⟨_, begins, (ofScope?_eq_some_iff begins).mpr
      ⟨some known, valued, threshold, ?_, said, rfl⟩⟩
    rw [Scope.fieldIn?_field, read]
    rfl

private theorem ofWord?_iff_written (target : IsTarget text) {directive : Directive} :
    (match Threshold.ofWord? (String.ofList text) with
      | some threshold => some ⟨none, none, false, threshold⟩
      | none => some ⟨some text, none, false, some .trace⟩) = some directive ↔
      Written text directive := by
  constructor
  · intro read
    split at read
    next threshold word =>
      cases read
      exact .level target word
    next word =>
      cases read
      exact .target target word
  · intro written
    cases written with
    | level _ word | target _ word => rw [word]
    -- All others have a sign or a bracket in them.
    | limited => exact absurd (by simp) (target '=' (by simp))
    | span | field => exact absurd (by simp) (target '[' (by simp))

/-- A text without blanks at its ends is read as the directive that is written in it, if it begins
as one may. -/
theorem ofText?_eq_some_iff (bare : Text.Bare text) {directive : Directive} :
    ofText? text = some directive ↔ text.head?.any mayOpen ∧ Written text directive := by
  have whole : Text.trim text = text := Text.trim_eq_iff.mpr ⟨⟨[], [], rfl, rfl, by simp⟩, bare⟩
  have isTarget_iff : text.all (· ∉ ['=', '[']) = true ↔ IsTarget text := by
    rw [List.all_eq_true]
    simp only [decide_eq_true_iff, IsTarget]
  unfold ofText?
  rw [whole]
  by_cases opens : text.head?.any mayOpen = true
  · simp only [opens, Bool.not_true, Bool.false_eq_true, if_false, true_and]
    by_cases target : IsTarget text
    · rw [if_pos (isTarget_iff.mpr target)]
      exact ofWord?_iff_written target
    · rw [if_neg (mt isTarget_iff.mp target), Option.bind_eq_some_iff]
      constructor
      · rintro ⟨scope, found, read⟩
        exact written_of_ofScope? (Scope.begins_of_ofText? found) target read
      · intro written
        obtain ⟨scope, begins, read⟩ := exists_scope_of_written written target
        exact ⟨scope, Scope.ofText?_of_begins begins, read⟩
  · simp [opens]

end QueryTree.Log.Directive
