import QueryTree.Log.Severity
import QueryTree.Pattern.Reading
import QueryTree.Text.Offset

/-!
The directives of a filter. A directive is a threshold for all lines, or a scope with a threshold
behind `=` for the lines in its scope; a scope alone, or with nothing behind the `=`, lets all its
lines pass. A scope is what a target starts with, or brackets, or the one in front of the other.
Between the brackets stands the name of a span, a field in braces, or the one in front of the other.
-/
namespace QueryTree.Log

/-- A directive of a filter. -/
structure Directive where
  /-- What the targets of its lines start with; a directive without one is for all targets. -/
  target : Option (List Char)
  /-- The field that its lines have; a directive without one is for all lines. -/
  field : Option String
  /-- Whether it is only for what happens in a span: it names a span or the value of a field. -/
  inSpan : Bool
  threshold : Threshold
  deriving DecidableEq, Repr

namespace Directive

/-! ### Values of fields -/

/-- Whether a text is the exponent of a number, or nothing. -/
def isExponent : List Char → Bool
  | [] => true
  | c :: text =>
    let digits := match text with
      | '+' :: digits | '-' :: digits => digits
      | digits => digits
    c ∈ ['e', 'E'] && !digits.isEmpty && digits.all Char.isDigit

/-- Whether a text is a decimal number without a sign: digits, a point among them or beside them,
and an exponent if there is one. -/
def isDecimal (text : List Char) : Bool :=
  let (whole, rest) := text.span Char.isDigit
  let (fraction, rest) := match rest with
    | '.' :: rest => rest.span Char.isDigit
    | _ => ([], rest)
  !(whole ++ fraction).isEmpty && isExponent rest

/-- Whether a text can be the value of a field: a number, which may have a sign, or a pattern. All
numbers are patterns but those with a plus sign. -/
def isValue : List Char → Bool
  | '+' :: number =>
    isDecimal number || (String.ofList number).toLower ∈ ["inf", "infinity", "nan"]
  | pattern => Pattern.isWellFormed pattern

/-! ### Reading -/

/-- Whether a directive may begin with a character. -/
def mayOpen (c : Char) : Bool :=
  c ∈ ['-', ':', '_', '['] || Text.isAlphanumeric c

/-- The threshold that is written behind `=`. -/
def threshold? (level : List Char) : Option Threshold :=
  if level.isEmpty then some (some .trace) else Threshold.ofWord? (String.ofList level)

/-- The field between braces, and whether a value is given. What follows a second `=` does not
count. -/
def field? (text : List Char) : Option (String × Bool) :=
  match Text.pieces '=' text with
  | [] | [[]] => none
  | [name] => some (String.ofList name, false)
  | name :: value :: _ => if isValue value then some (String.ofList name, true) else none

/-- Which lines a directive is for, as it is found in a text, and what follows there. -/
structure Scope where
  /-- What stands in front of the brackets or of `=`. Only brackets may stand alone. -/
  target : Option (List Char)
  /-- The place and the length of what stands between braces. -/
  field : Option (Nat × Nat)
  /-- Whether a span is named. -/
  named : Bool
  /-- What follows: nothing, or `=` and a level. -/
  rest : List Char
  deriving DecidableEq, Repr

/-- The target in front of brackets, if there is one. -/
def target? (start : List Char) : Option (List Char) :=
  if start.isEmpty then none else some start

/-- The scope that a text begins with, if its brackets and braces are closed. -/
def Scope.ofText? (text : List Char) : Option Scope :=
  match text.span (· ∉ ['=', '[']) with
  | (start, '[' :: brackets) =>
    match brackets.span (· ∉ [']', '\x7b']) with
    | (_, ']' :: rest) => some ⟨target? start, none, true, rest⟩
    | (name, _ :: braces) =>
      match braces.span (· ≠ '\x7d') with
      | (field, _ :: ']' :: rest) =>
        let place := Text.width text - Text.width braces
        some ⟨target? start, some (place, Text.width field), !name.isEmpty, rest⟩
      | _ => none
    | _ => none
  | (start, rest) => some ⟨some start, none, false, rest⟩

/-- The target of a scope, cut out of a text. -/
def Scope.targetIn? (text : List Char) (scope : Scope) : Option (Option (List Char)) :=
  match scope.target with
  | some start => (Text.cut? 0 (Text.width start) text).map some
  | none => some none

/-- The field of a scope, cut out of a text, and whether a value is given. -/
def Scope.fieldIn? (text : List Char) (scope : Scope) : Option (Option String × Bool) :=
  match scope.field with
  | some (place, length) =>
    ((Text.cut? place length text).bind field?).map fun (field, valued) => (some field, valued)
  | none => some (none, false)

/-- The threshold behind a scope that is found in `trimmed`, its level cut out of a text. -/
def Scope.thresholdIn? (text trimmed : List Char) (scope : Scope) : Option Threshold :=
  match scope.rest with
  | [] => some (some .trace)
  | '=' :: level => (Text.dropTo? (Text.width trimmed - Text.width level) text).bind threshold?
  | _ => none

/-- The directive with a scope that is found in `trimmed`. Its parts are cut out of the whole text
at the places counted there. -/
def ofScope? (text trimmed : List Char) (scope : Scope) : Option Directive := do
  let target ← scope.targetIn? text
  let (field, valued) ← scope.fieldIn? text
  let threshold ← scope.thresholdIn? text trimmed
  some ⟨target, field, scope.named || valued, threshold⟩

/-- The directive that a text stands for. A scope is found in the text without the blanks at either
end, but its parts are cut out of the whole text. So blanks in front shift what is cut out, and
blanks at the end belong to a last part. -/
def ofText? (text : List Char) : Option Directive :=
  let trimmed := Text.trim text
  if !trimmed.head?.any mayOpen then none
  else if trimmed.all (· ∉ ['=', '[']) then
    match Threshold.ofWord? (String.ofList text) with
    | some threshold => some ⟨none, none, false, threshold⟩
    | none => some ⟨some text, none, false, some .trace⟩
  else (Scope.ofText? trimmed).bind (ofScope? text trimmed)

/-! ### Deciding -/

/-- How long the target is, from `0` for none. -/
def reach (directive : Directive) : Nat :=
  match directive.target with
  | some target => target.length + 1
  | none => 0

/-- Whether the directive is for lines with a target and fields, outside of spans. -/
def covers (directive : Directive) (target : List Char) (fields : List String) : Bool :=
  !directive.inSpan && directive.target.all (·.isPrefixOf target) &&
    directive.field.all (· ∈ fields)

/-- Whether a field weighs at least as much as another: more than none, and more than those in
front of it in the alphabet. -/
def outweighs : (field other : Option String) → Bool
  | _, none => true
  | none, some _ => false
  | some field, some other => other ≤ field

/-- The more special of a directive and one that stands behind it, which wins a tie. The longer
target counts first, then the field. -/
def stronger (decisive : Option Directive) (directive : Directive) : Option Directive :=
  match decisive with
  | some other =>
    if directive.reach > other.reach ||
        directive.reach == other.reach && outweighs directive.field other.field then
      some directive
    else some other
  | none => some directive

end Directive
end QueryTree.Log
