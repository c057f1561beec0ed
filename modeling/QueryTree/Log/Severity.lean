/-!
How important a line of a log is, and the threshold that lets it through.
-/
namespace QueryTree.Log

/-- The importance of a line, from the gravest down to the most detailed. -/
inductive Severity where
  | error
  | warn
  | info
  | debug
  | trace
  deriving DecidableEq, Repr

namespace Severity

/-- The position from the gravest on. -/
def rank : Severity → Nat
  | .error => 1
  | .warn => 2
  | .info => 3
  | .debug => 4
  | .trace => 5

/-- The word in front of a line. -/
def word : Severity → String
  | .error => "ERROR"
  | .warn => "WARN"
  | .info => "INFO"
  | .debug => "DEBUG"
  | .trace => "TRACE"

end Severity

/-- The least important severity that passes; `none` lets nothing pass. -/
abbrev Threshold := Option Severity

namespace Threshold

/-- Whether a line of a severity passes. -/
def admits (threshold : Threshold) (severity : Severity) : Bool :=
  match threshold with
  | some least => severity.rank ≤ least.rank
  | none => false

/-- The threshold of a rank; that of rank zero lets nothing pass. -/
def ofRank? : Nat → Option Threshold
  | 0 => some none
  | 1 => some (some .error)
  | 2 => some (some .warn)
  | 3 => some (some .info)
  | 4 => some (some .debug)
  | 5 => some (some .trace)
  | _ => none

/-- The number that decimal digits stand for, a plus sign in front of them being allowed. -/
def numeral? (word : List Char) : Option Nat :=
  let digits := match word with
    | '+' :: rest => rest
    | _ => word
  if digits.isEmpty || !digits.all Char.isDigit then none
  else some (digits.foldl (fun value digit => value * 10 + (digit.toNat - '0'.toNat)) 0)

/-- The threshold that a rank or a word stands for, in letters of either case. -/
def ofWord? (word : String) : Option Threshold :=
  match numeral? word.toList with
  | some rank => ofRank? rank
  | none =>
    match word.toLower with
    | "off" => some none
    | "error" => some (some .error)
    | "warn" => some (some .warn)
    | "info" => some (some .info)
    | "debug" => some (some .debug)
    | "trace" => some (some .trace)
    | _ => none

end Threshold
end QueryTree.Log
