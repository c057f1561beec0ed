import QueryTree.Log.Directive

/-!
Filters of log lines. A filter is a list of directives, separated by commas. Of the directives that
cover a line the most special one decides whether it passes.
-/
namespace QueryTree.Log

/-- The directives of a filter, in the order in which they are written. -/
abbrev Filter := List Directive

namespace Filter

/-- The filter that a text stands for. Empty directives do not count, and where nothing else is
said only errors pass. -/
def ofText? (text : String) : Option Filter :=
  match (Text.pieces ',' text.toList).filter (!·.isEmpty) with
  | [] => some [⟨none, none, false, some .error⟩]
  | directives => directives.mapM Directive.ofText?

/-- The directive that decides about lines with a target and fields. -/
def decisive? (filter : Filter) (target : String) (fields : List String) : Option Directive :=
  (filter.filter (·.covers target.toList fields)).foldl Directive.stronger none

/-- Whether a line with a target, fields and a severity passes. -/
def admits (filter : Filter) (target : String) (fields : List String) (severity : Severity) :
    Bool :=
  (filter.decisive? target fields).any (·.threshold.admits severity)

end Filter
end QueryTree.Log
