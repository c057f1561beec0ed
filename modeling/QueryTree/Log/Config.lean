/-!
How the notices of walks are to be logged: which of them, where to and in which form.
-/
namespace QueryTree.Log

/-- Where lines are written. -/
inductive Output where
  | stdout
  | file (path : String)
  | both (path : String)
  deriving DecidableEq, Repr

/-- How a line shows what belongs to its message. -/
inductive Format where
  /-- For reading line by line. -/
  | pretty
  /-- For searching. -/
  | compact
  deriving DecidableEq, Repr

/-- What is to be logged. -/
structure Config where
  /-- The directives of a filter. -/
  level : String
  output : Output
  format : Format
  /-- Whether everything that walks notice is logged, whatever the level. -/
  tracing : Bool
  deriving DecidableEq, Repr

namespace Config

/-- Lines that inform, on standard output. -/
def info : Config :=
  ⟨"info", .stdout, .pretty, false⟩

/-- Also lines that help to find faults. -/
def debug : Config :=
  { info with level := "debug" }

/-- Only lines that warn. -/
def warn : Config :=
  { info with level := "warn" }

instance : Inhabited Config := ⟨info⟩

/-- The target that all lines about walks have in common. -/
def walks : String :=
  "sqlvisit_core::visitor"

/-- The directives of the filter that is to be used. -/
def directives (config : Config) : String :=
  if config.tracing then config.level ++ "," ++ walks ++ "=trace" else config.level

end Config
end QueryTree.Log
