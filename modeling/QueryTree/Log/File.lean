import QueryTree.Text.Blank

/-!
Log files. A path names a file in a directory; every day has a file of its own, with the day behind
the name. Files are told apart by where they are below the working directory.
-/
namespace QueryTree.Log

/-- A log file below the working directory. -/
structure File where
  /-- The directories on the way to the file. -/
  directory : List String
  name : String
  deriving DecidableEq, Repr

namespace File

/-- The name of a file whose path does not give one. -/
def defaultName : String :=
  "sqlvisit.log"

/-- The parts of a path. Neither empty parts nor those for "here" count. -/
def parts (path : String) : List String :=
  ((Text.pieces '/' path.toList).map String.ofList).filter fun part => part ≠ "" ∧ part ≠ "."

/-- Where a way leads that starts below the working directory, unless it leaves that directory. -/
def follow (way : List String) : List String → Option (List String)
  | [] => some way
  | ".." :: rest => if way.isEmpty then none else follow way.dropLast rest
  | part :: rest => follow (way ++ [part]) rest

/-- The name that a path gives with its last part, except that ".." is none. -/
def nameOf (parts : List String) : String :=
  match parts.getLast? with
  | some ".." | none => defaultName
  | some part => part

/-- The file that a path names, if it is below the working directory. -/
def ofPath? (path : String) : Option File :=
  let parts := parts path
  if parts ≠ [] ∧ path.startsWith "/" then none
  else (follow [] parts.dropLast).map (⟨·, nameOf parts⟩)

/-- The path of the file for a day. -/
def path (file : File) (day : String) : String :=
  String.intercalate "/" (file.directory ++ [file.name ++ "." ++ day])

end File
end QueryTree.Log
