import QueryTree.Log.Config
import QueryTree.Log.File
import QueryTree.Log.Filter
import QueryTree.Log.Notice

/-!
Logging in the life of a program. Logging is started once: a later start fails, but not before it
has created its file. The lines of what is noticed afterwards go where the first start said.
-/
namespace QueryTree.Log

/-- Why logging is not started. -/
inductive StartError where
  /-- A directive of the filter does not make sense. -/
  | unreadableDirective
  /-- Logging has been started before. -/
  | alreadyStarted
  deriving DecidableEq, Repr

/-- Logging that has been started. -/
structure Started where
  filter : Filter
  output : Output
  format : Format

/-- What has been started and created so far. -/
structure Session where
  started : Option Started
  /-- The files that exist, in the order in which they were created. -/
  files : List File

namespace Output

/-- The path of the file, if lines are written to one. -/
def filePath? : Output → Option String
  | .stdout => none
  | .file path | .both path => some path

/-- Whether lines are written to standard output. -/
def toStdout : Output → Bool
  | .stdout | .both _ => true
  | .file _ => false

/-- The file below the working directory, if lines are written to one. -/
def file? (output : Output) : Option File :=
  output.filePath?.bind File.ofPath?

end Output

namespace Session

/-- Nothing started and nothing created. -/
def fresh : Session :=
  ⟨none, []⟩

/-- The filter for a configuration: the environment's if it makes sense, else the one configured. -/
def filter? (environment : Option String) (config : Config) : Option Filter :=
  (environment.bind Filter.ofText?).or (Filter.ofText? config.directives)

/-- The session after a file has been created that may exist already. -/
def create (session : Session) (file : Option File) : Session :=
  match file with
  | some file =>
    if file ∈ session.files then session
    else { session with files := session.files ++ [file] }
  | none => session

/-- Starts logging. The answer is whether there is a file to be closed in the end. -/
def start (environment : Option String) (session : Session) (config : Config) :
    Except StartError Bool × Session :=
  match filter? environment config with
  | none => (.error .unreadableDirective, session)
  | some filter =>
    let session := session.create config.output.file?
    match session.started with
    | some _ => (.error .alreadyStarted, session)
    | none =>
      (.ok config.output.filePath?.isSome,
        { session with started := some ⟨filter, config.output, config.format⟩ })

end Session

/-! ### Lines -/

/-- The target of the lines about subqueries. -/
def subqueryTarget : String :=
  Config.walks ++ "::expression"

/-- The fields of the lines about subqueries. -/
def subqueryFields : List String :=
  ["message", "alias"]

/-- A notice as a line, without its time. -/
def Format.line (format : Format) (notice : Notice) : String :=
  notice.severity.word ++ " " ++ subqueryTarget ++ ": " ++ notice.message ++
    match format with
    | .pretty => ", alias: " ++ notice.shownAlias
    | .compact => " alias=" ++ notice.shownAlias

namespace Started

/-- The lines of what is noticed. -/
def lines (started : Started) (notices : List Notice) : List String :=
  (notices.filter fun notice =>
    started.filter.admits subqueryTarget subqueryFields notice.severity).map started.format.line

end Started

namespace Session

/-- The lines that go to standard output. -/
def stdout (session : Session) (notices : List Notice) : List String :=
  match session.started with
  | some started => if started.output.toStdout then started.lines notices else []
  | none => []

/-- The lines that a file has in the end. -/
def contents (session : Session) (notices : List Notice) (file : File) : List String :=
  match session.started with
  | some started => if started.output.file? = some file then started.lines notices else []
  | none => []

/-- All files by their paths, in order, with the lines that they have in the end. -/
def listing (session : Session) (notices : List Notice) (day : String) :
    List (String × List String) :=
  (session.files.map fun file => (file.path day, session.contents notices file)).mergeSort
    fun (path, _) (other, _) => path ≤ other

end Session
end QueryTree.Log
