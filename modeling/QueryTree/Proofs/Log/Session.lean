import Mathlib.Data.List.Nodup
import QueryTree.Log.Session
import QueryTree.Proofs.Log.File

/-!
Logging over a whole run of starts. The first start whose filter can be read is the only one that
succeeds, and what it says holds for good; later ones leave no more than a file behind.
-/
namespace QueryTree.Log

/-- A start of logging: what the environment says, and the configuration. -/
structure Start where
  environment : Option String
  config : Config

namespace Start

/-- What a start would begin, if its filter can be read. -/
def started? (start : Start) : Option Started :=
  (Session.filter? start.environment start.config).map fun filter =>
    ⟨filter, start.config.output, start.config.format⟩

end Start

namespace Session

variable {session : Session} {file : File}

/-! ### One start -/

theorem started_create (created : Option File) :
    (session.create created).started = session.started := by
  unfold create
  split
  · split <;> rfl
  · rfl

theorem mem_files_create (created : Option File) :
    file ∈ (session.create created).files ↔ file ∈ session.files ∨ created = some file := by
  cases created with
  | none => simp [create]
  | some other =>
    rw [create]
    by_cases present : other ∈ session.files
    · simp only [if_pos present, Option.some.injEq]
      refine ⟨.inl, ?_⟩
      rintro (member | rfl)
      · exact member
      · exact present
    · simp [if_neg present, eq_comm]

theorem nodup_files_create (distinct : session.files.Nodup) (created : Option File) :
    (session.create created).files.Nodup := by
  unfold create
  split
  · split
    · exact distinct
    next file absent =>
      show (session.files ++ [file]).Nodup
      rw [← List.concat_eq_append]
      exact distinct.concat absent
  · exact distinct

/-- The answer to a start, and the session after it. -/
def next (session : Session) (start : Start) : Except StartError Bool × Session :=
  session.start start.environment start.config

/-- What a start can come to. -/
theorem next_cases (session : Session) (start : Start) :
    (start.started? = none ∧ session.next start = (.error .unreadableDirective, session)) ∨
    ∃ started, start.started? = some started ∧
      ((session.started ≠ none ∧ session.next start =
        (.error .alreadyStarted, session.create started.output.file?)) ∨
      (session.started = none ∧ session.next start =
        (.ok started.output.filePath?.isSome,
          { session.create started.output.file? with started := some started }))) := by
  unfold next Session.start Start.started?
  cases filter? start.environment start.config with
  | none => exact .inl ⟨rfl, rfl⟩
  | some filter =>
    refine .inr ⟨_, rfl, ?_⟩
    dsimp only
    rw [started_create]
    cases session.started with
    | none => exact .inr ⟨rfl, rfl⟩
    | some started => exact .inl ⟨nofun, rfl⟩

/-- What holds of every session: no file is created twice, and the file that lines are written to
is one of those that have been created. -/
structure Sound (session : Session) : Prop where
  distinct : session.files.Nodup
  created : ∀ started ∈ session.started, ∀ file ∈ started.output.file?, file ∈ session.files

theorem Sound.next (sound : Sound session) (start : Start) : Sound (session.next start).2 := by
  rcases session.next_cases start with
    ⟨-, same⟩ | ⟨started, -, ⟨-, same⟩ | ⟨-, same⟩⟩
  · rw [same]
    exact sound
  · rw [same]
    refine ⟨nodup_files_create sound.distinct _, fun begun given file output => ?_⟩
    rw [started_create] at given
    exact (mem_files_create _).mpr (.inl (sound.created begun given file output))
  · rw [same]
    refine ⟨nodup_files_create sound.distinct _, fun begun given file output => ?_⟩
    cases given
    exact (mem_files_create _).mpr (.inr output)

/-- A start begins something only where nothing has been begun. -/
theorem started_next (session : Session) (start : Start) :
    (session.next start).2.started = session.started.or start.started? := by
  rcases session.next_cases start with
    ⟨unread, same⟩ | ⟨started, read, ⟨begun, same⟩ | ⟨begun, same⟩⟩
  · rw [same, unread, Option.or_none]
  · obtain ⟨earlier, begun⟩ := Option.ne_none_iff_exists'.mp begun
    rw [same, started_create, begun, Option.some_or]
  · rw [same, begun, Option.none_or, read]

theorem mem_files_next (start : Start) :
    file ∈ (session.next start).2.files ↔
      file ∈ session.files ∨ ∃ started ∈ start.started?, started.output.file? = some file := by
  rcases session.next_cases start with
    ⟨unread, same⟩ | ⟨started, read, ⟨-, same⟩ | ⟨-, same⟩⟩
  · simp [same, unread]
  · simp [same, read, mem_files_create]
  · simp [same, read, mem_files_create]

/-! ### Several starts -/

/-- The session after several starts. -/
def after (session : Session) : List Start → Session
  | [] => session
  | start :: rest => after (session.next start).2 rest

theorem Sound.after (sound : Sound session) (starts : List Start) :
    Sound (session.after starts) := by
  induction starts generalizing session with
  | nil => exact sound
  | cons start rest ih => exact ih (sound.next start)

theorem sound_after_fresh (starts : List Start) : Sound (fresh.after starts) := by
  have sound : Sound fresh := ⟨List.nodup_nil, fun _ begun => by cases begun⟩
  exact sound.after starts

/-- Of several starts the first that can be read is the one that counts. -/
theorem started_after (session : Session) (starts : List Start) :
    (session.after starts).started = session.started.or (starts.findSome? Start.started?) := by
  induction starts generalizing session with
  | nil => rw [after, List.findSome?_nil, Option.or_none]
  | cons start rest ih =>
    rw [after, ih, started_next, Option.or_assoc, List.findSome?_cons]
    cases start.started? <;> rfl

/-- Every start that can be read leaves its file behind, whether it succeeds or not. -/
theorem mem_files_after (starts : List Start) :
    file ∈ (session.after starts).files ↔
      file ∈ session.files ∨
        ∃ start ∈ starts, ∃ started ∈ start.started?, started.output.file? = some file := by
  induction starts generalizing session with
  | nil => simp [after]
  | cons start rest ih =>
    rw [after, ih, mem_files_next, List.exists_mem_cons_iff, or_assoc]

/-- All files are below the working directory, and on a day each has a path of its own. -/
theorem nodup_paths (starts : List Start) {day : String} (single : '/' ∉ day.toList) :
    ((fresh.after starts).files.map (File.path · day)).Nodup := by
  have below (file : File) (member : file ∈ (fresh.after starts).files) : file.Below := by
    rcases (mem_files_after starts).mp member with before | ⟨start, -, started, -, output⟩
    · cases before
    · obtain ⟨path, -, named⟩ := Option.bind_eq_some_iff.mp output
      exact File.below_of_ofPath? named
  refine (sound_after_fresh starts).distinct.map_on fun file member other member' same => ?_
  exact File.path_injective (below file member) (below other member') single same

/-- Logging is started once: a start succeeds exactly if it can be read and none before it could
be. -/
theorem next_after (before : List Start) (start : Start) :
    ((fresh.after before).next start).1 =
      match start.started?, before.findSome? Start.started? with
      | none, _ => .error .unreadableDirective
      | some started, none => .ok started.output.filePath?.isSome
      | some _, some _ => .error .alreadyStarted := by
  have begun : (fresh.after before).started = before.findSome? Start.started? :=
    started_after fresh before
  rcases (fresh.after before).next_cases start with
    ⟨unread, same⟩ | ⟨started, read, ⟨earlier, same⟩ | ⟨earlier, same⟩⟩
  · rw [same, unread]
  · obtain ⟨other, found⟩ := Option.ne_none_iff_exists'.mp (begun ▸ earlier)
    rw [same, read, found]
  · rw [same, read, ← begun, earlier]

/-- Once logging has been started, no later start changes where lines go and what they say. -/
theorem contents_after (begun : session.started ≠ none) (starts : List Start)
    (notices : List Notice) :
    (session.after starts).stdout notices = session.stdout notices ∧
      ∀ file, (session.after starts).contents notices file = session.contents notices file := by
  obtain ⟨started, begun⟩ := Option.ne_none_iff_exists'.mp begun
  have kept : (session.after starts).started = session.started := by
    rw [started_after, begun, Option.some_or]
  unfold stdout contents
  rw [kept]
  exact ⟨rfl, fun _ => rfl⟩

end Session
end QueryTree.Log
