import Mathlib.Logic.Relation
import QueryTree.Pattern.Reading

/-!
What the characters of a regular expression can do. `Move` lists it: every character that may be
read comes to a few of its moves, and what all moves keep therefore holds behind every text. Two
such things are kept in `Coherent`. The character read last belongs to a class exactly while a class
is open, so there is always a class for what stands in one; and no two groups have the same name.
-/
namespace QueryTree.Pattern

open Relation

/-- Whether a place is in a class. -/
def Place.inClass : Place → Bool
  | .sequence => false
  | .member | .rangeEnd _ => true

/-- Whether what the character read last belongs to is in a class. -/
def Mode.inClass : Mode → Bool
  | .sequence _ | .repetition _ | .group | .groupMark | .groupLetter | .groupName _ | .flags _ =>
    false
  | .opening _ | .hyphens | .members | .named | .operator | .member _ | .range _ => true
  | .escape place | .digits place .. => place.inClass

namespace Reading

/-- What can be done to a reading at once. What is done to a class that is open is done from inside
of it, and nothing else is changed from there. -/
inductive Move (r : Reading) : Reading → Prop
  | turn (mode : Mode) (comment : Bool) (stays : mode.inClass = r.mode.inClass) :
    Move r { r with mode := mode, comment := comment }
  | part (height : Nat) (outside : r.mode.inClass = false) : Move r (r.addPart height)
  | repeats (height : Nat) (outside : r.mode.inClass = false) : Move r (r.repeated height)
  | bar (outside : r.mode.inClass = false) :
    Move r { r with
      mode := .sequence none
      parts := .empty
      branches := r.branches.add r.parts.height }
  | setFlags (flags : Flags) (outside : r.mode.inClass = false) :
    Move r { r with mode := .sequence none, flags := flags, parts := r.parts.add 0 }
  | openGroup (flags : Flags) (outside : r.mode.inClass = false) : Move r (r.openGroup flags)
  | nameGroup {name : List Char} (outside : r.mode.inClass = false) (new : name ∉ r.names) :
    Move r { r.openGroup r.flags with names := name :: r.names }
  | closeGroup {next : Reading} (outside : r.mode.inClass = false)
    (closed : r.closeGroup? = some next) : Move r next
  | openClass : Move r r.openClass
  | complementClass (inside : r.mode.inClass = true) : Move r r.complementClass
  | operateClass (operator : SetOperator) (inside : r.mode.inClass = true) :
    Move r (r.operateClass operator)
  | member (member : CharSet) (mode : Mode) (inside : r.mode.inClass = true)
    (stays : mode.inClass = true) : Move r (r.addMember member mode)
  | closeClass {next : Reading} (inside : r.mode.inClass = true)
    (closed : r.closeClass? = some next) : Move r next

/-- What several moves one behind the other come to. -/
abbrev Moves : Reading → Reading → Prop :=
  ReflTransGen Move

variable {r next : Reading} {c : Char} {rest : List Char}

private theorem Move.moves (move : Move r next) : Moves r next :=
  .single move

/-- A change of the mode alone. -/
private theorem moves_mode (mode : Mode) (stays : mode.inClass = r.mode.inClass) :
    Moves r { r with mode := mode } :=
  (Move.turn mode r.comment stays).moves

/-! ### Single characters -/

private theorem moves_single {place : Place} {byte : Bool}
    (read : r.single? place c byte = some next) (there : r.mode.inClass = place.inClass) :
    Moves r next := by
  obtain ⟨-, read⟩ := Option.ite_none_left_eq_some.mp read
  cases place with
  | sequence =>
    cases read
    exact (Move.part 0 there).moves
  | member =>
    cases read
    exact (Move.member _ _ there rfl).moves
  | rangeEnd low =>
    obtain ⟨-, read⟩ := Option.ite_none_right_eq_some.mp read
    cases read
    exact moves_mode .members there.symm

/-- A single character in a class, behind which the mode is another one. -/
private theorem moves_single_map {mode : Mode}
    (read : (r.single? .member c false).map ({ · with mode := mode }) = some next)
    (inside : r.mode.inClass = true) (stays : mode.inClass = true) : Moves r next := by
  obtain ⟨before, single, rfl⟩ := Option.map_eq_some_iff.mp read
  have still : before.mode.inClass = true := by
    obtain ⟨-, single⟩ := Option.ite_none_left_eq_some.mp single
    cases single
    unfold addMember
    split <;> rfl
  exact (moves_single single inside).trans (moves_mode mode (stays.trans still.symm))

private theorem moves_between {place : Place} (read : r.between? place = some next)
    (there : r.mode.inClass = place.inClass) : Moves r next := by
  obtain ⟨rfl, read⟩ := Option.ite_none_right_eq_some.mp read
  cases read
  exact (Move.part 0 there).moves

private theorem moves_shorthand {place : Place} (read : r.shorthand? place = some next)
    (there : r.mode.inClass = place.inClass) : Moves r next := by
  cases place with
  | sequence =>
    cases read
    exact (Move.part 0 there).moves
  | member =>
    cases read
    exact (Move.member _ _ there rfl).moves
  | rangeEnd low => cases read

private theorem moves_escaped {place : Place} {escape : Escape}
    (read : r.escaped? place escape = some next) (there : r.mode.inClass = place.inClass) :
    Moves r next := by
  cases escape with
  | char c => exact moves_single read there
  | number digits =>
    cases read
    exact moves_mode (.digits place digits digits 0) there.symm
  | shorthand =>
    obtain ⟨-, read⟩ := Option.ite_none_left_eq_some.mp read
    exact moves_shorthand read there
  | complement => cases read
  | textEnd => exact moves_between read there
  | wordEnd =>
    obtain ⟨-, read⟩ := Option.ite_none_left_eq_some.mp read
    exact moves_between read there

private theorem moves_digits {place : Place} {count missing value : Nat}
    (read : r.inDigits? place count missing value c = some next)
    (there : r.mode.inClass = place.inClass) : Moves r next := by
  obtain ⟨digit, -, read⟩ := Option.bind_eq_some_iff.mp read
  dsimp only at read
  split at read
  · cases read
    exact moves_mode (.digits place count (missing - 1) (value * 16 + digit)) there.symm
  · obtain ⟨-, read⟩ := Option.ite_none_right_eq_some.mp read
    exact moves_single read there

/-! ### Characters by what the one in front of them belongs to -/

private theorem moves_sequence {last : Option Nat} (read : r.inSequence? last c = some next)
    (outside : r.mode.inClass = false) : Moves r next := by
  unfold inSequence? at read
  split at read
  · cases read
    exact moves_mode .group outside.symm
  · exact (Move.closeGroup outside read).moves
  · cases read
    exact (Move.bar outside).moves
  · cases read
    exact Move.openClass.moves
  -- The three signs of repetitions.
  iterate 3
    · obtain ⟨height, -, rfl⟩ := Option.map_eq_some_iff.mp read
      exact (Move.repeats height outside).moves
  · cases read
  · obtain ⟨-, read⟩ := Option.ite_none_right_eq_some.mp read
    cases read
    exact (Move.part 0 outside).moves
  -- The start and the end of a line.
  iterate 2
    · cases read
      exact (Move.part 0 outside).moves
  · cases read
    exact moves_mode (.escape .sequence) outside.symm
  · exact moves_single read outside

private theorem moves_flags {written : List Char} (read : r.inFlags? written c = some next)
    (outside : r.mode.inClass = false) : Moves r next := by
  unfold inFlags? at read
  split at read
  · obtain ⟨-, read⟩ := Option.ite_none_right_eq_some.mp read
    cases read
    exact (Move.openGroup _ outside).moves
  · obtain ⟨-, read⟩ := Option.ite_none_right_eq_some.mp read
    cases read
    exact (Move.setFlags _ outside).moves
  · obtain ⟨-, read⟩ := Option.ite_none_right_eq_some.mp read
    cases read
    exact moves_mode (.flags (written ++ [c])) outside.symm

private theorem moves_name {name : List Char} (read : r.inName? name c = some next)
    (outside : r.mode.inClass = false) : Moves r next := by
  unfold inName? at read
  split at read
  · obtain ⟨fresh, read⟩ := Option.ite_none_left_eq_some.mp read
    simp only [Bool.or_eq_true, decide_eq_true_eq, not_or] at fresh
    cases read
    exact (Move.nameGroup outside fresh.2).moves
  · obtain ⟨-, read⟩ := Option.ite_none_right_eq_some.mp read
    cases read
    exact moves_mode (.groupName (name ++ [c])) outside.symm

private theorem moves_class (read : r.inClass? c rest = some next)
    (inside : r.mode.inClass = true) : Moves r next := by
  unfold inClass? at read
  split at read
  · split at read
    · obtain ⟨-, read⟩ := Option.ite_none_left_eq_some.mp read
      cases read
      exact (Move.member _ .named inside rfl).moves
    · cases read
      exact Move.openClass.moves
  · exact (Move.closeClass inside read).moves
  · cases read
    exact moves_mode (.escape .member) inside.symm
  · split at read
    next operator _ =>
      cases read
      exact (Move.operateClass operator inside).moves
    · exact moves_single read inside

private theorem moves_opening {complement : Bool}
    (read : r.inOpening? complement c rest = some next) (inside : r.mode.inClass = true) :
    Moves r next := by
  unfold inOpening? at read
  split at read
  · split at read
    · exact moves_class read inside
    · cases read
      exact (Move.complementClass inside).moves
  · exact moves_single_map read inside rfl
  · exact moves_single_map read inside rfl
  · exact moves_class read inside

private theorem moves_hyphens (read : r.afterHyphens? c rest = some next)
    (inside : r.mode.inClass = true) : Moves r next := by
  unfold afterHyphens? at read
  split at read
  · exact moves_single_map read inside rfl
  · exact moves_class read inside

private theorem moves_member {start : Option Char}
    (read : r.afterMember? start c rest = some next) (inside : r.mode.inClass = true) :
    Moves r next := by
  by_cases hyphen : c = '-' ∧
      (if r.flags.spaced then afterBlanks? rest else rest.head?) ∉ [some ']', some '-']
  · rw [afterMember?, if_pos (by simpa using hyphen)] at read
    obtain ⟨low, -, rfl⟩ := Option.map_eq_some_iff.mp read
    exact moves_mode (.range low) inside.symm
  · rw [afterMember?, if_neg (by simpa using hyphen)] at read
    exact moves_class read inside

private theorem moves_range {start : Char} (read : r.inRange? start c = some next)
    (inside : r.mode.inClass = true) : Moves r next := by
  unfold inRange? at read
  split at read
  · cases read
    exact moves_mode (.escape (.rangeEnd start)) inside.symm
  · exact moves_single read inside

private theorem moves_read (read : r.read? c rest = some next) : Moves r next := by
  revert read
  unfold read?
  cases mode : r.mode with
  | sequence last => exact fun read => moves_sequence read (congrArg Mode.inClass mode)
  | repetition height =>
    intro read
    have outside : r.mode.inClass = false := congrArg Mode.inClass mode
    dsimp only at read
    split at read
    · cases read
      exact moves_mode (.sequence (some height)) outside.symm
    · exact moves_sequence read outside
  | group =>
    intro read
    have outside : r.mode.inClass = false := congrArg Mode.inClass mode
    dsimp only at read
    split at read
    · cases read
      exact moves_mode .groupMark outside.symm
    -- Without a question mark the group is open already, and the character is the first in it.
    · exact (Move.openGroup r.flags outside).moves.trans (moves_sequence read rfl)
  | groupMark =>
    intro read
    have outside : r.mode.inClass = false := congrArg Mode.inClass mode
    dsimp only at read
    split at read
    · cases read
      exact moves_mode .groupLetter outside.symm
    · split at read
      · cases read
        exact moves_mode (.groupName []) outside.symm
      · exact moves_flags read outside
  | groupLetter =>
    intro read
    obtain ⟨-, read⟩ := Option.ite_none_right_eq_some.mp read
    cases read
    exact moves_mode (.groupName []) (congrArg Mode.inClass mode).symm
  | groupName name => exact fun read => moves_name read (congrArg Mode.inClass mode)
  | flags written => exact fun read => moves_flags read (congrArg Mode.inClass mode)
  | opening complement => exact fun read => moves_opening read (congrArg Mode.inClass mode)
  | hyphens => exact fun read => moves_hyphens read (congrArg Mode.inClass mode)
  | members => exact fun read => moves_class read (congrArg Mode.inClass mode)
  | named =>
    intro read
    dsimp only at read
    split at read
    · cases read
      exact moves_mode .members (congrArg Mode.inClass mode).symm
    · cases read
      exact .refl
  | operator =>
    intro read
    cases read
    exact moves_mode .members (congrArg Mode.inClass mode).symm
  | member start => exact fun read => moves_member read (congrArg Mode.inClass mode)
  | range start => exact fun read => moves_range read (congrArg Mode.inClass mode)
  | escape place =>
    intro read
    obtain ⟨escape, -, read⟩ := Option.bind_eq_some_iff.mp read
    exact moves_escaped read (congrArg Mode.inClass mode)
  | digits place count missing value =>
    exact fun read => moves_digits read (congrArg Mode.inClass mode)

/-- All that a character can do is put together of moves. -/
theorem moves_of_next? (read : r.next? c rest = some next) : Moves r next := by
  unfold next? at read
  split at read
  · -- In a comment nothing counts but its end.
    cases read
    exact (Move.turn r.mode _ rfl).moves
  · split at read
    · -- Behind a blank a repetition is over, which is in no class either.
      cases read
      refine (Move.turn _ _ ?_).moves
      cases r.mode <;> rfl
    · exact moves_read read

/-! ### What all moves keep -/

/-- What holds of the reading of every text. -/
structure Coherent (r : Reading) : Prop where
  classes : r.mode.inClass = true ↔ r.classes ≠ []
  names : r.names.Nodup

namespace Coherent

theorem start : Coherent .start :=
  ⟨by simp [Reading.start, Mode.inClass], List.nodup_nil⟩

theorem classes_eq_nil (coherent : Coherent r) (outside : r.mode.inClass = false) :
    r.classes = [] := by
  by_cases closed : r.classes = []
  · exact closed
  · rw [coherent.classes.mpr closed] at outside
    cases outside

theorem exists_classes (coherent : Coherent r) (inside : r.mode.inClass = true) :
    ∃ inner outer, r.classes = inner :: outer :=
  List.exists_cons_of_ne_nil (coherent.classes.mp inside)

/-- Outside of classes a reading stays coherent as long as no class is opened. -/
private theorem of_outside (coherent : Coherent r) (outside : r.mode.inClass = false)
    (mode : next.mode.inClass = false) (classes : next.classes = r.classes)
    (names : next.names.Nodup) : Coherent next :=
  ⟨by simp [mode, classes, coherent.classes_eq_nil outside], names⟩

theorem move (coherent : Coherent r) (move : Move r next) : Coherent next := by
  cases move with
  | turn mode comment stays => exact ⟨by rw [stays]; exact coherent.classes, coherent.names⟩
  | part height outside => exact coherent.of_outside outside rfl rfl coherent.names
  | repeats height outside => exact coherent.of_outside outside rfl rfl coherent.names
  | bar outside => exact coherent.of_outside outside rfl rfl coherent.names
  | setFlags flags outside => exact coherent.of_outside outside rfl rfl coherent.names
  | openGroup flags outside => exact coherent.of_outside outside rfl rfl coherent.names
  | nameGroup outside new =>
    exact coherent.of_outside outside rfl rfl (List.nodup_cons.mpr ⟨new, coherent.names⟩)
  | closeGroup outside closed =>
    unfold closeGroup? at closed
    split at closed
    · cases closed
    · cases closed
      exact coherent.of_outside outside rfl rfl coherent.names
  | openClass => exact ⟨by simp [Reading.openClass, Mode.inClass], coherent.names⟩
  | complementClass inside =>
    obtain ⟨inner, outer, classes⟩ := coherent.exists_classes inside
    rw [Reading.complementClass, classes]
    exact ⟨by simp [Mode.inClass], coherent.names⟩
  | operateClass operator inside =>
    obtain ⟨inner, outer, classes⟩ := coherent.exists_classes inside
    rw [Reading.operateClass, classes]
    exact ⟨by simp [Mode.inClass], coherent.names⟩
  | member member mode inside stays =>
    obtain ⟨inner, outer, classes⟩ := coherent.exists_classes inside
    rw [addMember, classes]
    exact ⟨by simp [stays], coherent.names⟩
  | closeClass inside closed =>
    obtain ⟨inner, outer, classes⟩ := coherent.exists_classes inside
    simp only [closeClass?, classes] at closed
    split at closed
    · cases closed
    · -- Only the outermost class is followed by more of a sequence.
      cases outer with
      | nil =>
        cases closed
        exact ⟨by simp [addPart, Mode.inClass], coherent.names⟩
      | cons around outer =>
        cases closed
        exact ⟨by simp [addMember, Mode.inClass], coherent.names⟩

theorem moves (coherent : Coherent r) (moves : Moves r next) : Coherent next := by
  induction moves with
  | refl => exact coherent
  | tail _ last ih => exact ih.move last

end Coherent

/-! ### The way through a text -/

/-- The way from a reading in front of a text to a later one, and what is still to be read there. -/
inductive Reaches : Reading → List Char → Reading → List Char → Prop
  | here (r : Reading) (text : List Char) : Reaches r text r text
  | next {r step last : Reading} {c : Char} {rest behind : List Char}
    (read : r.next? c rest = some step) (way : Reaches step rest last behind) :
    Reaches r (c :: rest) last behind

variable {r last : Reading} {text behind : List Char}

/-- Wherever the way has come to, the rest of the text is read from there. -/
theorem Reaches.run?_eq (way : Reaches r text last behind) : r.run? text = last.run? behind := by
  induction way with
  | here r text => rfl
  | next read way ih =>
    simp only [run?, read]
    exact ih

theorem reaches_of_run? (read : r.run? text = some last) : Reaches r text last [] := by
  induction text generalizing r with
  | nil =>
    cases read
    exact .here _ []
  | cons c rest ih =>
    rw [run?] at read
    split at read
    next first => exact .next first (ih read)
    · cases read

theorem Reaches.moves (way : Reaches r text last behind) : Moves r last := by
  induction way with
  | here r text => exact .refl
  | next read way ih => exact (moves_of_next? read).trans ih

theorem Reaches.coherent (way : Reaches start text last behind) : Coherent last :=
  Coherent.start.moves way.moves

end Reading
end QueryTree.Pattern
