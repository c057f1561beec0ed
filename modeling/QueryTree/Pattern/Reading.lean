import QueryTree.Pattern.CharClass
import QueryTree.Pattern.Escape
import QueryTree.Pattern.Flags
import QueryTree.Text.Alphanumeric
import QueryTree.Text.Blank

/-!
Regular expressions: which texts are well formed. A text is read one character at a time. `Reading`
is what counts of the characters read so far, and `Reading.next?` is what the next one makes of it;
a text is well formed if all its characters can be read, nothing is open in the end and nothing is
nested too deep.

Patterns are for text in Unicode, and there are no tables of its characters. So what would take such
a table is refused: the shorthands for digits, blanks and characters of words, the ends of words,
and every single character where case is ignored. All that is allowed where sets are sets of bytes,
but there whatever holds a part of a character is refused instead. Sets by a property of characters
are always refused, and so are counted repetitions.
-/
namespace QueryTree.Pattern

/-- Where a single character of a pattern stands. -/
inductive Place where
  /-- Outside of classes. -/
  | sequence
  /-- In a class. -/
  | member
  /-- In a class, at the end of a range. -/
  | rangeEnd (start : Char)
  deriving DecidableEq, Repr

/-- What the character read last belongs to. -/
inductive Mode where
  /-- A sequence, with the height of its last part if that may be repeated. -/
  | sequence (last : Option Nat)
  /-- The sign of a repetition, with the height of what is repeated. -/
  | repetition (height : Nat)
  /-- The parenthesis that opens a group. -/
  | group
  /-- The question mark behind the parenthesis. -/
  | groupMark
  /-- The letter in front of a name in angle brackets. -/
  | groupLetter
  /-- The name of a group, as far as it is written. -/
  | groupName (name : List Char)
  /-- Flags, as far as they are written. -/
  | flags (written : List Char)
  /-- The bracket that opens a class, or the circumflex behind it. -/
  | opening (complement : Bool)
  /-- The hyphens that a class begins with. -/
  | hyphens
  /-- A class, behind something that is complete. -/
  | members
  /-- A named class in a class. -/
  | named
  /-- The first half of an operator. -/
  | operator
  /-- A member of a class; if it is a single character, a range may begin with it. -/
  | member (start : Option Char)
  /-- The hyphen of a range. -/
  | range (start : Char)
  /-- The backslash of an escape. -/
  | escape (place : Place)
  /-- The digits of an escape, of which there are so many: how many are missing, and the number that
  the others stand for. -/
  | digits (place : Place) (count missing value : Nat)
  deriving DecidableEq, Repr

/-- Whether blanks and comments may be passed over. -/
def Mode.takesBlanks : Mode → Bool
  | .sequence _ | .repetition _ | .group | .opening _ | .hyphens | .members | .member _ | .range _
  | .digits .. => true
  | .groupMark | .groupLetter | .groupName _ | .flags _ | .named | .operator | .escape _ => false

/-- A group whose end has not been reached: what is known from in front of it. -/
structure OpenGroup where
  flags : Flags
  parts : Parts
  branches : Parts
  deriving DecidableEq, Repr

/-- What counts of the characters read so far. -/
structure Reading where
  mode : Mode
  /-- Whether a comment is being passed over. -/
  comment : Bool
  flags : Flags
  /-- The parts of the innermost group since the last bar. -/
  parts : Parts
  /-- The branches of the innermost group in front of the last bar. -/
  branches : Parts
  /-- The open groups from the innermost on. -/
  groups : List OpenGroup
  /-- The names of groups. -/
  names : List (List Char)
  /-- The open classes from the innermost on. -/
  classes : List OpenClass
  deriving DecidableEq, Repr

/-- Whether a character may stand in the name of a group behind others. -/
def mayName (name : List Char) (c : Char) : Bool :=
  if name.isEmpty then c = '_' || Text.isLetter c
  else c ∈ ['_', '.', '[', ']'] || Text.isAlphanumeric c

/-- The character that follows when blanks are passed over. Of a comment only its sign is passed
over, and the blanks behind that. -/
def afterBlanks? (text : List Char) : Option Char :=
  match Text.trimStart text with
  | '#' :: comment => (Text.trimStart comment).head?
  | text => text.head?

namespace Reading

/-- Nothing read. -/
def start : Reading :=
  ⟨.sequence none, false, .initial, .empty, .empty, [], [], []⟩

/-! ### Sequences and groups -/

/-- The reading behind a part of a sequence. -/
def addPart (r : Reading) (height : Nat) : Reading :=
  { r with mode := .sequence (some height), parts := r.parts.add height }

/-- The height of the innermost group. -/
def height (r : Reading) : Nat :=
  (r.branches.add r.parts.height).height

/-- The reading behind the start of a group, in which there are flags. -/
def openGroup (r : Reading) (flags : Flags) : Reading :=
  { r with
    mode := .sequence none
    flags := flags
    parts := .empty
    branches := .empty
    groups := ⟨r.flags, r.parts, r.branches⟩ :: r.groups }

/-- The reading behind the end of a group. -/
def closeGroup? (r : Reading) : Option Reading :=
  match r.groups with
  | [] => none
  | group :: groups =>
    some ({ r with
      flags := group.flags
      parts := group.parts
      branches := group.branches
      groups := groups }.addPart (r.height + 1))

/-- The reading behind the sign of a repetition. -/
def repeated (r : Reading) (height : Nat) : Reading :=
  { r with mode := .repetition (height + 1), parts := r.parts.wrapLast height }

/-! ### Classes -/

/-- The reading behind a member of a class. -/
def addMember (r : Reading) (member : CharSet) (mode : Mode) : Reading :=
  match r.classes with
  | inner :: outer => { r with mode := mode, classes := inner.add member :: outer }
  | [] => { r with mode := mode }

/-- The reading behind the bracket that opens a class. -/
def openClass (r : Reading) : Reading :=
  { r with mode := .opening false, classes := .empty :: r.classes }

/-- The reading behind the circumflex of a class. -/
def complementClass (r : Reading) : Reading :=
  match r.classes with
  | inner :: outer =>
    { r with mode := .opening true, classes := { inner with complement := true } :: outer }
  | [] => { r with mode := .opening true }

/-- The reading behind an operator in a class, of which the second half is still to be read. -/
def operateClass (r : Reading) (operator : SetOperator) : Reading :=
  match r.classes with
  | inner :: outer => { r with mode := .operator, classes := inner.operate operator :: outer }
  | [] => { r with mode := .operator }

/-- The reading behind the bracket that closes a class. A set of bytes must be within ASCII. -/
def closeClass? (r : Reading) : Option Reading :=
  match r.classes with
  | [] => none
  | inner :: outer =>
    let set := inner.closed
    let r := { r with classes := outer }
    if !r.flags.unicode && set.beyondAscii then none
    else match outer with
      | [] => some (r.addPart set.height)
      | _ :: _ => some (r.addMember set .members)

/-! ### Single characters -/

/-- The reading behind a single character. Where sets are sets of bytes, those in classes are within
ASCII; `byte` says that the character is written as a byte, which always has to be. -/
def single? (r : Reading) (place : Place) (c : Char) (byte : Bool) : Option Reading :=
  let refused :=
    if r.flags.unicode then r.flags.caseless
    else (byte || place ≠ .sequence) && 128 ≤ c.toNat
  if refused then none
  else match place with
    | .sequence => some (r.addPart 0)
    | .member => some (r.addMember ⟨0, false⟩ (.member (some c)))
    | .rangeEnd low => if low.toNat ≤ c.toNat then some { r with mode := .members } else none

/-- The reading behind a place in the text, which is no part of a class. -/
def between? (r : Reading) (place : Place) : Option Reading :=
  if place = .sequence then some (r.addPart 0) else none

/-- The reading behind a shorthand for a set. -/
def shorthand? (r : Reading) (place : Place) : Option Reading :=
  match place with
  | .sequence => some (r.addPart 0)
  | .member => some (r.addMember ⟨0, false⟩ (.member none))
  | .rangeEnd _ => none

/-- The reading behind an escape. -/
def escaped? (r : Reading) (place : Place) : Escape → Option Reading
  | .char c => r.single? place c false
  | .number digits => some { r with mode := .digits place digits digits 0 }
  | .shorthand => if r.flags.unicode then none else r.shorthand? place
  | .complement => none
  | .textEnd => r.between? place
  | .wordEnd => if r.flags.unicode then none else r.between? place

/-- The reading behind a digit of an escape. Two digits stand for a byte. -/
def inDigits? (r : Reading) (place : Place) (count missing value : Nat) (c : Char) :
    Option Reading :=
  (hexDigit? c).bind fun digit =>
    let value := value * 16 + digit
    if missing ≠ 1 then some { r with mode := .digits place count (missing - 1) value }
    else if value.isValidChar then r.single? place (Char.ofNat value) (count = 2)
    else none

/-! ### The next character -/

/-- The reading behind a character of a sequence. -/
def inSequence? (r : Reading) (last : Option Nat) (c : Char) : Option Reading :=
  match c with
  | '(' => some { r with mode := .group }
  | ')' => r.closeGroup?
  | '|' =>
    some { r with
      mode := .sequence none
      parts := .empty
      branches := r.branches.add r.parts.height }
  | '[' => some r.openClass
  | '*' | '+' | '?' => last.map r.repeated
  | '\x7b' => none
  | '.' => if r.flags.unicode then some (r.addPart 0) else none
  | '^' | '$' => some (r.addPart 0)
  | '\\' => some { r with mode := .escape .sequence }
  | _ => r.single? .sequence c false

/-- The reading behind a character of flags. -/
def inFlags? (r : Reading) (written : List Char) (c : Char) : Option Reading :=
  match c with
  | ':' => if Flags.areComplete written then some (r.openGroup (r.flags.after written)) else none
  | ')' =>
    if Flags.areComplete written && !written.isEmpty then
      some { r with
        mode := .sequence none
        flags := r.flags.after written
        parts := r.parts.add 0 }
    else none
  | _ =>
    if c ∈ Flags.letters && c ∉ written then some { r with mode := .flags (written ++ [c]) }
    else none

/-- The reading behind a character of the name of a group. -/
def inName? (r : Reading) (name : List Char) (c : Char) : Option Reading :=
  if c = '>' then
    if name.isEmpty || name ∈ r.names then none
    else some { r.openGroup r.flags with names := name :: r.names }
  else if mayName name c then some { r with mode := .groupName (name ++ [c]) }
  else none

/-- The reading behind a character of a class that nothing unfinished precedes; `rest` follows. -/
def inClass? (r : Reading) (c : Char) (rest : List Char) : Option Reading :=
  match c with
  | '[' =>
    match namedClass? rest with
    | some set =>
      if r.flags.unicode && r.flags.caseless then none else some (r.addMember set .named)
    | none => some r.openClass
  | ']' => r.closeClass?
  | '\\' => some { r with mode := .escape .member }
  | _ =>
    match if rest.head? = some c then SetOperator.ofChar? c else none with
    | some operator => some (r.operateClass operator)
    | none => r.single? .member c false

/-- The reading behind a character that follows the start of a class. -/
def inOpening? (r : Reading) (complement : Bool) (c : Char) (rest : List Char) : Option Reading :=
  match c with
  | '^' => if complement then r.inClass? c rest else some r.complementClass
  | '-' => (r.single? .member c false).map ({ · with mode := .hyphens })
  | ']' => (r.single? .member c false).map ({ · with mode := .members })
  | _ => r.inClass? c rest

/-- The reading behind a character that follows a hyphen at the start of a class. -/
def afterHyphens? (r : Reading) (c : Char) (rest : List Char) : Option Reading :=
  if c = '-' then (r.single? .member c false).map ({ · with mode := .hyphens })
  else r.inClass? c rest

/-- The reading behind a character that follows a member of a class. A hyphen makes a range, but not
in front of the end of the class or of another hyphen. -/
def afterMember? (r : Reading) (start : Option Char) (c : Char) (rest : List Char) :
    Option Reading :=
  let following := if r.flags.spaced then afterBlanks? rest else rest.head?
  if c = '-' && following ∉ [some ']', some '-'] then
    start.map fun low => { r with mode := .range low }
  else r.inClass? c rest

/-- The reading behind a character that follows the hyphen of a range. -/
def inRange? (r : Reading) (start c : Char) : Option Reading :=
  if c = '\\' then some { r with mode := .escape (.rangeEnd start) }
  else r.single? (.rangeEnd start) c false

/-- The reading behind a character that is not passed over; `rest` follows. -/
def read? (r : Reading) (c : Char) (rest : List Char) : Option Reading :=
  match r.mode with
  | .sequence last => r.inSequence? last c
  | .repetition height =>
    if c = '?' then some { r with mode := .sequence (some height) }
    else r.inSequence? (some height) c
  | .group =>
    if c = '?' then some { r with mode := .groupMark }
    else (r.openGroup r.flags).inSequence? none c
  | .groupMark =>
    if c = 'P' then some { r with mode := .groupLetter }
    else if c = '<' then some { r with mode := .groupName [] }
    else r.inFlags? [] c
  | .groupLetter => if c = '<' then some { r with mode := .groupName [] } else none
  | .groupName name => r.inName? name c
  | .flags written => r.inFlags? written c
  | .opening complement => r.inOpening? complement c rest
  | .hyphens => r.afterHyphens? c rest
  | .members => r.inClass? c rest
  | .named => if c = ']' then some { r with mode := .members } else some r
  | .operator => some { r with mode := .members }
  | .member start => r.afterMember? start c rest
  | .range start => r.inRange? start c
  | .escape place => (Escape.ofChar? c).bind (r.escaped? place)
  | .digits place count missing value => r.inDigits? place count missing value c

/-- The reading behind a blank or the sign of a comment that is passed over. -/
def passOver (r : Reading) (comment : Bool) : Reading :=
  let mode := match r.mode with
    | .repetition height => .sequence (some height)
    | mode => mode
  { r with mode := mode, comment := comment }

/-- The reading behind the next character, if it may stand there; `rest` follows. A comment extends
to the end of its line. -/
def next? (r : Reading) (c : Char) (rest : List Char) : Option Reading :=
  if r.comment then some { r with comment := c ≠ '\n' }
  else if r.flags.spaced && r.mode.takesBlanks && (Text.isBlank c || c = '#') then
    some (r.passOver (c = '#'))
  else r.read? c rest

/-- The reading behind a text. -/
def run? (r : Reading) : List Char → Option Reading
  | [] => some r
  | c :: rest =>
    match r.next? c rest with
    | some r => r.run? rest
    | none => none

/-- Whether nothing is open, and nothing too deep. -/
def isComplete (r : Reading) : Bool :=
  match r.mode with
  | .sequence _ | .repetition _ => r.groups.isEmpty && r.height ≤ heightLimit
  | _ => false

end Reading

/-- Whether a text is a pattern. -/
def isWellFormed (text : List Char) : Bool :=
  (Reading.start.run? text).any Reading.isComplete

end QueryTree.Pattern
