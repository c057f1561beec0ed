/-!
Blank characters, and texts that are trimmed and cut. Text is handled as a list of characters: what
a trim removes from either end is blank, and what it leaves neither starts nor ends with a blank.
-/
namespace QueryTree.Text

/-- The white space of Unicode: every character of the class `White_Space`. -/
def isBlank (c : Char) : Bool :=
  let n := c.toNat
  (9 ≤ n && n ≤ 13) || n == 0x20 || n == 0x85 || n == 0xa0 || n == 0x1680 ||
    (0x2000 ≤ n && n ≤ 0x200a) || n == 0x2028 || n == 0x2029 || n == 0x202f || n == 0x205f ||
    n == 0x3000

/-- The text without the blanks it starts with. -/
def trimStart (cs : List Char) : List Char :=
  cs.dropWhile isBlank

/-- The text without the longest run of characters of a class at its end. -/
def dropTrailing (inClass : Char → Bool) (cs : List Char) : List Char :=
  (cs.reverse.dropWhile inClass).reverse

/-- The text without the blanks it ends with. -/
def trimEnd (cs : List Char) : List Char :=
  dropTrailing isBlank cs

/-- The text without the blanks at either end. -/
def trim (cs : List Char) : List Char :=
  trimEnd (trimStart cs)

/-- Whether the text holds nothing but blanks. -/
def allBlank (cs : List Char) : Bool :=
  cs.all isBlank

/-- What follows `start`, if the text starts with it. -/
def afterStart? : (start text : List Char) → Option (List Char)
  | [], text => some text
  | _ :: _, [] => none
  | c :: start, d :: text => if c = d then afterStart? start text else none

/-- What precedes `ending`, if the text ends with it. -/
def beforeEnd? (ending text : List Char) : Option (List Char) :=
  (afterStart? ending.reverse text.reverse).map List.reverse

/-- The first line of a text, without the line feed that ends it or the carriage return and line
feed that do. -/
def firstLine : List Char → List Char
  | [] => []
  | '\n' :: _ => []
  | '\r' :: '\n' :: _ => []
  | c :: rest => c :: firstLine rest

/-- The pieces of a text between the occurrences of a separator; always at least one. -/
def pieces (separator : Char) : List Char → List (List Char)
  | [] => [[]]
  | c :: cs =>
    if c = separator then [] :: pieces separator cs
    else match pieces separator cs with
      | [] => [[c]]
      | piece :: rest => (c :: piece) :: rest

end QueryTree.Text
