/-!
Places in a text, counted in the bytes of its UTF-8 form.
-/
namespace QueryTree.Text

/-- How many bytes a text takes. -/
def width : List Char → Nat
  | [] => 0
  | c :: text => c.utf8Size + width text

/-- The first bytes of a text and the others, unless the cut goes through a character. -/
def splitAt? : Nat → List Char → Option (List Char × List Char)
  | 0, text => some ([], text)
  | _ + 1, [] => none
  | n + 1, c :: text =>
    if c.utf8Size ≤ n + 1 then
      (splitAt? (n + 1 - c.utf8Size) text).map fun (first, rest) => (c :: first, rest)
    else none

/-- The text from a place on. -/
def dropTo? (place : Nat) (text : List Char) : Option (List Char) :=
  (splitAt? place text).map Prod.snd

/-- The text of a length from a place on. -/
def cut? (place length : Nat) (text : List Char) : Option (List Char) :=
  (dropTo? place text).bind fun rest => (splitAt? length rest).map Prod.fst

end QueryTree.Text
