import QueryTree.Text.Invisible

/-!
Text as it is shown in messages: between double quotes, with a backslash before what would end or
garble the line. Characters without a shape of their own are shown by their number.
-/
namespace QueryTree.Text

/-- A character by its number, in lower case hexadecimal digits without leading zeros. -/
def byNumber (c : Char) : String :=
  "\\u\x7b" ++ String.ofList (Nat.toDigits 16 c.toNat) ++ "\x7d"

/-- How one character is shown between double quotes. -/
def quotedChar (c : Char) : String :=
  if c = '\x00' then "\\0"
  else if c = '\t' then "\\t"
  else if c = '\r' then "\\r"
  else if c = '\n' then "\\n"
  else if c = '"' then "\\\""
  else if c = '\\' then "\\\\"
  else if c.toNat < 0x20 || c.toNat == 0x7f || isInvisible c then byNumber c
  else c.toString

/-- The text between double quotes. -/
def quoted (s : String) : String :=
  "\"" ++ String.join (s.toList.map quotedChar) ++ "\""

/-- A text that may be absent: `None`, or the quoted text in `Some(…)`. -/
def quotedOption : Option String → String
  | none => "None"
  | some s => "Some(" ++ quoted s ++ ")"

end QueryTree.Text
