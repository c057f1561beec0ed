/-!
JSON values. A number keeps the way in which it was written as far as a reader may care: a whole
number written without point and exponent is an integer, anything else a decimal.
-/
namespace QueryTree

/-- A number as it is written. -/
inductive Number where
  | integer (value : Int)
  /-- The digits times a power of ten. The sign is kept apart, so that there are two zeros. -/
  | decimal (negative : Bool) (digits : Nat) (exponent : Int)
  deriving DecidableEq

/-- A JSON value. Of several entries of an object under one key the first counts. -/
inductive Json where
  | null
  | bool (value : Bool)
  | number (value : Number)
  | string (value : String)
  | array (items : List Json)
  | object (entries : List (String × Json))
  deriving Inhabited

namespace Json

/-- The entry of an object under a key. -/
def lookup? (key : String) : List (String × Json) → Option Json
  | [] => none
  | (name, value) :: rest => if name = key then some value else lookup? key rest

/-- The value under a key, if this is an object that has the key. -/
def field? (key : String) : Json → Option Json
  | .object entries => lookup? key entries
  | _ => none

mutual

/-- How deep arrays and objects are nested. -/
def depth : Json → Nat
  | .array items => itemsDepth items + 1
  | .object entries => entriesDepth entries + 1
  | _ => 0

def itemsDepth : List Json → Nat
  | [] => 0
  | item :: rest => max item.depth (itemsDepth rest)

def entriesDepth : List (String × Json) → Nat
  | [] => 0
  | (_, value) :: rest => max value.depth (entriesDepth rest)

end

end Json
end QueryTree
