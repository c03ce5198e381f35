import DualToolchain.Binary64

/-! JSON values. Integers are unbounded; a number written with a fraction or an exponent keeps its
decimal digits. Three words stand for numbers that are not finite. -/

namespace DualToolchain

/-- A JSON value; the members of an object are in the order in which they are written. -/
inductive Json where
  | null
  | bool (value : Bool)
  | int (value : Int)
  /-- The number `mantissa * 10 ^ exponent`. -/
  | decimal (mantissa exponent : Int)
  | nonFinite (number : Binary64.NonFinite)
  | str (value : String)
  | arr (items : List Json)
  | obj (members : List (String × Json))
  deriving Inhabited

namespace Json

/-- The last of the members with the key, or nothing outside an object. -/
def get? (key : String) : Json → Option Json
  | .obj members => members.reverse.lookup key
  | _ => none

def strings (texts : List String) : Json :=
  .arr (texts.map .str)

def ofText? (text : Option String) : Json :=
  text.elim .null .str

def ofInt? (n : Option Int) : Json :=
  n.elim .null .int

end Json

end DualToolchain
