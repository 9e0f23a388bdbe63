import DebugDashboard.Number.Binary64

/-!
# JSON values

An object keeps its fields in the order in which their keys first appeared, each key once.
-/

namespace DebugDashboard

/-- A JSON number: an integer that fits into a signed or an unsigned word of 64 bits, or a
double. -/
inductive Json.Number where
  | integer (i : Int)
  | double (x : Binary64)
  deriving Repr, DecidableEq

/-- A JSON value. -/
inductive Json where
  | null
  | bool (b : Bool)
  | number (n : Json.Number)
  | string (s : String)
  | array (items : List Json)
  | object (fields : List (String × Json))
  deriving Repr, BEq, Inhabited

/-- The fields of an object, in order. -/
abbrev Fields := List (String × Json)

namespace Fields

def get? (fields : Fields) (key : String) : Option Json :=
  fields.lookup key

/-- The fields with a value for the key: in its place if the key is there, else at the end. -/
def put : Fields → String → Json → Fields
  | [], key, value => [(key, value)]
  | (k, v) :: rest, key, value =>
    if k = key then (k, value) :: rest else (k, v) :: put rest key value

end Fields

namespace Json

/-- The double nearest to a number. -/
def Number.toDouble : Number → Binary64
  | .integer i => Binary64.ofInt i
  | .double x => x

/-- The number as an unsigned word: a whole number as it is, a double without its fraction and at
most the greatest word; none below zero. -/
def Number.toWord? : Number → Option Nat
  | .integer i => if i < 0 then none else some i.toNat
  | .double x => x.truncateUnsigned?

end Json

end DebugDashboard
