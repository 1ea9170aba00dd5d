import AgentGraph.Fields
import AgentGraph.Decimal.Layout
import AgentGraph.Decimal.Nearest

/-! JSON values. Integers that fit into 64 bits stay integers; every other number is a double. The
members of an object are listed in the order they are written in. -/
namespace AgentGraph

set_option autoImplicit false

inductive Json.Number where
  | int (n : Int)
  | float (x : Float)

inductive Json where
  | null
  | bool (b : Bool)
  | number (n : Json.Number)
  | string (s : String)
  | array (items : List Json)
  | object (members : List (String × Json))

instance : Inhabited Json := ⟨.null⟩

namespace Json

/-- The double nearest to an integer. -/
def floatOfInt (n : Int) : Float :=
  let size := Decimal.nearestFloat n.natAbs 0
  if n < 0 then -size else size

def Number.toFloat : Number → Float
  | .int n => floatOfInt n
  | .float x => x

/-- The integer a digit string denotes when it fits into 64 bits; a minus sign before zero or
before too large a number makes it a double. -/
def Number.ofInteger (negative : Bool) (size : Nat) : Number :=
  if negative then
    if size ≠ 0 && size ≤ Decimal.twoTo 63 then .int (-size) else .float (-(Decimal.nearestFloat size 0))
  else if size < Decimal.twoTo 64 then .int size
  else .float (Decimal.nearestFloat size 0)

def ofNat (n : Nat) : Json := .number (.int n)

def ofFloat (x : Float) : Json := .number (.float x)

/-! ## Access -/

def get? : Json → String → Option Json
  | .object members, name => Fields.get? members name
  | _, _ => none

def asString? : Json → Option String
  | .string s => some s
  | _ => none

def asBool? : Json → Option Bool
  | .bool b => some b
  | _ => none

def asArray? : Json → Option (List Json)
  | .array items => some items
  | _ => none

def asObject? : Json → Option (List (String × Json))
  | .object members => some members
  | _ => none

def asInt? : Json → Option Int
  | .number (.int n) => some n
  | _ => none

def asFloat? : Json → Option Float
  | .number n => some n.toFloat
  | _ => none

def isNull : Json → Bool
  | .null => true
  | _ => false

end Json

end AgentGraph
