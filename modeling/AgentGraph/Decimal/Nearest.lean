/-! The double nearest to a decimal number. Numbers beyond the largest double round to infinity and
those below half the smallest one to zero; their size is settled by counting digits, before any
power of ten is taken. -/
namespace AgentGraph.Decimal

set_option autoImplicit false

/-- The double nearest to `mantissa * 10 ^ exponent`, a tie going to the even one. -/
def nearestFloat (mantissa : Nat) (exponent : Int) : Float :=
  if mantissa = 0 then 0
  else
    let magnitude := exponent + (Nat.toDigits 10 mantissa).length
    if 400 < magnitude then 1 / 0
    else if magnitude < -400 then 0
    else Float.ofScientific mantissa (exponent < 0) exponent.natAbs

/-- The number a run of decimal digits stands for. -/
def digitsValue (cs : List Char) : Nat :=
  cs.foldl (fun n c => 10 * n + (c.toNat - '0'.toNat)) 0

/-- The double that a literal of ASCII digits with at most one point denotes; a literal needs a
digit. -/
def literal? (cs : List Char) : Option Float :=
  let whole := cs.takeWhile Char.isDigit
  match cs.dropWhile Char.isDigit with
  | [] => if whole.isEmpty then none else some (nearestFloat (digitsValue whole) 0)
  | '.' :: places =>
    if places.all Char.isDigit && !(whole.isEmpty && places.isEmpty) then
      some (nearestFloat (digitsValue (whole ++ places)) (-(places.length : Int)))
    else none
  | _ => none

end AgentGraph.Decimal
