import AgentGraph.Decimal.Shortest

/-! How a double is laid out as text. The digits are the shortest ones; a layout decides which
way ties go, which decimal exponents are written positionally, whether a whole number gets a
fraction, and what stands for the values that are no numbers. -/
namespace AgentGraph.Decimal

set_option autoImplicit false

structure Layout where
  tie : Tie
  /-- The exponents of the leading digit that are written positionally, the upper bound left out;
  `none` writes all of them so. -/
  positional : Option (Int × Int)
  /-- A whole number written positionally ends in `.0`. -/
  wholeFraction : Bool
  nan : String
  infinity : String
  negativeInfinity : String

/-- In JSON text a tie goes to the even digit, a number keeps a fraction, is positional from
`0.00001` up to sixteen digits, and must be finite. -/
def Layout.json : Layout := ⟨.toEven, some (-5, 16), true, "null", "null", "null"⟩

/-- In running text a tie goes away from zero, a number never has an exponent, and a whole one has
no fraction. -/
def Layout.plain : Layout := ⟨.awayFromZero, none, false, "NaN", "inf", "-inf"⟩

/-! ## Writing -/

def digitChars (n : Nat) : List Char := Nat.toDigits 10 n

/-- The exponent of the leading digit. -/
def Digits.magnitude (d : Digits) : Int := d.exponent + (digitChars d.mantissa).length - 1

def Digits.positional (d : Digits) (wholeFraction : Bool) : List Char :=
  let cs := digitChars d.mantissa
  if 0 ≤ d.exponent then
    (if d.mantissa = 0 then ['0'] else cs ++ List.replicate d.exponent.toNat '0') ++
      (if wholeFraction then ['.', '0'] else [])
  else
    let places := (-d.exponent).toNat
    if places < cs.length then cs.take (cs.length - places) ++ '.' :: cs.drop (cs.length - places)
    else '0' :: '.' :: (List.replicate (places - cs.length) '0' ++ cs)

def Digits.scientific (d : Digits) : List Char :=
  let magnitude := d.magnitude
  let sign := if magnitude < 0 then '-' else '+'
  let exponent := 'e' :: sign :: digitChars magnitude.natAbs
  match digitChars d.mantissa with
  | [] => exponent
  | [c] => c :: exponent
  | c :: cs => c :: '.' :: cs ++ exponent

def Layout.isPositional (l : Layout) (d : Digits) : Bool :=
  match l.positional with
  | none => true
  | some (low, high) => d.mantissa = 0 || (low ≤ d.magnitude && d.magnitude < high)

def Layout.chars (l : Layout) (d : Digits) : List Char :=
  if l.isPositional d then d.positional l.wholeFraction else d.scientific

def Layout.text (l : Layout) : Reading → String
  | .nan => l.nan
  | .infinite negative => if negative then l.negativeInfinity else l.infinity
  | .finite negative size =>
    let cs := l.chars (size.shortest l.tie)
    String.ofList (if negative then '-' :: cs else cs)

/-- The text of a double in JSON. -/
def jsonText (x : Float) : String := Layout.json.text (.ofFloat x)

/-- The text of a double for a reader. -/
def plainText (x : Float) : String := Layout.plain.text (.ofFloat x)

end AgentGraph.Decimal
