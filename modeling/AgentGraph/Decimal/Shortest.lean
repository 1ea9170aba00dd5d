import AgentGraph.Decimal.Power

/-! The fewest decimal digits that read back as a given double.

A finite double is `m * 2 ^ q`. The reals that round to it form an interval around it, with its
ends included when `m` is even. On the grid of the multiples of `10 ^ e` the value has two
neighbours, one on each side; if any point of the grid lies in the interval, one of the two does.
The search walks from the coarsest grid that matters to finer ones and takes the first hit, of two
hits the nearer one. Which of two equally near ones is taken is up to whoever asks. -/
namespace AgentGraph.Decimal

set_option autoImplicit false

/-- The number `mantissa * 10 ^ exponent`, written with as many digits as `mantissa` has. -/
structure Digits where
  mantissa : Nat
  exponent : Int
deriving Repr, DecidableEq

/-- A finite double apart from its sign: `mantissa * 2 ^ exponent`. -/
structure Binary where
  mantissa : Nat
  exponent : Int
  /-- The next double towards zero is only half as far as the next one away from it. -/
  lowestOfBinade : Bool
deriving Repr, DecidableEq

def Binary.ofBits (bits : Nat) : Binary :=
  let field : Nat := bits / twoTo 52 % twoTo 11
  let fraction : Nat := bits % twoTo 52
  if field = 0 then ⟨fraction, -1074, false⟩
  else ⟨twoTo 52 + fraction, (field : Int) - 1075, fraction = 0 && 1 < field⟩

/-! ## The interval that rounds to a double

All four quantities are numerators over one common denominator. -/

structure Interval where
  value : Nat
  below : Nat
  above : Nat
  denominator : Nat
  closed : Bool

def Binary.interval (b : Binary) : Interval :=
  let scale (n : Nat) : Nat := if 0 ≤ b.exponent then n * twoTo b.exponent.toNat else n
  let unit := if 0 ≤ b.exponent then 1 else twoTo (-b.exponent).toNat
  { value := scale (4 * b.mantissa)
    below := scale (if b.lowestOfBinade then 1 else 2)
    above := scale 2
    denominator := 4 * unit
    closed := b.mantissa % 2 = 0 }

/-! ## Grids -/

/-- The grid points next to the value on the grid of the multiples of `10 ^ e` that read back as
it, each with its distance from the value. -/
def Interval.candidates (i : Interval) (e : Int) : List (Nat × Nat) :=
  let up := if 0 ≤ e then 1 else tenTo (-e).toNat
  let step := i.denominator * if 0 ≤ e then tenTo e.toNat else 1
  let value := i.value * up
  let low := value / step
  let fits (distance radius : Nat) : Bool :=
    if i.closed then distance ≤ radius * up else distance < radius * up
  let down := value - low * step
  let rise := (low + 1) * step - value
  (if low ≠ 0 && fits down i.below then [(low, down)] else []) ++
    (if fits rise i.above then [(low + 1, rise)] else [])

/-- What becomes of a number halfway between two candidates. -/
inductive Tie where
  /-- It goes to the even one. -/
  | toEven
  /-- It goes to the one farther from zero. -/
  | awayFromZero
deriving DecidableEq, Repr

def Tie.pick (tie : Tie) (low high : Nat) : Nat :=
  match tie with
  | .toEven => if low % 2 = 0 then low else high
  | .awayFromZero => high

/-- Of two candidates, the lower one first, the nearer one. -/
def nearest (tie : Tie) : List (Nat × Nat) → Option Nat
  | [] => none
  | [a] => some a.1
  | a :: b :: _ =>
    if a.2 < b.2 then some a.1
    else if b.2 < a.2 then some b.1
    else some (tie.pick a.1 b.1)

/-- The first of `count` grids, each ten times finer than the one before, that holds a candidate. -/
def Interval.search (i : Interval) (tie : Tie) (e : Int) : Nat → Digits
  | 0 => ⟨0, 0⟩
  | count + 1 =>
    match nearest tie (i.candidates e) with
    | some mantissa => ⟨mantissa, e⟩
    | none => i.search tie (e - 1) count

/-- The number without the zeros its mantissa ends in. -/
def Digits.strip (d : Digits) : Nat → Digits
  | 0 => d
  | fuel + 1 =>
    if d.mantissa ≠ 0 && d.mantissa % 10 = 0 then
      Digits.strip ⟨d.mantissa / 10, d.exponent + 1⟩ fuel
    else d

/-- An exponent of ten whose grid is coarser than every grid that can hold a candidate. -/
def Binary.coarsest (b : Binary) : Int :=
  (b.mantissa.log2 + b.exponent + 1) * 30103 / 100000 + 2

/-- The shortest digits of `b`; a double needs at most seventeen, and a few grids at the start are
too coarse. -/
def Binary.shortest (b : Binary) (tie : Tie) : Digits :=
  if b.mantissa = 0 then ⟨0, 0⟩
  else (b.interval.search tie b.coarsest 24).strip 24

/-! ## Doubles -/

/-- What a double is, for printing. -/
inductive Reading where
  | nan
  | infinite (negative : Bool)
  | finite (negative : Bool) (size : Binary)
deriving Repr, DecidableEq

def Reading.ofBits (bits : Nat) : Reading :=
  let negative := bits / twoTo 63 % 2 = 1
  if bits / twoTo 52 % twoTo 11 = 2047 then
    if bits % twoTo 52 = 0 then .infinite negative else .nan
  else .finite negative (.ofBits bits)

def Reading.ofFloat (x : Float) : Reading := .ofBits x.toBits.toNat

end AgentGraph.Decimal
