/-! Any label written with ASCII characters alone.

The ASCII characters come first. Each other character is a number: how many places and smaller
characters lie between it and the one written before. The numbers are written to base 36, the least
digit first; a digit below a threshold ends its number, and the thresholds follow the size of the
numbers before. -/
namespace AgentGraph.Host.Punycode

set_option autoImplicit false

def isAscii (c : Char) : Bool := c.toNat < 0x80

/-! ## Digits -/

def base : Nat := 36

def digitChar (n : Nat) : Char := Char.ofNat (if n < 26 then 'a'.toNat + n else '0'.toNat + n - 26)

def digitOf? (c : Char) : Option Nat :=
  if c.isLower then some (c.toNat - 'a'.toNat)
  else if c.isUpper then some (c.toNat - 'A'.toNat)
  else if c.isDigit then some (c.toNat - '0'.toNat + 26)
  else none

/-- The threshold of the digit with this weight, counted in steps of the base. -/
def threshold (bias step : Nat) : Nat :=
  if step ≤ bias then 1 else if bias + 26 ≤ step then 26 else step - bias

theorem threshold_pos (bias step : Nat) : 0 < threshold bias step := by
  grind [threshold]

def adaptFrom (bias size : Nat) : Nat :=
  if 455 < size then adaptFrom (bias + base) (size / 35) else bias + base * size / (size + 38)
termination_by size

/-- The bias after a number, `count` characters being in place now. -/
def adapt (size count : Nat) (isFirst : Bool) : Nat :=
  let size := if isFirst then size / 700 else size / 2
  adaptFrom 0 (size + size / count)

/-! ## Writing -/

def digits (bias step size : Nat) : List Char :=
  let t := threshold bias step
  if size < t then [digitChar size]
  else digitChar (t + (size - t) % (base - t)) :: digits bias (step + base) ((size - t) / (base - t))
termination_by size
decreasing_by
  have h := threshold_pos bias step
  have h2 := Nat.div_le_self (size - threshold bias step) (base - threshold bias step)
  omega

structure Writing where
  /-- The digits so far, the last one first. -/
  text : List Char
  gap : Nat
  bias : Nat
  /-- How many characters are written. -/
  count : Nat

/-- Passes over a character of the label while `n` is being written. -/
def Writing.pass (basic n : Nat) (w : Writing) (c : Char) : Writing :=
  if c.toNat < n then { w with gap := w.gap + 1 }
  else if c.toNat = n then
    { text := (digits w.bias base w.gap).reverse ++ w.text
      gap := 0
      bias := adapt w.gap (w.count + 1) (w.count == basic)
      count := w.count + 1 }
  else w

/-- Writes the characters with the numbers `ns`, which ascend from `start` on. -/
def writeAll (label : List Char) (basic : Nat) (start : Nat) (w : Writing) : List Nat → Writing
  | [] => w
  | n :: ns =>
    let w := { w with gap := w.gap + (n - start) * (w.count + 1) }
    let w := label.foldl (Writing.pass basic n) w
    writeAll label basic (n + 1) { w with gap := w.gap + 1 } ns

def insertOnce (n : Nat) : List Nat → List Nat
  | [] => [n]
  | m :: ms => if n < m then n :: m :: ms else if n = m then m :: ms else m :: insertOnce n ms

def encode (label : List Char) : List Char :=
  let basic := label.filter isAscii
  let others := ((label.filter (!isAscii ·)).map Char.toNat).foldr insertOnce []
  let w := writeAll label basic.length 0x80 ⟨[], 0, 72, basic.length⟩ others
  basic ++ (if basic.isEmpty then [] else ['-']) ++ w.text.reverse

/-! ## Reading -/

structure Reading where
  label : List Char
  /-- The number of the character that was put in last. -/
  last : Nat
  /-- The place after it. -/
  place : Nat
  bias : Nat
  isFirst : Bool
  /-- The digits of the number at hand: what they come to, the weight and the step of the next. -/
  size : Nat
  weight : Nat
  step : Nat

def isCharNumber (n : Nat) : Bool := n < 0xD800 || (0xDFFF < n && n < 0x110000)

/-- Puts in the character that a number stands for. -/
def Reading.put? (r : Reading) (size : Nat) : Option Reading :=
  let count := r.label.length + 1
  let index := r.place + size
  let n := r.last + index / count
  let place := index % count
  if isCharNumber n then
    some ⟨r.label.take place ++ Char.ofNat n :: r.label.drop place, n, place + 1,
      adapt size count r.isFirst, false, 0, 1, base⟩
  else none

def Reading.digit? (r : Reading) (c : Char) : Option Reading := do
  let n ← digitOf? c
  let size := r.size + n * r.weight
  let t := threshold r.bias r.step
  if n < t then r.put? size
  else return { r with size, weight := r.weight * (base - t), step := r.step + base }

/-- The number at hand has just begun. -/
def Reading.isBetween (r : Reading) : Bool := r.step == base

/-- The part before the last dash, and the part after it; without a dash there is only the
latter. -/
def parts (code : List Char) : List Char × List Char :=
  let last := code.reverse.takeWhile (· ≠ '-')
  ((code.take (code.length - last.length)).dropLast, last.reverse)

/-- The label of a code; a code of ASCII characters alone stands for none. -/
def decode? (code : List Char) : Option (List Char) := do
  let (basic, rest) := parts code
  if !basic.all isAscii || rest.isEmpty then none
  else
    let r ← rest.foldlM Reading.digit? ⟨basic, 0x80, 0, 72, true, 0, 1, base⟩
    if r.isBetween then some r.label else none

end AgentGraph.Host.Punycode
