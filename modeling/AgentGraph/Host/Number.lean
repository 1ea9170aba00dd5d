import AgentGraph.Host.Name

/-! Hosts that are given by numbers: four bytes with dots between them, or eight groups of sixteen
bits with colons. Both have many spellings and one normal form. -/
namespace AgentGraph.Host

set_option autoImplicit false

/-- A number to a base of at most sixteen; `none` if something else than a digit is in it. -/
def numberIn? (base : Nat) (cs : List Char) : Option Nat :=
  cs.foldlM
    (fun n c =>
      let digit? :=
        if c.isDigit then some (c.toNat - '0'.toNat)
        else if 'a' ≤ c && c ≤ 'f' then some (c.toNat - 'a'.toNat + 10)
        else if 'A' ≤ c && c ≤ 'F' then some (c.toNat - 'A'.toNat + 10)
        else none
      digit?.bind fun d => if d < base then some (base * n + d) else none)
    0

/-! ## Four bytes -/

/-- A number to base 16 after `0x`, to base 8 after `0` and to base 10 otherwise. Nothing at all
after `0x` is zero. -/
def anyNumber? : List Char → Option Nat
  | [] => none
  | '0' :: 'x' :: cs | '0' :: 'X' :: cs => numberIn? 16 cs
  | ['0'] => some 0
  | '0' :: cs => numberIn? 8 cs
  | cs => numberIn? 10 cs

/-- The parts of a name, without the empty one that a dot at the end leaves. -/
def numberParts (cs : List Char) : List (List Char) :=
  let parts := partsAt (· == '.') cs
  if parts.getLast? = some [] then parts.dropLast else parts

/-- A name whose last part is a number is no name. -/
def endsInNumber (cs : List Char) : Bool :=
  match (numberParts cs).getLast? with
  | none => false
  | some part => (!part.isEmpty && part.all Char.isDigit) || (anyNumber? part).isSome

/-- The bytes that the numbers stand for. Each but the last one is a byte; the last one fills all
bytes that are left. -/
def bytesOf? : (room : Nat) → List Nat → Option (List Nat)
  | _, [] => none
  | room, [n] =>
    if n < 256 ^ room then
      some ((List.range room).reverse.map fun place => n / 256 ^ place % 256)
    else none
  | 0, _ :: _ => none
  | room + 1, n :: ns => if n < 256 then (bytesOf? room ns).map (n :: ·) else none

def decimal (n : Nat) : List Char := Nat.toDigits 10 n

def fourBytes? (cs : List Char) : Option (List Char) := do
  let numbers ← (numberParts cs).mapM anyNumber?
  if 4 < numbers.length then none
  else return ['.'].intercalate ((← bytesOf? 4 numbers).map decimal)

/-! ## Eight groups -/

/-- Up to four hexadecimal digits. -/
def group? (cs : List Char) : Option Nat :=
  if cs.isEmpty || 4 < cs.length then none else numberIn? 16 cs

/-- A byte in decimal digits, without a zero in front. -/
def byte? (cs : List Char) : Option Nat :=
  if cs.isEmpty || 3 < cs.length || (1 < cs.length && cs.head? = some '0') then none
  else (numberIn? 10 cs).filter (· < 256)

/-- Four bytes as two groups. -/
def twoGroups? (cs : List Char) : Option (List Nat) := do
  match ← (partsAt (· == '.') cs).mapM byte? with
  | [a, b, c, d] => some [256 * a + b, 256 * c + d]
  | _ => none

/-- Groups with colons between them; four bytes may stand for the last two. -/
def groups? : List (List Char) → Option (List Nat)
  | [] => some []
  | [part] => ((group? part).map fun n => [n]).or (twoGroups? part)
  | part :: parts => do return (← group? part) :: (← groups? parts)

/-- The groups of a part of the text that may be empty. -/
def groupsOf? (cs : List Char) : Option (List Nat) :=
  if cs.isEmpty then some [] else groups? (partsAt (· == ':') cs)

/-- What comes before the first two colons in a row, and what comes after them. -/
def atGap? : List Char → Option (List Char × List Char)
  | ':' :: ':' :: cs => some ([], cs)
  | c :: cs => (atGap? cs).map fun p => (c :: p.1, p.2)
  | [] => none

/-- Two colons in a row stand for one group of zero or more. -/
def eightGroups? (cs : List Char) : Option (List Nat) := do
  match atGap? cs with
  | none => (← groupsOf? cs) |> fun gs => if gs.length = 8 then some gs else none
  | some (before, after) =>
    if before.contains '.' then none
    else
      let before ← groupsOf? before
      let after ← groupsOf? after
      let given := before.length + after.length
      if given < 8 then some (before ++ List.replicate (8 - given) 0 ++ after) else none

/-- The length of the run of zeros that begins here. -/
def zerosFrom (groups : List Nat) (start : Nat) : Nat :=
  ((groups.drop start).takeWhile (· == 0)).length

/-- The beginning of the first of the longest runs of zeros. -/
def longestZeros (groups : List Nat) : Nat :=
  (List.range groups.length).foldl
    (fun best start => if zerosFrom groups best < zerosFrom groups start then start else best) 0

def hexadecimal (groups : List Nat) : List Char := [':'].intercalate (groups.map (Nat.toDigits 16))

/-- A run of two zeros or more is left out, the longest one if there are several. -/
def eightText (groups : List Nat) : List Char :=
  let start := longestZeros groups
  let length := zerosFrom groups start
  if length < 2 then hexadecimal groups
  else
    hexadecimal (groups.take start) ++ [':', ':'] ++ hexadecimal (groups.drop (start + length))

end AgentGraph.Host
