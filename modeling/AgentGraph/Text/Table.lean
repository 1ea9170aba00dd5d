/-! Tables of numbers, written as rows of text. An entry is a group of hexadecimal numbers joined by
dashes; the entries of a row are parted by blanks. -/
namespace AgentGraph.Text

set_option autoImplicit false

abbrev Entry := List Nat

def hexDigitValue (c : Char) : Nat :=
  if c.isDigit then c.toNat - '0'.toNat else c.toNat - 'A'.toNat + 10

/-- `number` and `numbers` are what was read of the entry at hand, the last number first. -/
def readEntries (numbers : Entry) (number : Nat) : List Char → List Entry
  | [] => [(number :: numbers).reverse]
  | c :: cs =>
    if c = ' ' then (number :: numbers).reverse :: readEntries [] 0 cs
    else if c = '-' then readEntries (number :: numbers) 0 cs
    else readEntries numbers (16 * number + hexDigitValue c) cs

def tableOf (rows : List String) : List Entry := rows.flatMap fun row => readEntries [] 0 row.toList

/-- In a table of runs, each with its first and its last number: whether `n` is in a run. -/
def isInRun (table : List Entry) (n : Nat) : Bool :=
  table.any fun e =>
    match e with
    | [first, last] => first ≤ n && n ≤ last
    | _ => false

/-- In a table of runs with a value each: the value of the run that `n` is in. -/
def runValue? (table : List Entry) (n : Nat) : Option Nat :=
  table.findSome? fun e =>
    match e with
    | [first, last, value] => if first ≤ n && n ≤ last then some value else none
    | _ => none

end AgentGraph.Text
