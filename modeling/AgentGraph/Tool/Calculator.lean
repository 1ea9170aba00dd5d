import AgentGraph.Decimal.Layout
import AgentGraph.Decimal.Nearest
import AgentGraph.Text.Blank
import AgentGraph.Text.DecimalDigit

/-! A calculator for `+ - * / ( )`.

An expression is evaluated while it is read, with the usual precedence, both kinds of operation
grouping to the left. Parentheses and signs may nest so far and no further. The first problem ends
the evaluation; whoever asked gets it as text. -/
namespace AgentGraph.Calculator

set_option autoImplicit false

/-! ## Problems -/

inductive Problem where
  | endOfExpression
  | unexpected (c : Char)
  | parenthesisMissing
  | nestedTooDeep
  | numberExpected
  | invalidNumber (literal : String)
  | divisionByZero
deriving DecidableEq, Repr

/-- How deep parentheses and signs may nest. -/
def maxNesting : Nat := 64

def Problem.message : Problem → String
  | .endOfExpression => "unexpected end of expression"
  | .unexpected c => "unexpected '" ++ c.toString ++ "'"
  | .parenthesisMissing => "missing ')'"
  | .nestedTooDeep => "expression nested deeper than " ++ toString maxNesting ++ " levels"
  | .numberExpected => "expected number"
  | .invalidNumber literal => "invalid number '" ++ literal ++ "'"
  | .divisionByZero => "division by zero"

/-! ## Reading -/

/-- The blanks that may stand between the parts of an expression. -/
def isGap (c : Char) : Bool := c = ' ' || c = '\t' || c = '\n' || c = '\x0c' || c = '\r'

def dropGaps (cs : List Char) : List Char := cs.dropWhile isGap

theorem dropGaps_length_le (cs : List Char) : (dropGaps cs).length ≤ cs.length :=
  (List.dropWhile_sublist _).length_le

/-- A number and the text after it, which is shorter than `cs`. -/
abbrev Read (cs : List Char) := Float × { rest : List Char // rest.length < cs.length }

/-- What an operand leaves behind is shorter than what it began with. -/
abbrev Operand := (cs : List Char) → Except Problem (Read cs)

def isNumberChar (c : Char) : Bool := c.isDigit || c == '.'

def number : Operand := fun cs =>
  match cs with
  | [] => .error .numberExpected
  | c :: after =>
    if isNumberChar c then
      let literal := c :: after.takeWhile isNumberChar
      match Decimal.literal? literal with
      | some x =>
        .ok (x, ⟨after.dropWhile isNumberChar,
          Nat.lt_succ_of_le (List.dropWhile_sublist _).length_le⟩)
      | none => .error (.invalidNumber (String.ofList literal))
    else .error .numberExpected

/-! ## Chains of operations -/

abbrev Operation := Float → Float → Except Problem Float

def sum? : Char → Option Operation
  | '+' => some fun x y => .ok (x + y)
  | '-' => some fun x y => .ok (x - y)
  | _ => none

def product? : Char → Option Operation
  | '*' => some fun x y => .ok (x * y)
  | '/' => some fun x y => if y == 0 then .error .divisionByZero else .ok (x / y)
  | _ => none

/-- Applies one operation after the other to `x`, as long as one follows. -/
def chain (operand : Operand) (operation? : Char → Option Operation) (x : Float) (cs : List Char) :
    Except Problem (Float × { rest : List Char // rest.length ≤ cs.length }) :=
  have gaps := dropGaps_length_le cs
  match h : dropGaps cs with
  | [] => .ok (x, ⟨cs, Nat.le_refl _⟩)
  | c :: after =>
    match operation? c with
    | none => .ok (x, ⟨cs, Nat.le_refl _⟩)
    | some operation =>
      match operand after with
      | .error p => .error p
      | .ok (y, ⟨rest, shorter⟩) =>
        have : rest.length < cs.length := by
          rw [h, List.length_cons] at gaps
          omega
        match operation x y with
        | .error p => .error p
        | .ok z =>
          match chain operand operation? z rest with
          | .error p => .error p
          | .ok (w, ⟨last, le⟩) => .ok (w, ⟨last, Nat.le_trans le (Nat.le_of_lt this)⟩)
termination_by cs.length

/-- An operand and the operations that follow it. -/
def Operand.chained (operand : Operand) (operation? : Char → Option Operation) : Operand :=
  fun cs =>
    match operand cs with
    | .error p => .error p
    | .ok (x, ⟨rest, shorter⟩) =>
      match chain operand operation? x rest with
      | .error p => .error p
      | .ok (y, ⟨last, le⟩) => .ok (y, ⟨last, Nat.lt_of_le_of_lt le shorter⟩)

/-- An expression over a kind of factor. -/
def Operand.expression (factor : Operand) : Operand :=
  (factor.chained product?).chained sum?

/-! ## Factors -/

/-- A factor inside `room` more levels of nesting: a number, an expression in parentheses or a
signed factor. -/
def factor (room : Nat) : Operand := fun cs =>
  have gaps := dropGaps_length_le cs
  match h : dropGaps cs with
  | [] => .error .endOfExpression
  | c :: after =>
    have shorter : after.length < cs.length := by
      rw [h, List.length_cons] at gaps
      omega
    if c = '(' then
      match room with
      | 0 => .error .nestedTooDeep
      | inner + 1 =>
        match (Operand.expression (factor inner)) after with
        | .error p => .error p
        | .ok (x, ⟨rest, lt⟩) =>
          have gaps := dropGaps_length_le rest
          match h : dropGaps rest with
          | ')' :: last =>
            .ok (x, ⟨last, by
              rw [h, List.length_cons] at gaps
              omega⟩)
          | _ => .error .parenthesisMissing
    else if c = '+' || c = '-' then
      match room with
      | 0 => .error .nestedTooDeep
      | inner + 1 =>
        match factor inner after with
        | .error p => .error p
        | .ok (x, ⟨rest, lt⟩) => .ok (if c = '-' then -x else x, ⟨rest, Nat.lt_trans lt shorter⟩)
    else
      match number (c :: after) with
      | .error p => .error p
      | .ok (x, ⟨rest, lt⟩) => .ok (x, ⟨rest, Nat.lt_of_lt_of_le lt (by rw [← h]; exact gaps)⟩)
termination_by room

/-! ## Whole expressions -/

/-- The character with the code of the first byte of `c` in UTF-8. -/
def leadByte (c : Char) : Char :=
  let n := c.toNat
  if n < 0x80 then c
  else if n < 0x800 then Char.ofNat (0xC0 + n / 0x40)
  else if n < 0x10000 then Char.ofNat (0xE0 + n / 0x1000)
  else Char.ofNat (0xF0 + n / 0x40000)

def evaluate (expression : String) : Except Problem Float :=
  match (Operand.expression (factor maxNesting)) expression.toList with
  | .error p => .error p
  | .ok (x, ⟨rest, _⟩) =>
    match dropGaps rest with
    | [] => .ok x
    | c :: _ => .error (.unexpected (leadByte c))

/-- The characters of an expression: decimal digits and blanks of any script, operators,
parentheses and points. -/
def isExpressionChar (c : Char) : Bool :=
  Text.isDecimalDigit c || Text.isBlank c || c == '+' || c == '-' || c == '*' || c == '/' ||
    c == '(' || c == ')' || c == '.'

/-- The result as text, or what is wrong. -/
def calculate (expression : String) : String :=
  let trimmed := Text.trim expression
  if trimmed.isEmpty then "Empty expression"
  else if !trimmed.toList.all isExpressionChar then
    "Invalid characters in expression. Use only numbers and + - * / ( )"
  else
    match evaluate trimmed with
    | .ok x => Decimal.plainText x
    | .error p => "Error: " ++ p.message

end AgentGraph.Calculator
