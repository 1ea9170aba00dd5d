import AgentGraph.Json.Basic

/-! JSON text. The compact form has no blanks; the indented form puts every item and member on a
line of its own, two blanks deeper than its container, and leaves empty containers closed. -/
namespace AgentGraph.Json

set_option autoImplicit false

/-! ## Scalars -/

def hexDigit (n : Nat) : Char := (Nat.digitChar (n % 16))

/-- A quote, a backslash and the controls are escaped; all else stands for itself. -/
def escapedChar (c : Char) : List Char :=
  match c with
  | '"' => ['\\', '"']
  | '\\' => ['\\', '\\']
  | '\x08' => ['\\', 'b']
  | '\x0c' => ['\\', 'f']
  | '\n' => ['\\', 'n']
  | '\r' => ['\\', 'r']
  | '\t' => ['\\', 't']
  | c =>
    if c.toNat < 0x20 then
      ['\\', 'u', '0', '0', hexDigit (c.toNat / 16), hexDigit c.toNat]
    else [c]

def stringChars (s : String) : List Char := '"' :: s.toList.flatMap escapedChar ++ ['"']

def Number.chars : Number → List Char
  | .int n => (toString n).toList
  | .float x => (Decimal.jsonText x).toList

def boolChars (b : Bool) : List Char := if b then "true".toList else "false".toList

/-! ## Compact text -/

mutual

def compactChars : Json → List Char
  | .null => "null".toList
  | .bool b => boolChars b
  | .number n => n.chars
  | .string s => stringChars s
  | .array items => '[' :: itemChars items ++ [']']
  | .object members => '\x7b' :: memberChars members ++ ['\x7d']

def itemChars : List Json → List Char
  | [] => []
  | [item] => compactChars item
  | item :: next :: rest => compactChars item ++ ',' :: itemChars (next :: rest)

def memberChars : List (String × Json) → List Char
  | [] => []
  | [(name, value)] => stringChars name ++ ':' :: compactChars value
  | (name, value) :: next :: rest =>
    stringChars name ++ ':' :: (compactChars value ++ ',' :: memberChars (next :: rest))

end

def compact (j : Json) : String := String.ofList (compactChars j)

/-! ## Indented text -/

def newline (depth : Nat) : List Char := '\n' :: List.replicate (2 * depth) ' '

mutual

def indentedChars (depth : Nat) : Json → List Char
  | .null => "null".toList
  | .bool b => boolChars b
  | .number n => n.chars
  | .string s => stringChars s
  | .array [] => ['[', ']']
  | .array (item :: rest) =>
    '[' :: newline (depth + 1) ++ indentedChars (depth + 1) item ++
      indentedItems (depth + 1) rest ++ newline depth ++ [']']
  | .object [] => ['\x7b', '\x7d']
  | .object ((name, value) :: rest) =>
    '\x7b' :: newline (depth + 1) ++ stringChars name ++ ':' :: ' ' ::
      (indentedChars (depth + 1) value ++ indentedMembers (depth + 1) rest ++ newline depth ++
        ['\x7d'])

def indentedItems (depth : Nat) : List Json → List Char
  | [] => []
  | item :: rest =>
    ',' :: newline depth ++ indentedChars depth item ++ indentedItems depth rest

def indentedMembers (depth : Nat) : List (String × Json) → List Char
  | [] => []
  | (name, value) :: rest =>
    ',' :: newline depth ++ stringChars name ++ ':' :: ' ' ::
      (indentedChars depth value ++ indentedMembers depth rest)

end

def indented (j : Json) : String := String.ofList (indentedChars 0 j)

/-! ## Order of members -/

mutual

/-- The same value with the members of every object in the order of their names. -/
def sorted : Json → Json
  | .array items => .array (sortedItems items)
  | .object members => .object (Fields.ofList (sortedMembers members))
  | scalar => scalar

def sortedItems : List Json → List Json
  | [] => []
  | item :: rest => sorted item :: sortedItems rest

def sortedMembers : List (String × Json) → List (String × Json)
  | [] => []
  | (name, value) :: rest => (name, sorted value) :: sortedMembers rest

end

end AgentGraph.Json
