import AgentGraph.Json.Reader
import AgentGraph.Text.Ascii
import AgentGraph.Text.Blank

/-! Values: what a scope holds, what a run takes in and what a unit hands back. They are JSON values
whose numbers are all doubles. -/
namespace AgentGraph

set_option autoImplicit false

inductive Value where
  | null
  | bool (b : Bool)
  | number (x : Float)
  | string (s : String)
  | array (items : List Value)
  | object (fields : List (String × Value))

instance : Inhabited Value := ⟨.null⟩

/-- The state of a scope, the input of a run: values under names. -/
abbrev ValueMap := Fields Value

namespace Value

/-! ## Values and JSON -/

mutual

def ofJson : Json → Value
  | .null => .null
  | .bool b => .bool b
  | .number n => .number n.toFloat
  | .string s => .string s
  | .array items => .array (ofItems items)
  | .object members => .object (ofMembers members)

def ofItems : List Json → List Value
  | [] => []
  | item :: rest => ofJson item :: ofItems rest

def ofMembers : List (String × Json) → List (String × Value)
  | [] => []
  | (name, value) :: rest => (name, ofJson value) :: ofMembers rest

end

mutual

def toJson : Value → Json
  | .null => .null
  | .bool b => .bool b
  | .number x => .number (.float x)
  | .string s => .string s
  | .array items => .array (toItems items)
  | .object fields => .object (toMembers fields)

def toItems : List Value → List Json
  | [] => []
  | item :: rest => toJson item :: toItems rest

def toMembers : List (String × Value) → List (String × Json)
  | [] => []
  | (name, value) :: rest => (name, toJson value) :: toMembers rest

end

def jsonText (v : Value) : String := v.toJson.compact

/-! ## Reading a value straight from a document

The document is taken in first as it is written, with every member of an object in its place. Then
the kinds of value are tried on it in their order, and the first one that fits is taken. -/

mutual

def content (room : Nat) : Json.Doc → Except Json.Fault Json
  | .scalar _ _ content => content.map Json.ofScalar
  | .broken _ reading _ => .error reading
  | .list start items close => do
    let items ← contentItems (← Json.enter room start) items
    Json.raise close.listFault (.array items)
  | .object start members close => do
    let members ← contentMembers (← Json.enter room start) members
    Json.raise close.objectFault (.object members)

def contentItems (room : Nat) : List Json.Doc → Except Json.Fault (List Json)
  | [] => .ok []
  | item :: rest => do
    let item ← content room item
    return item :: (← contentItems room rest)

def contentMembers (room : Nat) :
    List (Json.Key × Json.Doc) → Except Json.Fault (List (String × Json))
  | [] => .ok []
  | (key, value) :: rest => do
    let name ← key.name
    let value ← content room value
    return (name, value) :: (← contentMembers room rest)

end

mutual

/-- The first kind of value that fits: null, a truth value, a number, a string, an array and then an
object. -/
def ofContent? (j : Json) : Option Value :=
  (if j.isNull then some .null else none) <|> j.asBool?.map .bool <|> j.asFloat?.map .number <|>
    j.asString?.map .string <|>
    (match j with
      | .array items => (itemsOfContent? items).map .array
      | _ => none) <|>
    (match j with
      | .object members => (fieldsOfContent? [] members).map .object
      | _ => none)

def itemsOfContent? : List Json → Option (List Value)
  | [] => some []
  | item :: rest => do
    let item ← ofContent? item
    return item :: (← itemsOfContent? rest)

/-- Puts the members under their names as they come, each over an earlier one of its name. -/
def fieldsOfContent? (fields : ValueMap) : List (String × Json) → Option ValueMap
  | [] => some fields
  | (name, value) :: rest => do
    let value ← ofContent? value
    fieldsOfContent? (fields.insert name value) rest

end

def read : Json.Reader Value := fun room d => do
  let j ← content room d
  match ofContent? j with
  | some v => .ok v
  | none => .error ⟨.noVariant "Value", none⟩

/-! ## Access -/

def asString? : Value → Option String
  | .string s => some s
  | _ => none

def asFloat? : Value → Option Float
  | .number x => some x
  | _ => none

def asBool? : Value → Option Bool
  | .bool b => some b
  | _ => none

def asObject? : Value → Option ValueMap
  | .object fields => some fields
  | _ => none

def isNull : Value → Bool
  | .null => true
  | _ => false

/-- Null and the strings of nothing but blanks. -/
def isBlank : Value → Bool
  | .null => true
  | .string s => Text.isBlankText s
  | _ => false

/-! ## Text -/

/-- A whole number has no sign when it is zero. -/
def numberText (x : Float) : String :=
  if x == 0 then "0" else Decimal.plainText x

/-- A string stands for itself; containers are written as compact JSON. -/
def text : Value → String
  | .null => "null"
  | .bool b => if b then "true" else "false"
  | .number x => numberText x
  | .string s => s
  | .array items => jsonText (.array items)
  | .object fields => jsonText (.object fields)

/-- The text of a value that is not null. -/
def text? : Value → Option String
  | .null => none
  | v => some v.text

def ofInt (n : Int) : Value := .number (Json.floatOfInt n)

/-! ## Equality of form

Two values are the same when they are built alike and their numbers compare equal. -/

mutual

def same : Value → Value → Bool
  | .null, .null => true
  | .bool a, .bool b => a == b
  | .number x, .number y => x == y
  | .string s, .string t => s == t
  | .array xs, .array ys => sameItems xs ys
  | .object xs, .object ys => sameFields xs ys
  | _, _ => false

def sameItems : List Value → List Value → Bool
  | [], [] => true
  | x :: xs, y :: ys => same x y && sameItems xs ys
  | _, _ => false

def sameFields : List (String × Value) → List (String × Value) → Bool
  | [], [] => true
  | (k, x) :: xs, (l, y) :: ys => k == l && same x y && sameFields xs ys
  | _, _ => false

end

end Value

/-! ## Maps -/

namespace ValueMap

/-- The value under exactly this name, else under the first name that differs in case only. -/
def lookup (m : ValueMap) (name : String) : Option Value :=
  match Fields.get? m name with
  | some v => some v
  | none => (m.find? fun e => Text.sameIgnoringCase e.1 name).map Prod.snd

/-- One line `name: text` for every value that is not null, if there is any. -/
def lines? (m : ValueMap) : Option String :=
  match m.filter fun e => !e.2.isNull with
  | [] => none
  | entries => some ("\n".intercalate (entries.map fun e => e.1 ++ ": " ++ e.2.text))

end ValueMap

end AgentGraph
