import AgentGraph.Json.Document

/-! Reading values of a type from a document.

A reader takes the room that is left for nested containers and a document, and gives a value or
the first fault it meets. Records may be given as objects or as lists of their fields in order;
unknown members are skipped, a known member may be given once only, and a field that is not
required keeps its default. -/
namespace AgentGraph.Json

set_option autoImplicit false

abbrev Reader (α : Type) := Nat → Doc → Except Fault α

/-- The number of containers that may be open inside one another. -/
def maxDepth : Nat := 127

def raise {α : Type} : Option Fault → α → Except Fault α
  | none, a => .ok a
  | some f, _ => .error f

/-! ## Skipping -/

mutual

def Doc.skip : Doc → Except Fault PUnit
  | .scalar _ _ _ => .ok ()
  | .broken _ _ skipping => .error skipping
  | .list _ items close => do
    skipItems items
    raise close.listFaultSkipping ()
  | .object _ members close => do
    skipMembers members
    raise close.objectFaultSkipping ()

def skipItems : List Doc → Except Fault PUnit
  | [] => .ok ()
  | item :: rest => do
    item.skip
    skipItems rest

def skipMembers : List (Key × Doc) → Except Fault PUnit
  | [] => .ok ()
  | (_, value) :: rest => do
    value.skip
    skipMembers rest

end

/-! ## Values of any kind -/

/-- The room inside a container that begins here. -/
def enter (room : Nat) (start : Option Nat) : Except Fault Nat :=
  match room with
  | 0 => .error ⟨.nestedTooDeep, start.map (· + 1)⟩
  | inner + 1 => .ok inner

def ofScalar : Scalar → Json
  | .null => .null
  | .bool b => .bool b
  | .number n => .number n
  | .string s => .string s

mutual

/-- Any JSON value. Objects are put in the order of their names; of several members with one name
the last one wins. -/
def readAny (room : Nat) : Doc → Except Fault Json
  | .scalar _ _ content => content.map ofScalar
  | .broken _ reading _ => .error reading
  | .list start items close => do
    let items ← readAnyItems (← enter room start) items
    raise close.listFault (.array items)
  | .object start members close => do
    let members ← readAnyMembers (← enter room start) members
    raise close.objectFault (.object (Fields.ofList members))

def readAnyItems (room : Nat) : List Doc → Except Fault (List Json)
  | [] => .ok []
  | item :: rest => do
    let item ← readAny room item
    return item :: (← readAnyItems room rest)

def readAnyMembers (room : Nat) : List (Key × Doc) → Except Fault (List (String × Json))
  | [] => .ok []
  | (key, value) :: rest => do
    let name ← key.name
    let value ← readAny room value
    return (name, value) :: (← readAnyMembers room rest)

end

/-! ## Values of one kind -/

def Scalar.found : Scalar → Found
  | .null => .null
  | .bool b => .bool b
  | .number n => .number n
  | .string s => .string s

/-- The fault that something else is found than what is expected; it is reported after a scalar
and before a container. -/
def Doc.mismatch (d : Doc) (expected : String) : Fault :=
  match d with
  | .scalar stop _ content =>
    match content with
    | .ok s => ⟨.wrongType s.found expected, stop⟩
    | .error f => f
  | .list start _ _ => ⟨.wrongType .sequence expected, start⟩
  | .object start _ _ => ⟨.wrongType .map expected, start⟩
  | .broken _ reading _ => reading

def readString : Reader String := fun _ d =>
  match d with
  | .scalar _ _ (.ok (.string s)) => .ok s
  | d => .error (d.mismatch "a string")

def readBool : Reader Bool := fun _ d =>
  match d with
  | .scalar _ _ (.ok (.bool b)) => .ok b
  | d => .error (d.mismatch "a boolean")

def readFloat : Reader Float := fun _ d =>
  match d with
  | .scalar _ _ (.ok (.number n)) => .ok n.toFloat
  | d => .error (d.mismatch "f64")

/-- A whole number below `2 ^ width`; `expected` names the kind of number. -/
def readNat (width : Nat) (expected : String) : Reader Nat := fun _ d =>
  match d with
  | .scalar stop _ (.ok (.number (.int n))) =>
    if 0 ≤ n && n < Decimal.twoTo width then .ok n.toNat else .error ⟨.wrongValue (.int n) expected, stop⟩
  | d => .error (d.mismatch expected)

/-- A value that may also be null. -/
def readOption {α : Type} (reader : Reader α) : Reader (Option α) := fun room d =>
  match d with
  | .scalar _ _ (.ok .null) => .ok none
  | d => (reader room d).map some

def readList {α : Type} (reader : Reader α) : Reader (List α) := fun room d =>
  match d with
  | .list start items close => do
    let inner ← enter room start
    let items ← items.mapM (reader inner)
    raise close.listFault items
  | d => .error (d.mismatch "a sequence")

/-- The members of an object; of several with one name the last one wins. -/
def readFields {α : Type} (reader : Reader α) : Reader (Fields α) := fun room d =>
  match d with
  | .object start members close => do
    let inner ← enter room start
    let members ← members.mapM fun m => do
      let name ← m.1.name
      return (name, ← reader inner m.2)
    raise close.objectFault (Fields.ofList members)
  | d => .error (d.mismatch "a map")

/-! ## Records -/

/-- A field of a record of type `α`: how its value is put into the record. -/
structure Field (α : Type) where
  name : String
  required : Bool
  read : Nat → Doc → α → Except Fault α

def Field.of {α β : Type} (name : String) (required : Bool) (reader : Reader β)
    (put : β → α → α) : Field α :=
  ⟨name, required, fun room d a => (reader room d).map (put · a)⟩

structure Record (α : Type) where
  name : String
  fields : List (Field α)

def Record.expected {α : Type} (r : Record α) : String := "struct " ++ r.name

def Record.expectedLength {α : Type} (r : Record α) : String :=
  r.expected ++ " with " ++ toString r.fields.length ++
    (if r.fields.length = 1 then " element" else " elements")

/-- Puts the members into the record one by one; gives the names that were seen too. -/
def Record.readMembers {α : Type} (r : Record α) (room : Nat) (seen : List String) (a : α) :
    List (Key × Doc) → Except Fault (List String × α)
  | [] => .ok (seen, a)
  | (key, value) :: rest => do
    let name ← key.name
    match r.fields.find? (·.name == name) with
    | none =>
      value.skip
      r.readMembers room seen a rest
    | some field =>
      if seen.contains name then .error ⟨.duplicateField name, key.stop⟩
      else
        let a ← field.read room value a
        r.readMembers room (name :: seen) a rest

/-- Puts the items into the fields one by one; gives the items that are left over. `count` fields
were passed before, with an item or, where none is required, without one. -/
def Record.readItems {α : Type} (r : Record α) (room count : Nat) (close : Close) (a : α) :
    List (Field α) → List Doc → Except Fault (List Doc × α)
  | [], items => .ok (items, a)
  | field :: fields, [] => do
    raise close.listFault ()
    if field.required then .error ⟨.wrongLength count r.expectedLength, close.stop⟩
    else r.readItems room (count + 1) close a fields []
  | field :: fields, item :: items => do
    let a ← field.read room item a
    r.readItems room (count + 1) close a fields items

/-- The fault of the items that no field takes. -/
def surplus (total : Nat) (close : Close) : List Doc → Option Fault
  | [] => close.surplusFault
  | item :: _ =>
    match item.start with
    | some start => some (fault .trailingCharacters (start + 1))
    | none => some ⟨.wrongLength total "fewer elements in array", none⟩

def Record.read {α : Type} (r : Record α) (empty : α) : Reader α := fun room d =>
  match d with
  | .list start items close => do
    let inner ← enter room start
    let (rest, a) ← r.readItems inner 0 close empty r.fields items
    raise (surplus items.length close rest) a
  | .object start members close => do
    let inner ← enter room start
    let (seen, a) ← r.readMembers inner [] empty members
    raise close.objectFault ()
    match r.fields.find? fun field => field.required && !seen.contains field.name with
    | some field => .error ⟨.missingField field.name, close.stop⟩
    | none => .ok a
  | d => .error (d.mismatch r.expected)

/-! ## Reading texts and values -/

def Reader.onChars {α : Type} (reader : Reader α) (cs : List Char) : Except Fault α := do
  let (d, after) := Doc.ofChars cs
  let a ← reader maxDepth d
  raise (after.map fun offset => fault .trailingCharacters (offset + 1)) a

/-- Reads a whole text. -/
def Reader.onText {α : Type} (reader : Reader α) (text : String) : Except Error α :=
  (reader.onChars text.toList).mapError (·.locate text.toList)

/-- Reads a value that is no text; its faults have no places. -/
def Reader.onJson {α : Type} (reader : Reader α) (j : Json) : Except Error α :=
  (reader maxDepth (Doc.ofJson j)).mapError (·.locate [])

def parse (text : String) : Except Error Json := Reader.onText readAny text

end AgentGraph.Json
