import AgentGraph.Value.Basic

/-! The message that a map suggests without a template.

A map may name its message by convention: under `metadata`, or at the top if there is no such
entry, a well-known name holds it; failing that, all entries are listed. The word `default` is no
message; where it is given as one, a generic instruction takes its place. -/
namespace AgentGraph.Prompt

set_option autoImplicit false

/-- Stands in for the word `default`. -/
def genericInstruction : String := "Please help me with a short task."

/-- Stands in for no message at all. -/
def fallbackInstruction : String := "Please respond."

/-- The names that hold a message, the first ones before the others. -/
def messageNames : List String :=
  ["prompt", "query", "task", "instruction", "request", "text", "message"]

def isDefault (text : String) : Bool := Text.sameIgnoringCase (Text.trim text) "default"

def orGeneric (text : String) : String := if isDefault text then genericInstruction else text

/-- The text of the value under a name, if it has one that shows. -/
def namedText? (fields : ValueMap) (name : String) : Option String :=
  ((fields.lookup name).bind Value.text?).bind Text.visible?

/-- All entries as lines, unless they come to nothing or to the word `default`. -/
def listing? (m : ValueMap) : Option String :=
  m.lines?.filter fun text => !Text.isBlankText text && !isDefault text

/-- The first message under a well-known name, else all entries. -/
def ofFields? (fields : ValueMap) : Option String :=
  match messageNames.findSome? (namedText? fields) with
  | some text => some (orGeneric text)
  | none => listing? fields

def ofMetadata? : Value → Option String
  | .null => none
  | .object [] => none
  | .object fields => ofFields? fields
  | other => (Text.visible? other.text).map orGeneric

def ofMap? (m : ValueMap) : Option String :=
  if m.isEmpty then none
  else
    match m.lookup "metadata" with
    | some metadata => (ofMetadata? metadata).or (listing? m)
    | none => ofFields? m

end AgentGraph.Prompt
