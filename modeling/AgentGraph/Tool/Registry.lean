import AgentGraph.Failure
import AgentGraph.Graph.Format

/-! Tools and the registry that agents find them in. -/
namespace AgentGraph

set_option autoImplicit false

/-- What a model may call while it answers. -/
structure Tool where
  /-- The id of the tool, which is also the name that a model sees. -/
  name : String
  description : String
  /-- The JSON schema of the arguments. -/
  schema : Json
  call : Json → Except Failure String

/-- Tools under their names; of two with one name the later one stays. -/
abbrev Registry := Fields Tool

namespace Registry

def empty : Registry := []

def register (r : Registry) (t : Tool) : Registry := Fields.insert r t.name t

def ofTools (tools : List Tool) : Registry := tools.foldl register empty

def tool? (r : Registry) (id : String) : Option Tool := Fields.get? r id

/-- The tools of the ids, in their order; an unknown id is skipped. -/
def select (r : Registry) (ids : List String) : List Tool := ids.filterMap r.tool?

def ids (r : Registry) : List String := Fields.names r

def entries (r : Registry) : List ToolEntry := r.map fun e => ⟨e.1, some e.2.description⟩

end Registry

end AgentGraph
