import AgentGraph.Text.Quoted
import AgentGraph.Tool.Registry

/-! What a model is asked, and how a node describes the model it wants. -/
namespace AgentGraph

set_option autoImplicit false

/-- One call of a model: an instruction, a message and the tools it may use. -/
structure Request where
  system : Option String := none
  user : String
  tools : List Tool := []

def Request.toolNames (r : Request) : List String := r.tools.map Tool.name

/-- The request in one line for diagnostics; tools are named only. -/
def Request.summary (r : Request) : String :=
  "ChatRequest \x7b system: " ++ Text.quotedOption r.system ++ ", user: " ++ Text.quoted r.user ++
    ", tools: " ++ Text.quotedList r.toolNames ++ " \x7d"

/-- The model that a node asks for. What is not given is left to the provider. -/
structure Binding where
  nodeId : String
  baseUrl : Option String := none
  modelName : Option String := none
  temperature : Option Float := none
  maxTokens : Option Nat := none

/-- Binds a model, or refuses to. -/
abbrev Provider (μ : Type) := Binding → Except Failure μ

end AgentGraph
