import AgentGraph.Graph.Kind
import AgentGraph.Json.Reader

/-! Graphs as they are written down. A graph names its entry and declares its nodes. A declaration
may carry every field of every kind; which of them a node needs is decided later. -/
namespace AgentGraph

set_option autoImplicit false

/-- A tool as a node refers to it, or as a registry lists it. -/
structure ToolEntry where
  id : String
  description : Option String
deriving DecidableEq, Repr

/-- One branch of a conditional node: if the scope holds `value` under `conditionKey`, it runs
`agentId`. -/
structure BranchDecl where
  conditionKey : String
  value : String
  agentId : String
deriving DecidableEq, Repr

structure NodeDecl where
  id : String
  typeName : String
  baseUrl : Option String := none
  modelName : Option String := none
  temperature : Option Float := none
  maxTokens : Option Nat := none
  llmId : Option String := none
  name : Option String := none
  role : Option String := none
  systemMessage : Option String := none
  promptTemplate : Option String := none
  outputKey : Option String := none
  toolIds : List String := []
  tools : List ToolEntry := []
  subAgentIds : List String := []
  responseStrategy : Option String := none
  routerAgentId : Option String := none
  branches : List BranchDecl := []
  threadPoolSize : Option Nat := none

structure Graph where
  name : String
  description : Option String := none
  entry : String
  nodes : List NodeDecl := []

/-! ## Making graphs -/

namespace NodeDecl

def llm (id baseUrl modelName : String) : NodeDecl :=
  { id, typeName := NodeKind.llm.name, baseUrl := some baseUrl, modelName := some modelName }

def agent (id llmId : String) : NodeDecl :=
  { id, typeName := NodeKind.agent.name, llmId := some llmId }

def sequence (id : String) (subAgentIds : List String) : NodeDecl :=
  { id, typeName := NodeKind.sequence.name, subAgentIds }

def parallel (id : String) (subAgentIds : List String) : NodeDecl :=
  { id, typeName := NodeKind.parallel.name, subAgentIds }

def conditional (id routerAgentId : String) (branches : List BranchDecl) : NodeDecl :=
  { id, typeName := NodeKind.conditional.name, routerAgentId := some routerAgentId, branches }

def supervisor (id llmId : String) (subAgentIds : List String) : NodeDecl :=
  { id, typeName := NodeKind.supervisor.name, llmId := some llmId, subAgentIds }

end NodeDecl

namespace Graph

def ofEntry (name entry : String) : Graph := { name, entry }

def add (g : Graph) (node : NodeDecl) : Graph := { g with nodes := g.nodes ++ [node] }

/-- The first node with this id. -/
def find? (g : Graph) (id : String) : Option NodeDecl := g.nodes.find? (·.id == id)

end Graph

/-! ## What a declaration says -/

namespace NodeDecl

def kind? (d : NodeDecl) : Option NodeKind := NodeKind.ofName? d.typeName

/-- The name if it shows, else the id. -/
def shownName (d : NodeDecl) : String := (d.name.bind Text.visible?).getD d.id

/-- The tools that are declared in full, else the ids. -/
def permittedToolIds (d : NodeDecl) : List String :=
  if d.tools.isEmpty then d.toolIds else d.tools.map ToolEntry.id

end NodeDecl

end AgentGraph
