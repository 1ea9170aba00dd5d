import AgentGraph.Graph.Declaration

/-! Typed nodes. A node has what its kind needs and nothing else: required fields are there, texts
are trimmed, defaults are filled in. Turning a declaration into a node fails on an unknown type or
on the first required field that is missing. -/
namespace AgentGraph

set_option autoImplicit false

/-! ## What keeps a graph from being compiled -/

/-- The fields of a node that other nodes are named in. -/
inductive RefField where
  | llmId
  | subAgentIds
  | routerAgentId
  | branches
deriving DecidableEq, Repr

def RefField.name : RefField → String
  | .llmId => "llmId"
  | .subAgentIds => "subAgentIds"
  | .routerAgentId => "routerAgentId"
  | .branches => "branches"

inductive CompileError where
  | entryNotFound (id : String)
  | invalidEntryType (nodeId typeName : String)
  | unknownNodeType (nodeId typeName : String)
  | duplicateNodeId (id : String)
  | missingField (nodeId field : String)
  | unresolvedReference (nodeId field reference : String)
  | wrongReferenceKind (nodeId field reference expected : String)
  | cyclicDependency (nodeId : String)
  | notBuilt (nodeId : String)
  | modelBinding (nodeId message : String)
deriving DecidableEq, Repr

def CompileError.message : CompileError → String
  | .entryNotFound id => "Entry node not found: " ++ id
  | .invalidEntryType _ typeName =>
    "Entry node must be one of [sequence, parallel, supervisor], got: " ++ typeName
  | .unknownNodeType nodeId typeName =>
    "Node " ++ nodeId ++ " has unknown type '" ++ typeName ++ "'"
  | .duplicateNodeId id => "Duplicate node id: " ++ id
  | .missingField nodeId field => "Node " ++ nodeId ++ " is missing required field " ++ field
  | .unresolvedReference nodeId field reference =>
    "Node " ++ nodeId ++ " references missing node '" ++ reference ++ "' in " ++ field
  | .wrongReferenceKind nodeId field reference expected =>
    "Node " ++ nodeId ++ " field " ++ field ++ " must reference " ++ expected ++ " node, got '" ++
      reference ++ "'"
  | .cyclicDependency nodeId => "Cyclic dependency detected at node " ++ nodeId
  | .notBuilt nodeId => "Could not build runnable for node: " ++ nodeId
  | .modelBinding nodeId message =>
    "Model binding failed for node " ++ nodeId ++ ": " ++ message

/-! ## Nodes -/

/-- When a conditional node takes a branch: the scope holds `value` under `key`. -/
structure Condition where
  key : String
  value : String
deriving DecidableEq, Repr

inductive Node.Role where
  | llm (baseUrl modelName : Option String) (temperature : Option Float) (maxTokens : Option Nat)
  | agent (llmId : String) (systemMessage promptTemplate : Option String) (toolIds : List String)
  | sequence (subAgentIds : List String)
  | parallel (subAgentIds : List String) (poolSize : Option Nat)
  | conditional (routerAgentId : Option String) (branches : List (Condition × String))
  | supervisor (llmId : String) (subAgentIds : List String) (strategy : Strategy)

structure Node where
  id : String
  /-- For a model its id, for all others what a reader sees. -/
  name : String
  outputKey : Option String
  role : Node.Role

namespace Node

def Role.kind : Role → NodeKind
  | .llm _ _ _ _ => .llm
  | .agent _ _ _ _ => .agent
  | .sequence _ => .sequence
  | .parallel _ _ => .parallel
  | .conditional _ _ => .conditional
  | .supervisor _ _ _ => .supervisor

def kind (n : Node) : NodeKind := n.role.kind

/-! ## Dependencies -/

/-- A reference of a node to another one, which must be built before it. -/
structure Dependency where
  field : RefField
  id : String
  target : Target
deriving DecidableEq, Repr

def subAgentDependencies (ids : List String) : List Dependency :=
  ids.map fun id => ⟨.subAgentIds, id, .executable⟩

/-- The references of a node, in the order they are built and reported in. -/
def Role.dependencies : Role → List Dependency
  | .llm _ _ _ _ => []
  | .agent llmId _ _ _ => [⟨.llmId, llmId, .model⟩]
  | .sequence ids => subAgentDependencies ids
  | .parallel ids _ => subAgentDependencies ids
  | .conditional router branches =>
    router.toList.map (⟨.routerAgentId, ·, .executable⟩) ++
      branches.map fun b => ⟨.branches, b.2, .executable⟩
  | .supervisor llmId ids _ => ⟨.llmId, llmId, .model⟩ :: subAgentDependencies ids

def dependencies (n : Node) : List Dependency := n.role.dependencies

/-! ## From declarations -/

def shown (text : Option String) : Option String := text.bind Text.visible?

def demand (d : NodeDecl) (text : Option String) (field : RefField) :
    Except CompileError String :=
  match shown text with
  | some s => .ok s
  | none => .error (.missingField d.id field.name)

/-- At least one id, and none of them blank. -/
def demandIds (d : NodeDecl) : Except CompileError (List String) :=
  if d.subAgentIds.isEmpty then .error (.missingField d.id RefField.subAgentIds.name)
  else d.subAgentIds.mapM fun id => demand d (some id) .subAgentIds

/-- At least one branch, and all of them with a target. -/
def demandBranches (d : NodeDecl) : Except CompileError (List (Condition × String)) :=
  if d.branches.isEmpty then .error (.missingField d.id RefField.branches.name)
  else
    d.branches.mapM fun b => do
      return (⟨b.conditionKey, b.value⟩, ← demand d (some b.agentId) .branches)

/-- The system message, or a sentence made of the role. -/
def systemMessage (d : NodeDecl) : Option String :=
  (shown d.systemMessage).or ((shown d.role).map fun role => "You are the " ++ role ++ ".")

/-- The named strategy; the default when the name is missing or unknown. -/
def strategy (d : NodeDecl) : Strategy :=
  ((shown d.responseStrategy).bind Strategy.ofName?).getD .last

def Role.ofDecl (d : NodeDecl) : NodeKind → Except CompileError Role
  | .llm => .ok (.llm (shown d.baseUrl) (shown d.modelName) d.temperature d.maxTokens)
  | .agent => do
    let llmId ← demand d d.llmId .llmId
    let template := d.promptTemplate.filter fun t => !Text.isBlankText t
    return .agent llmId (systemMessage d) template d.permittedToolIds
  | .sequence => do
    return .sequence (← demandIds d)
  | .parallel => do
    return .parallel (← demandIds d) (d.threadPoolSize.filter (0 < ·))
  | .conditional => do
    return .conditional (shown d.routerAgentId) (← demandBranches d)
  | .supervisor => do
    let llmId ← demand d d.llmId .llmId
    return .supervisor llmId (← demandIds d) (strategy d)

def ofDecl (d : NodeDecl) : Except CompileError Node :=
  match d.kind? with
  | none => .error (.unknownNodeType d.id d.typeName)
  | some .llm => do
    return ⟨d.id, d.id, none, ← Role.ofDecl d .llm⟩
  | some kind => do
    return ⟨d.id, d.shownName, shown d.outputKey, ← Role.ofDecl d kind⟩

end Node

end AgentGraph
