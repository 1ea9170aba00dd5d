import AgentGraph.Graph.Node

/-! What is structurally wrong with a graph. All problems are collected, in the order of the
declarations; none is reported instead of another. -/
namespace AgentGraph

set_option autoImplicit false

/-! ## Problems -/

/-- A problem as it is reported: the field it is about and what is wrong with it. -/
structure Problem where
  field : String
  message : String
deriving DecidableEq, Repr

def Problem.text (p : Problem) : String := p.field ++ ": " ++ p.message

/-- How many problems keep a graph from being run. -/
def Problem.summary (ps : List Problem) : String :=
  "Workflow graph validation failed: " ++ toString ps.length ++ " error(s)"

/-- What can be wrong with a graph. -/
inductive Defect where
  | entryBlank
  | noNodes
  | entryUnknown (entry : String)
  | entryKind
  | duplicateId (id : String)
  | idBlank (id : String)
  | typeBlank (id : String)
  | typeUnknown (id typeName : String)
  | dangling (id : String) (field : RefField) (target : String)
deriving DecidableEq, Repr

def ofNode (id field : String) : String := "nodes[" ++ id ++ "]." ++ field

def Defect.field : Defect → String
  | .entryBlank | .entryUnknown _ | .entryKind => "entryNodeId"
  | .noNodes => "nodes"
  | .duplicateId id | .idBlank id => ofNode id "id"
  | .typeBlank id | .typeUnknown id _ => ofNode id "type"
  | .dangling id field _ => ofNode id field.name

def RefField.demand : RefField → String
  | .llmId => "llmId must reference an existing node id"
  | .subAgentIds => "subAgentIds must reference existing node ids"
  | .routerAgentId => "routerAgentId must reference an existing node id"
  | .branches => "branch agentId must reference an existing node id"

def Defect.message : Defect → String
  | .entryBlank => "entryNodeId is required"
  | .noNodes => "at least one node is required"
  | .entryUnknown entry => "entryNodeId must reference an existing node id: " ++ entry
  | .entryKind => "entryNodeId must reference a node of type sequence, parallel, or supervisor"
  | .duplicateId id => "duplicate node id: " ++ id
  | .idBlank _ => "node id is required"
  | .typeBlank _ => "node type is required"
  | .typeUnknown _ typeName =>
    "invalid type '" ++ typeName ++ "'; must be one of: [" ++
      ", ".intercalate (NodeKind.all.map NodeKind.name) ++ "]"
  | .dangling _ field target => field.demand ++ ": " ++ target

def Defect.problem (d : Defect) : Problem := ⟨d.field, d.message⟩

/-! ## Finding them -/

/-- The references of a declaration, whether its kind uses them or not. -/
def NodeDecl.references (d : NodeDecl) : List (RefField × String) :=
  d.llmId.toList.map (RefField.llmId, ·) ++ d.subAgentIds.map (RefField.subAgentIds, ·) ++
    d.routerAgentId.toList.map (RefField.routerAgentId, ·) ++
    d.branches.map fun b => (RefField.branches, b.agentId)

/-- The defect of a reference that shows and names no node. -/
def danglingDefect? (ids : List String) (id : String) (r : RefField × String) : Option Defect :=
  match Text.visible? r.2 with
  | none => none
  | some target => if ids.contains target then none else some (.dangling id r.1 target)

/-- The defects of one node, `earlier` being the ids declared before it. -/
def nodeDefects (ids earlier : List String) (d : NodeDecl) : List Defect :=
  (if !Text.isBlankText d.id && earlier.contains d.id then [.duplicateId d.id] else []) ++
    (if Text.isBlankText d.id then [.idBlank d.id] else []) ++
    (if Text.isBlankText d.typeName then [.typeBlank d.id]
      else if d.kind?.isNone then [.typeUnknown d.id d.typeName] else []) ++
    d.references.filterMap (danglingDefect? ids d.id)

def nodesDefects (ids earlier : List String) : List NodeDecl → List Defect
  | [] => []
  | d :: rest => nodeDefects ids earlier d ++ nodesDefects ids (earlier ++ [d.id]) rest

/-- The defect of the entry with respect to the nodes. -/
def entryDefects (entry : String) (nodes : List NodeDecl) : List Defect :=
  match Text.visible? entry with
  | none => [.entryBlank]
  | some entry =>
    match nodes.find? (·.id == entry) with
    | none => [.entryUnknown entry]
    | some d => if d.kind?.any (!·.isEntry) then [.entryKind] else []

/-- Every defect of a graph; none means that it is well formed. Without nodes only the entry id
itself is looked at. -/
def defects (entry : String) (nodes : List NodeDecl) : List Defect :=
  if nodes.isEmpty then
    (if Text.isBlankText entry then [.entryBlank] else []) ++ [.noNodes]
  else entryDefects entry nodes ++ nodesDefects (nodes.map NodeDecl.id) [] nodes

def problems (entry : String) (nodes : List NodeDecl) : List Problem :=
  (defects entry nodes).map Defect.problem

end AgentGraph
