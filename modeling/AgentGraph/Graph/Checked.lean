import AgentGraph.Graph.Node
import AgentGraph.Graph.Order

/-! Graphs that can be built: the entry is there and of the right kind, every declaration makes a
node, ids are distinct, references lead to nodes of the right kind, and there is an order in which
every node comes after all that it refers to. These are checked one after another, and the first
error is reported. -/
namespace AgentGraph

set_option autoImplicit false

/-! ## References -/

/-- The first id that occurs again. -/
def duplicate? : List String → List String → Option String
  | _, [] => none
  | earlier, id :: rest => if id ∈ earlier then some id else duplicate? (id :: earlier) rest

/-- The first node with this id. -/
def findNode? (nodes : List Node) (id : String) : Option Node := nodes.find? fun n => n.id == id

/-- What is wrong with a reference of a node. -/
def referenceError? (nodes : List Node) (n : Node) (d : Node.Dependency) : Option CompileError :=
  match findNode? nodes d.id with
  | none => some (.unresolvedReference n.id d.field.name d.id)
  | some target =>
    if d.target.accepts target.kind then none
    else some (.wrongReferenceKind n.id d.field.name d.id d.target.describe)

/-- What is wrong with the first wrong reference. -/
def referencesError? (nodes : List Node) : Option CompileError :=
  nodes.findSome? fun n => n.dependencies.findSome? (referenceError? nodes n)

/-- The ids, with an edge from every id to those of the nodes that refer to it. -/
def dependencyGraph (nodes : List Node) : Digraph String :=
  { vertices := nodes.map Node.id
    edges := nodes.flatMap fun n => n.dependencies.map fun d => (d.id, n.id) }

/-! ## Checks -/

/-- A graph that passed all checks. -/
structure Checked where
  entryId : String
  /-- All nodes, in the order of declaration. -/
  nodes : List Node
  /-- The ids of all nodes, each after those it refers to. -/
  order : List String

namespace Checked

/-- The id of the entry, if a node has it whose kind is unknown or can be an entry. -/
def entry (entry : String) (decls : List NodeDecl) : Except CompileError String :=
  let id := Text.trim entry
  match decls.find? fun d => d.id == id with
  | none => .error (.entryNotFound id)
  | some d =>
    match d.kind? with
    | none => .ok id
    | some kind => if kind.isEntry then .ok id else .error (.invalidEntryType id kind.name)

def ofNodes (entryId : String) (nodes : List Node) : Except CompileError Checked :=
  match duplicate? [] (nodes.map Node.id) with
  | some id => .error (.duplicateNodeId id)
  | none =>
    match referencesError? nodes with
    | some e => .error e
    | none =>
      match (dependencyGraph nodes).order with
      | .error id => .error (.cyclicDependency id)
      | .ok order => .ok ⟨entryId, nodes, order⟩

def ofDecls (entry : String) (decls : List NodeDecl) : Except CompileError Checked :=
  match Checked.entry entry decls with
  | .error e => .error e
  | .ok id =>
    match decls.mapM Node.ofDecl with
    | .error e => .error e
    | .ok nodes => ofNodes id nodes

/-- The nodes in the order they are built in. -/
def inOrder (c : Checked) : List Node := c.order.filterMap (findNode? c.nodes)

end Checked

end AgentGraph
