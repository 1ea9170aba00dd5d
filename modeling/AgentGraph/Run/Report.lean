import AgentGraph.Compile
import AgentGraph.Run.Log

/-! Running a compiled graph on an input, and what is reported about the run: the text it came to,
the nodes that took part, and the state it left. -/
namespace AgentGraph

set_option autoImplicit false

structure Report where
  text : String
  /-- Every node that took part, once, in the order of first appearance. -/
  executedIds : List String
  /-- The names of these nodes. -/
  executedNames : List String
  /-- The input with everything that the run wrote. -/
  state : ValueMap

namespace Entry

variable {μ : Type}

/-! ## The process of a run -/

def finished (outcome : Outcome) : Process μ :=
  .report (.runCompleted outcome.value.isOk) (.done outcome)

def process (e : Entry μ) (input : ValueMap) : Process μ :=
  .report (.runStarted e.entryId) <|
    (e.runnable.executable.invoke (.ofInput input)).andThen finished

/-! ## The nodes that took part -/

/-- The node of an entry of the trace: by id, by the name taken for an id, by name. -/
def nodeOf? (e : Entry μ) (i : Invocation) : Option Node :=
  ((e.node? i.nodeId).or (e.node? i.nodeName)).or
    (e.nodes.find? fun n => n.name == i.nodeName || n.name == i.nodeId)

/-- The members of a list, each where it appears first. -/
def firstOccurrences (seen : List String) : List String → List String
  | [] => []
  | id :: rest =>
    if id ∈ seen then firstOccurrences seen rest
    else id :: firstOccurrences (id :: seen) rest

def executedIds (e : Entry μ) (trace : List Invocation) : List String :=
  firstOccurrences [] (trace.filterMap fun i => (e.nodeOf? i).map Node.id)

def nameOf (e : Entry μ) (id : String) : String := ((e.node? id).map Node.name).getD id

/-! ## The text -/

/-- Says that a parallel entry has no text of its own. -/
def parallelNotice (id : String) : String :=
  "Workflow completed, but parallel entry node '" ++ id ++ "' returned no direct text output. " ++
    "Add a final agent in a sequence/supervisor to compose sub-agent outputs."

/-- The text of the value under the output key, unless the value is blank. -/
def keptText? (e : Entry μ) (state : ValueMap) : Option String :=
  match e.outputKey?.bind (Fields.get? state) with
  | none => none
  | some value => if value.isBlank then none else some value.text

/-- The text of the direct value if it shows, else what the output key holds, else a notice for a
parallel entry. -/
def text (e : Entry μ) (direct : Value) (state : ValueMap) : String :=
  match direct.text?.filter fun text => !Text.isBlankText text with
  | some text => text
  | none => (e.keptText? state).getD (if e.kind = .parallel then parallelNotice e.entryId else "")

/-! ## The report -/

def report (e : Entry μ) (input : ValueMap) (outcome : Outcome) : Except Failure Report :=
  outcome.value.map fun direct =>
    let scope := outcome.context.scope
    let state := Fields.extend input scope.state
    let ids := e.executedIds scope.trace
    ⟨e.text direct state, ids, ids.map e.nameOf, state⟩

end Entry

end AgentGraph
