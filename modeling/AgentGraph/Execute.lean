import AgentGraph.Graph.Problem
import AgentGraph.Run.Report

/-! Running graphs: once with all checks, or compiled once and run any number of times. -/
namespace AgentGraph

set_option autoImplicit false

/-- Why there is no report. -/
inductive RunError where
  | invalid (problems : List Problem)
  | compile (e : CompileError)
  | failed (e : Failure)
  | execution (message : String)
  | serialization (e : Json.Error)

def RunError.message : RunError → String
  | .invalid problems => Problem.summary problems
  | .compile e => "Workflow error: " ++ e.message
  | .failed e => "Node error: " ++ e.message
  | .execution message => "Execution error: " ++ message
  | .serialization e => "Serialization error: " ++ e.message

/-- Everything that came of running a graph. -/
structure Execution (μ σ : Type) where
  result : Except RunError Report
  bindings : List Binding
  log : Log μ
  memory : σ

variable {μ σ : Type}

/-- Runs a compiled graph once. -/
def Entry.execute (e : Entry μ) (answer : Responder μ σ) (memory : σ) (input : ValueMap) :
    Execution μ σ :=
  let r := (e.process input).run answer memory
  { result := (e.report input r.outcome).mapError .failed
    bindings := []
    log := r.log
    memory := r.memory }

/-- Validates a graph, compiles it and runs it once. -/
def Graph.execute (g : Graph) (provider : Provider μ) (tools : Registry) (config : Config)
    (answer : Responder μ σ) (memory : σ) (input : ValueMap) : Execution μ σ :=
  match problems g.entry g.nodes with
  | [] =>
    let c := compile provider tools config g.entry g.nodes
    match c.result with
    | .error e => ⟨.error (.compile e), c.bindings, .nil, memory⟩
    | .ok e => { e.execute answer memory input with bindings := c.bindings }
  | found => ⟨.error (.invalid found), [], .nil, memory⟩

end AgentGraph
