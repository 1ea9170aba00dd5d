import AgentGraph.Graph.Checked
import AgentGraph.Run.Runnable

/-! Compiling a graph: its nodes are built one after another, each from what was built before it.
Models are bound on the way; the first one that is refused ends the compilation. -/
namespace AgentGraph

set_option autoImplicit false

structure Config where
  /-- How many branches of a parallel node go on at a time if it does not say. -/
  poolSize : Nat := 10
  /-- How many steps the plan of a supervisor may have. -/
  supervisorSteps : Nat := 10

/-- What is written under if a node does not say. -/
def defaultOutputKey? : NodeKind → Option String
  | .sequence => some "result"
  | .supervisor => some "response"
  | _ => none

/-- A graph that is ready to be run. -/
structure Entry (μ : Type) where
  runnable : Runnable μ
  entryId : String
  /-- All nodes, in the order of declaration. -/
  nodes : List Node
  /-- The ids in the order they were built in. -/
  buildOrder : List String

namespace Entry

variable {μ : Type}

def node? (e : Entry μ) (id : String) : Option Node := findNode? e.nodes id

def kind (e : Entry μ) : NodeKind := e.runnable.kind

/-- The key that the entry node declares, else the one of its kind. -/
def outputKey? (e : Entry μ) : Option String :=
  ((e.node? e.entryId).bind Node.outputKey).or (defaultOutputKey? e.kind)

/-- The entry in one line for diagnostics. -/
def summary (e : Entry μ) : String :=
  "EntryPoint \x7b entry_node_id: " ++ Text.quoted e.entryId ++ ", kind: " ++ e.kind.title ++
    ", build_order: " ++ Text.quotedList e.buildOrder ++ " \x7d"

end Entry

/-! ## Building -/

/-- What has been built so far, under the ids of the nodes. -/
structure Built (μ : Type) where
  models : List (String × μ) := []
  runnables : List (String × Runnable μ) := []

namespace Compile

variable {μ : Type}

def bindingOf? (n : Node) : Option Binding :=
  match n.role with
  | .llm baseUrl modelName temperature maxTokens =>
    some ⟨n.id, baseUrl, modelName, temperature, maxTokens⟩
  | _ => none

def model (built : Built μ) (n : Node) (id : String) : Except CompileError μ :=
  match Fields.get? built.models id with
  | some m => .ok m
  | none => .error (.notBuilt n.id)

def runnable (built : Built μ) (n : Node) (id : String) : Except CompileError (Runnable μ) :=
  match Fields.get? built.runnables id with
  | some r => .ok r
  | none => .error (.notBuilt n.id)

/-- The key of a node that always writes one. -/
def outputKey (n : Node) : String := (n.outputKey.or (defaultOutputKey? n.kind)).getD ""

/-- The runnable of a node that is no model. -/
def assemble (tools : Registry) (config : Config) (built : Built μ) (n : Node) :
    Except CompileError (Runnable μ) :=
  match n.role with
  | .llm _ _ _ _ => .error (.notBuilt n.id)
  | .agent llmId systemMessage template toolIds => do
    let model ← model built n llmId
    return .agent n.id n.name
      { model, systemMessage, prompt := .ofTemplate template, outputKey := n.outputKey,
        tools := tools.select toolIds }
  | .sequence ids => do
    let steps ← ids.mapM (runnable built n)
    return .sequence n.id n.name steps (outputKey n)
  | .parallel ids poolSize => do
    let branches ← ids.mapM (runnable built n)
    return .parallel n.id n.name branches (poolSize.getD config.poolSize) n.outputKey
  | .conditional _ branches => do
    let routes ← branches.mapM fun b => do return (b.1, ← runnable built n b.2)
    return .conditional n.id n.name routes n.outputKey
  | .supervisor llmId ids strategy => do
    let model ← model built n llmId
    let subs ← ids.mapM (runnable built n)
    return .supervisor n.id n.name
      { model, outputKey := outputKey n, strategy, maxSteps := config.supervisorSteps } subs

def build (provider : Provider μ) (tools : Registry) (config : Config) (built : Built μ)
    (n : Node) : Except CompileError (Built μ) :=
  match bindingOf? n with
  | some binding =>
    match provider binding with
    | .ok m => .ok { built with models := (n.id, m) :: built.models }
    | .error e => .error (.modelBinding n.id e.message)
  | none =>
    match assemble tools config built n with
    | .ok r => .ok { built with runnables := (n.id, r) :: built.runnables }
    | .error e => .error e

/-- What came of building some nodes, and which models were asked for on the way. -/
structure Progress (α : Type) where
  bindings : List Binding
  result : Except CompileError α

def buildAll (provider : Provider μ) (tools : Registry) (config : Config) (built : Built μ) :
    List Node → Progress (Built μ)
  | [] => ⟨[], .ok built⟩
  | n :: rest =>
    let asked := (bindingOf? n).toList
    match build provider tools config built n with
    | .error e => ⟨asked, .error e⟩
    | .ok built =>
      let p := buildAll provider tools config built rest
      ⟨asked ++ p.bindings, p.result⟩

def finish (c : Checked) (built : Built μ) : Except CompileError (Entry μ) :=
  match Fields.get? built.runnables c.entryId with
  | some r => .ok ⟨r, c.entryId, c.nodes, c.order⟩
  | none => .error (.notBuilt c.entryId)

end Compile

/-- What came of a compilation, and which models were asked for on the way. -/
abbrev Compilation (μ : Type) := Compile.Progress (Entry μ)

def compile {μ : Type} (provider : Provider μ) (tools : Registry) (config : Config)
    (entry : String) (decls : List NodeDecl) : Compilation μ :=
  match Checked.ofDecls entry decls with
  | .error e => ⟨[], .error e⟩
  | .ok c =>
    let p := Compile.buildAll provider tools config {} c.inOrder
    ⟨p.bindings, p.result.bind (Compile.finish c)⟩

end AgentGraph
