import AgentGraph.Graph.Node
import AgentGraph.Prompt.Message
import AgentGraph.Run.Process

/-! Executables: what can be run, and how larger ones are made of smaller ones.

An executable acts on a context. Invoking it leaves an entry in the trace and tells when it begins
and how it ends. A composite publishes its output under a key of the scope, so that what comes
after it finds it there. -/
namespace AgentGraph

set_option autoImplicit false

structure Executable (μ : Type) where
  id : String
  /-- The name it goes by in the trace. -/
  name : String
  kind : NodeKind
  act : Context → Process μ

variable {μ : Type}

/-- The value under a key, else the whole scope as lines. -/
def Scope.output (s : Scope) (key : String) : Value :=
  match s.get? key with
  | none | some .null => .string (s.state.lines?.getD "")
  | some value => value

namespace Executable

def invoke (x : Executable μ) (c : Context) : Process μ :=
  .report (.unitStarted x.id x.kind) <|
    (x.act (c.withScope (c.scope.record x.id x.name))).andThen fun outcome =>
      .report (.closing x.id outcome.value) (.done outcome)

/-! ## Agents -/

/-- What makes an agent: its model, what it is told, and what it may use. -/
structure Agent (μ : Type) where
  model : μ
  systemMessage : Option String := none
  prompt : Prompt := ⟨none⟩
  outputKey : Option String := none
  tools : List Tool := []

namespace Agent

/-- A directive stands in for what the scope suggests, never for a template. -/
def message (a : Agent μ) (c : Context) : String :=
  match c.directive with
  | some directive =>
    if a.prompt.hasTemplate then a.prompt.message c.scope.state c.ambient else directive
  | none => a.prompt.message c.scope.state c.ambient

def request (a : Agent μ) (c : Context) : Request :=
  { system := a.systemMessage, user := a.message c, tools := a.tools }

/-- One call; the reply is the value, and is written under the output key if there is one. -/
def act (a : Agent μ) (c : Context) : Process μ :=
  let after := c.withDirective none
  .consult a.model (a.request c) after fun reply =>
    match a.outputKey with
    | none => .succeed (.string reply) after
    | some key => .write after key (.string reply) (.succeed (.string reply))

end Agent

def agent (id name : String) (a : Agent μ) : Executable μ := ⟨id, name, .agent, a.act⟩

/-! ## Sequences -/

/-- Invokes one after another on the same context, then goes on. -/
def inOrder (k : Context → Process μ) : List (Executable μ) → Context → Process μ
  | [], c => k c
  | x :: rest, c => (x.invoke c).onSuccess fun _ c => inOrder k rest c

/-- The output of the scope is the value, and is written under the key. -/
def publish (key : String) (c : Context) : Process μ :=
  .write c key (c.scope.output key) (.succeed (c.scope.output key))

def sequence (id name : String) (steps : List (Executable μ)) (outputKey : String) :
    Executable μ :=
  ⟨id, name, .sequence, inOrder (publish outputKey) steps⟩

/-! ## Conditionals -/

/-- The scope holds the value under the key. Case does not matter in the key, blanks around do not
matter in texts; other values are compared as they are written, and null is no value. -/
def holds (s : Scope) (condition : Condition) : Bool :=
  match ValueMap.lookup s.state condition.key with
  | none | some .null => false
  | some (.string text) => Text.trim text == Text.trim condition.value
  | some other => other.text == Text.trim condition.value

/-- The output of the scope is the value. -/
def settle (key : String) (c : Context) : Process μ := .succeed (c.scope.output key) c

/-- The value stays under its key if there is one; else the direct one is put there. -/
def publishDirect (outputKey : Option String) (direct : Value) (c : Context) : Process μ :=
  match outputKey with
  | none => .succeed direct c
  | some key =>
    if (c.scope.get? key).all Value.isNull then .write c key direct (settle key)
    else settle key c

def choose (id : String) (routes : List (Condition × Executable μ)) (outputKey : Option String)
    (c : Context) : Process μ :=
  match routes.find? fun route => holds c.scope route.1 with
  | none => .fail (.noBranchMatched id) c
  | some (condition, target) =>
    .report (.note id .info ("branch " ++ condition.key ++ "=" ++ condition.value ++ " selected"))
      ((target.invoke c).onSuccess (publishDirect outputKey))

def conditional (id name : String) (routes : List (Condition × Executable μ))
    (outputKey : Option String) : Executable μ :=
  ⟨id, name, .conditional, choose id routes outputKey⟩

/-! ## Parallels -/

/-- A pool lets at least one branch go on. -/
def permits (pool : Nat) : Nat := max 1 pool

/-- The scopes of the branches if none of them failed, else the first failure in their order. -/
def scopes (outcomes : List Outcome) : Except Failure (List Scope) :=
  outcomes.mapM fun outcome => outcome.value.map fun _ => outcome.context.scope

/-- What the output key holds in the end, or the empty text. -/
def joined (outputKey : Option String) (s : Scope) : Value :=
  match outputKey.bind s.get? with
  | none | some .null => .string ""
  | some value => value

/-- Merges the branches in their order; if one failed, the context stays as it was. -/
def join (outputKey : Option String) (c : Context) (outcomes : List Outcome) : Outcome :=
  match scopes outcomes with
  | .error e => ⟨.error e, c⟩
  | .ok branches =>
    let scope := branches.foldl Scope.merge c.scope
    ⟨.ok (joined outputKey scope), c.withScope scope⟩

/-- Every branch works on its own copy of the scope and gets the directive. -/
def spread (branches : List (Executable μ)) (pool : Nat) (outputKey : Option String)
    (c : Context) : Process μ :=
  let start := c.fork.withDirective c.directive
  .fork (permits pool) (branches.map fun x => x.invoke start) fun outcomes =>
    .done (join outputKey (c.withDirective none) outcomes)

def parallel (id name : String) (branches : List (Executable μ)) (pool : Nat)
    (outputKey : Option String) : Executable μ :=
  ⟨id, name, .parallel, spread branches pool outputKey⟩

end Executable

end AgentGraph
