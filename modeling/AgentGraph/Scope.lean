import AgentGraph.Value.Basic

/-! Scopes. A scope holds the state of a run, the trace of the units that touched it, and the names
written since it was made or branched off. A branch starts from a snapshot of the state; merging
it back copies only what it wrote. -/
namespace AgentGraph

set_option autoImplicit false

/-- One entry of a trace: the id and the display name of a unit. -/
structure Invocation where
  nodeId : String
  nodeName : String
deriving DecidableEq, Repr

namespace Invocation

def toJson (i : Invocation) : Json :=
  .object [("node_id", .string i.nodeId), ("node_name", .string i.nodeName)]

def shape : Json.Record Invocation :=
  ⟨"Invocation",
    [.of "node_id" true Json.readString fun v i => { i with nodeId := v },
      .of "node_name" true Json.readString fun v i => { i with nodeName := v }]⟩

def read : Json.Reader Invocation := shape.read ⟨"", ""⟩

end Invocation

structure Scope where
  state : ValueMap
  trace : List Invocation
  written : Names

namespace Scope

def ofState (state : ValueMap) : Scope := ⟨state, [], []⟩

/-- A snapshot of the state, with an empty trace and nothing written. -/
def branch (s : Scope) : Scope := ofState s.state

def get? (s : Scope) (name : String) : Option Value := Fields.get? s.state name

def isEmpty (s : Scope) : Bool := s.state.isEmpty

def write (s : Scope) (name : String) (value : Value) : Scope :=
  { s with state := Fields.insert s.state name value, written := s.written.insert name }

def record (s : Scope) (nodeId nodeName : String) : Scope :=
  { s with trace := s.trace ++ [⟨nodeId, nodeName⟩] }

/-- Copies the value of one written name, if the branch holds it. -/
def take (branch : Scope) (state : ValueMap) (name : String) : ValueMap :=
  match branch.get? name with
  | some value => Fields.insert state name value
  | none => state

def merge (s branch : Scope) : Scope :=
  { state := branch.written.foldl branch.take s.state
    trace := s.trace ++ branch.trace
    written := Names.union s.written branch.written }

/-! ## As JSON -/

/-- The state and the trace; what was written is not kept. -/
def toJson (s : Scope) : Json :=
  .object [("state", (Value.object s.state).toJson),
    ("invocations", .array (s.trace.map Invocation.toJson))]

def shape : Json.Record Scope :=
  ⟨"Scope",
    [.of "state" true (Json.readFields Value.read) fun v s => { s with state := v },
      .of "invocations" true (Json.readList Invocation.read) fun v s => { s with trace := v }]⟩

def read : Json.Reader Scope := shape.read (ofState [])

/-! ## Small facts -/

theorem get?_write (s : Scope) (name other : String) (value : Value) :
    (s.write name value).get? other = if name = other then some value else s.get? other :=
  Fields.get?_insert s.state name other value

theorem get?_take (branch : Scope) (state : ValueMap) (name other : String) :
    Fields.get? (branch.take state name) other =
      if name = other ∧ (branch.get? name).isSome then branch.get? name
      else Fields.get? state other := by
  unfold take
  split
  · next value h =>
    rw [Fields.get?_insert, h]
    simp
  · next h => simp [h]

end Scope

/-! ## Contexts -/

/-- What a unit works on: the scope, the request a supervisor handed down, and the input of the
run. -/
structure Context where
  scope : Scope
  directive : Option String
  ambient : ValueMap

namespace Context

def ofInput (input : ValueMap) : Context := ⟨.ofState input, none, input⟩

def withScope (c : Context) (scope : Scope) : Context := { c with scope }

def withDirective (c : Context) (directive : Option String) : Context := { c with directive }

def write (c : Context) (key : String) (value : Value) : Context :=
  c.withScope (c.scope.write key value)

/-- A context for a parallel branch: a snapshot of the scope and no directive. -/
def fork (c : Context) : Context := { c with scope := c.scope.branch, directive := none }

end Context

end AgentGraph
