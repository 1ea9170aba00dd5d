import AgentGraph.Model.Request
import AgentGraph.Run.Event
import AgentGraph.Scope

/-! Processes: what a unit does, one step after another.

A process reports events, writes to the scope it works on, asks models and goes on with their
answers, and forks into branches that it waits for. It is finite whatever the answers are. Nothing
in a process says how models answer or in which order branches move; that is left to whoever runs
it. -/
namespace AgentGraph

set_option autoImplicit false

/-- How a process ended: its value or its failure, and the context it leaves behind. -/
structure Outcome where
  value : Except Failure Value
  context : Context

/-- A process over models of type `μ`. -/
inductive Process (μ : Type) where
  | done (outcome : Outcome)
  | report (event : Event) (next : Process μ)
  | write (context : Context) (key : String) (value : Value) (next : Context → Process μ)
  | ask (model : μ) (request : Request) (next : Except Failure String → Process μ)
  /-- At most `pool` branches go on at a time; all of them end before the process goes on. -/
  | fork (pool : Nat) (branches : List (Process μ)) (next : List Outcome → Process μ)

namespace Process

variable {μ : Type}

def succeed (value : Value) (c : Context) : Process μ := .done ⟨.ok value, c⟩

def fail (e : Failure) (c : Context) : Process μ := .done ⟨.error e, c⟩

/-- Goes on with the outcome. -/
def andThen : Process μ → (Outcome → Process μ) → Process μ
  | .done outcome, k => k outcome
  | .report event next, k => .report event (next.andThen k)
  | .write c key value next, k => .write c key value fun c => (next c).andThen k
  | .ask model request next, k => .ask model request fun reply => (next reply).andThen k
  | .fork pool branches next, k => .fork pool branches fun outcomes => (next outcomes).andThen k

/-- Goes on with the value; a failure stays the outcome. -/
def onSuccess (p : Process μ) (k : Value → Context → Process μ) : Process μ :=
  p.andThen fun outcome =>
    match outcome.value with
    | .ok value => k value outcome.context
    | .error e => .fail e outcome.context

/-- Asks a model and goes on with its reply; a failed call ends the process. -/
def consult (model : μ) (request : Request) (c : Context) (k : String → Process μ) : Process μ :=
  .ask model request fun
    | .ok reply => k reply
    | .error e => .fail e c

end Process

end AgentGraph
