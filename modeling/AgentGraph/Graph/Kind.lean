import AgentGraph.Text.Ascii
import AgentGraph.Text.Blank

/-! The kinds of nodes, what each may be used for, and the ways a supervisor answers. -/
namespace AgentGraph

set_option autoImplicit false

inductive NodeKind where
  | llm
  | agent
  | sequence
  | parallel
  | conditional
  | supervisor
deriving DecidableEq, Repr

namespace NodeKind

/-- All kinds, in the order they are listed to a reader. -/
def all : List NodeKind := [.llm, .agent, .supervisor, .sequence, .parallel, .conditional]

def name : NodeKind → String
  | .llm => "llm"
  | .agent => "agent"
  | .sequence => "sequence"
  | .parallel => "parallel"
  | .conditional => "conditional"
  | .supervisor => "supervisor"

/-- The name with a capital letter, for diagnostics. -/
def title : NodeKind → String
  | .llm => "Llm"
  | .agent => "Agent"
  | .sequence => "Sequence"
  | .parallel => "Parallel"
  | .conditional => "Conditional"
  | .supervisor => "Supervisor"

/-- The kind with exactly this name. -/
def ofName? (s : String) : Option NodeKind := all.find? fun k => k.name == s

/-- A run may begin at a node of this kind. -/
def isEntry : NodeKind → Bool
  | .sequence | .parallel | .supervisor => true
  | _ => false

/-- Everything but a model can be run. -/
def isExecutable : NodeKind → Bool
  | .llm => false
  | _ => true

theorem ofName?_eq_some_iff (s : String) (k : NodeKind) : ofName? s = some k ↔ k.name = s := by
  constructor
  · intro h
    have hp := List.find?_some h
    simpa using hp
  · rintro rfl
    cases k <;> decide

end NodeKind

/-! ## References -/

/-- What kind of node a reference must lead to. -/
inductive Target where
  | model
  | executable
deriving DecidableEq, Repr

def Target.accepts : Target → NodeKind → Bool
  | .model, kind => kind == .llm
  | .executable, kind => kind.isExecutable

def Target.describe : Target → String
  | .model => "an llm"
  | .executable => "an executable"

/-! ## Response strategies -/

/-- Which answer a supervisor gives in the end. -/
inductive Strategy where
  /-- The last answer of a sub-agent. -/
  | last
  /-- The supervisor's own closing answer. -/
  | summary
  /-- The better one of the two, as its model sees it. -/
  | scored
deriving DecidableEq, Repr

def Strategy.title : Strategy → String
  | .last => "Last"
  | .summary => "Summary"
  | .scored => "Scored"

/-- The strategy a name stands for; blanks around it and case do not matter. -/
def Strategy.ofName? (s : String) : Option Strategy :=
  match Text.upper (Text.trim s) with
  | "LAST" => some .last
  | "SUMMARY" => some .summary
  | "SCORED" => some .scored
  | _ => none

end AgentGraph
