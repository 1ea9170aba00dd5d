import AgentGraph.Run.Supervisor

/-! Runnables: what a graph is compiled to. A runnable is a tree; a node that several others refer
to stands in it once for each of them. -/
namespace AgentGraph

set_option autoImplicit false

inductive Runnable (μ : Type) where
  | agent (id name : String) (agent : Executable.Agent μ)
  | sequence (id name : String) (steps : List (Runnable μ)) (outputKey : String)
  | parallel (id name : String) (branches : List (Runnable μ)) (pool : Nat)
      (outputKey : Option String)
  | conditional (id name : String) (routes : List (Condition × Runnable μ))
      (outputKey : Option String)
  | supervisor (id name : String) (setup : Supervisor.Setup μ) (subs : List (Runnable μ))

namespace Runnable

variable {μ : Type}

def id : Runnable μ → String
  | .agent id _ _ => id
  | .sequence id _ _ _ => id
  | .parallel id _ _ _ _ => id
  | .conditional id _ _ _ => id
  | .supervisor id _ _ _ => id

def name : Runnable μ → String
  | .agent _ name _ => name
  | .sequence _ name _ _ => name
  | .parallel _ name _ _ _ => name
  | .conditional _ name _ _ => name
  | .supervisor _ name _ _ => name

def kind : Runnable μ → NodeKind
  | .agent _ _ _ => .agent
  | .sequence _ _ _ _ => .sequence
  | .parallel _ _ _ _ _ => .parallel
  | .conditional _ _ _ _ => .conditional
  | .supervisor _ _ _ _ => .supervisor

/-! ## What a runnable does

The parts of a runnable are made executable only when it acts, so that a part that many others
share costs nothing until it is reached. -/

mutual

def act : Runnable μ → Context → Process μ
  | .agent _ _ a, c => a.act c
  | .sequence _ _ steps key, c => Executable.inOrder (Executable.publish key) (executables steps) c
  | .parallel _ _ branches pool key, c => Executable.spread (executables branches) pool key c
  | .conditional id _ routes key, c => Executable.choose id (executableRoutes routes) key c
  | .supervisor id _ s subs, c => Supervisor.act id s (executables subs) c

def executables : List (Runnable μ) → List (Executable μ)
  | [] => []
  | r :: rest => ⟨r.id, r.name, r.kind, act r⟩ :: executables rest

def executableRoutes : List (Condition × Runnable μ) → List (Condition × Executable μ)
  | [] => []
  | (condition, r) :: rest => (condition, ⟨r.id, r.name, r.kind, act r⟩) :: executableRoutes rest

end

def executable (r : Runnable μ) : Executable μ := ⟨r.id, r.name, r.kind, r.act⟩

/-! ## Small facts -/

theorem executables_eq_map (rs : List (Runnable μ)) : executables rs = rs.map executable := by
  induction rs with
  | nil => rfl
  | cons r rest ih => rw [executables, ih, List.map_cons, executable]

theorem executableRoutes_eq_map (routes : List (Condition × Runnable μ)) :
    executableRoutes routes = routes.map fun route => (route.1, route.2.executable) := by
  induction routes with
  | nil => rfl
  | cons route rest ih =>
    obtain ⟨condition, r⟩ := route
    rw [executableRoutes, ih, List.map_cons, executable]

theorem executable_sequence (id name key : String) (steps : List (Runnable μ)) :
    (Runnable.sequence id name steps key).executable =
      .sequence id name (steps.map executable) key := by
  rw [← executables_eq_map]
  rfl

theorem executable_parallel (id name : String) (branches : List (Runnable μ)) (pool : Nat)
    (key : Option String) :
    (Runnable.parallel id name branches pool key).executable =
      .parallel id name (branches.map executable) pool key := by
  rw [← executables_eq_map]
  rfl

theorem executable_conditional (id name : String) (routes : List (Condition × Runnable μ))
    (key : Option String) :
    (Runnable.conditional id name routes key).executable =
      .conditional id name (routes.map fun route => (route.1, route.2.executable)) key := by
  rw [← executableRoutes_eq_map]
  rfl

theorem executable_supervisor (id name : String) (s : Supervisor.Setup μ)
    (subs : List (Runnable μ)) :
    (Runnable.supervisor id name s subs).executable =
      .supervisor id name s (subs.map executable) := by
  rw [← executables_eq_map]
  rfl

end Runnable

end AgentGraph
