import AgentGraph.Run.Process

/-! Running a process, and the log of a run.

Here branches are run one after another, in the order of declaration, and each of them to its end.
Models may remember what they were asked; their memory is passed from one call to the next. The
log keeps the shape of the run: what happened in the branches of a fork stands beside each other. -/
namespace AgentGraph

set_option autoImplicit false

inductive Log (μ : Type) where
  | nil
  | event (e : Event) (rest : Log μ)
  | call (model : μ) (request : Request) (rest : Log μ)
  | fork (pool : Nat) (branches : List (Log μ)) (rest : Log μ)

/-- How models answer, and what they remember afterwards. -/
abbrev Responder (μ σ : Type) := μ → Request → σ → Except Failure String × σ

structure Run (μ σ : Type) where
  outcome : Outcome
  memory : σ
  log : Log μ

/-- The branches of a fork after they were run. -/
structure Runs (μ σ : Type) where
  outcomes : List Outcome
  memory : σ
  logs : List (Log μ)

namespace Process

variable {μ σ : Type}

mutual

def run (answer : Responder μ σ) : Process μ → σ → Run μ σ
  | .done outcome, memory => ⟨outcome, memory, .nil⟩
  | .report event next, memory =>
    let r := run answer next memory
    { r with log := .event event r.log }
  | .write c key value next, memory => run answer (next (c.write key value)) memory
  | .ask model request next, memory =>
    let (reply, memory) := answer model request memory
    let r := run answer (next reply) memory
    { r with log := .call model request r.log }
  | .fork pool branches next, memory =>
    let rs := runAll answer branches memory
    let r := run answer (next rs.outcomes) rs.memory
    { r with log := .fork pool rs.logs r.log }

def runAll (answer : Responder μ σ) : List (Process μ) → σ → Runs μ σ
  | [], memory => ⟨[], memory, []⟩
  | p :: rest, memory =>
    let r := run answer p memory
    let rs := runAll answer rest r.memory
    ⟨r.outcome :: rs.outcomes, rs.memory, r.log :: rs.logs⟩

end

end Process

/-! ## Views of a log -/

namespace Log

variable {μ : Type}

mutual

/-- The events, the branches of a fork one after another. -/
def events : Log μ → List Event
  | .nil => []
  | .event e rest => e :: events rest
  | .call _ _ rest => events rest
  | .fork _ branches rest => eventsOfAll branches ++ events rest

def eventsOfAll : List (Log μ) → List Event
  | [] => []
  | log :: rest => events log ++ eventsOfAll rest

end

mutual

/-- The calls, the branches of a fork one after another. -/
def calls : Log μ → List (μ × Request)
  | .nil => []
  | .event _ rest => calls rest
  | .call model request rest => (model, request) :: calls rest
  | .fork _ branches rest => callsOfAll branches ++ calls rest

def callsOfAll : List (Log μ) → List (μ × Request)
  | [] => []
  | log :: rest => calls log ++ callsOfAll rest

end

/-- The sum of the `n` largest numbers. -/
def largestSum (n : Nat) (xs : List Nat) : Nat :=
  ((xs.mergeSort fun a b => Nat.ble b a).take n).foldr (· + ·) 0

mutual

/-- The most calls of some models that can be in flight at once. -/
def peak (counts : μ → Bool) : Log μ → Nat
  | .nil => 0
  | .event _ rest => peak counts rest
  | .call model _ rest => max (if counts model then 1 else 0) (peak counts rest)
  | .fork pool branches rest =>
    max (largestSum pool (peaks counts branches)) (peak counts rest)

def peaks (counts : μ → Bool) : List (Log μ) → List Nat
  | [] => []
  | log :: rest => peak counts log :: peaks counts rest

end

end Log

end AgentGraph
