import AgentGraph.Run.Executable
import AgentGraph.Run.Plan

/-! Supervisors. A supervisor asks its model for one step of a plan at a time, has sub-agents do
what the step asks for, and shows the model what they answered, until the model says that the task
is done or no step is left. Then it picks a response. -/
namespace AgentGraph

set_option autoImplicit false

namespace Supervisor

/-- What makes a supervisor, apart from its sub-agents. -/
structure Setup (μ : Type) where
  model : μ
  outputKey : String
  strategy : Strategy := .last
  /-- How many steps a plan may have; it always has one. -/
  maxSteps : Nat := 10

variable {μ : Type}

/-! ## What the model is told -/

/-- How a sub-agent is introduced. -/
def introduction (sub : Executable μ) : String :=
  "- " ++ sub.id ++ " (" ++ sub.name ++ ", " ++ sub.kind.name ++ ")\n"

def systemMessage (subs : List (Executable μ)) : String :=
  "You are a supervisor. Solve the user's task by delegating to these agents:\n" ++
    String.join (subs.map introduction) ++
    "Reply with JSON only. To delegate: " ++
    "\x7b\"agent\": \"<id>\", \"request\": \"<what to do>\"\x7d. " ++
    "When the task is complete: \x7b\"done\": true, \"response\": \"<final answer>\"\x7d."

/-- What a sub-agent was asked and what it answered. -/
structure Delegation where
  agentId : String
  request : String
  answer : String
deriving DecidableEq, Repr

def Delegation.text (d : Delegation) : String :=
  "\nAgent " ++ d.agentId ++ " was asked: " ++ d.request ++ "\nIt answered: " ++ d.answer ++ "\n"

def planningMessage (task : String) (delegations : List Delegation) : String :=
  "Task:\n" ++ task ++ "\n" ++ String.join (delegations.map Delegation.text)

def planningRequest (subs : List (Executable μ)) (task : String)
    (delegations : List Delegation) : Request :=
  { system := some (systemMessage subs), user := planningMessage task delegations }

def comparison (task first second : String) : Request :=
  { system := some "You compare two answers and pick the better one."
    user := "Task:\n" ++ task ++ "\n\nCandidate A:\n" ++ first ++ "\n\nCandidate B:\n" ++
      second ++ "\n\nWhich candidate answers the task better? " ++
      "Reply with the single letter A or B." }

/-- The verdict is for the second candidate. -/
def prefersSecond (verdict : String) : Bool :=
  (Text.upper (Text.trim verdict)).toList.head? == some 'B'

/-! ## The response -/

/-- The text unless it is blank. -/
def kept? (text : String) : Option String := if Text.isBlankText text then none else some text

/-- The last answer of a sub-agent that shows. -/
def lastAnswer? (delegations : List Delegation) : Option String :=
  delegations.getLast?.bind fun d => kept? d.answer

/-- Writes the response, if there is one, and ends. -/
def respond (s : Setup μ) (c : Context) (response : Option String) : Process μ :=
  match response with
  | none => Executable.settle s.outputKey c
  | some text => .write c s.outputKey (.string text) (Executable.settle s.outputKey)

/-- Picks the last answer or the summary; the model is asked if both are there and the strategy
says so. -/
def conclude (s : Setup μ) (task : String) (last summary : Option String) (c : Context) :
    Process μ :=
  match s.strategy, last, summary with
  | .last, _, _ => respond s c (last.or summary)
  | .summary, _, _ => respond s c (summary.or last)
  | .scored, some first, some second =>
    .consult s.model (comparison task first second) c fun verdict =>
      respond s c (some (if prefersSecond verdict then second else first))
  | .scored, _, _ => respond s c (last.or summary)

/-! ## The plan -/

/-- A sub-agent is named by its id, else by its name in any case. -/
def find? (subs : List (Executable μ)) (requested : String) : Option (Executable μ) :=
  (subs.find? fun sub => sub.id == requested).or
    (subs.find? fun sub => Text.sameIgnoringCase sub.name requested)

/-- Has a sub-agent do what is requested; the directive is gone afterwards. -/
def delegate (id : String) (sub : Executable μ) (request : String) (c : Context)
    (k : String → Context → Process μ) : Process μ :=
  .report (.note id .info ("delegating to " ++ sub.id)) <|
    (sub.invoke (c.withDirective (some request))).andThen fun outcome =>
      let c := outcome.context.withDirective none
      match outcome.value with
      | .ok value => k (value.text?.getD "") c
      | .error e => .fail e c

/-- Tells that the last step has been taken without an end. -/
def warnAtLimit (id : String) (stepsLeft : Nat) (p : Process μ) : Process μ :=
  if stepsLeft = 0 then .report (.note id .warning "invocation limit reached") p else p

/-- Takes the steps that are left. -/
def deliberate (id : String) (s : Setup μ) (subs : List (Executable μ)) (task : String) :
    (stepsLeft : Nat) → List Delegation → Context → Process μ
  | 0, delegations, c => conclude s task (lastAnswer? delegations) none c
  | left + 1, delegations, c =>
    .consult s.model (planningRequest subs task delegations) c fun reply =>
      match Plan.parse reply with
      | .error e => .fail (.unusablePlan id e.message) c
      | .ok (.finish response) =>
        conclude s task (lastAnswer? delegations) (kept? response) c
      | .ok (.delegate requested request) =>
        match find? subs requested with
        | none => .fail (.unknownSubAgent id requested) c
        | some sub =>
          let request := request.getD task
          delegate id sub request c fun answer c =>
            warnAtLimit id left <|
              deliberate id s subs task left (delegations ++ [⟨sub.id, request, answer⟩]) c

/-- The directive if there is one, else what the scope suggests. -/
def task (c : Context) : String :=
  c.directive.getD ((Prompt.ofTemplate none).message c.scope.state c.ambient)

def act (id : String) (s : Setup μ) (subs : List (Executable μ)) (c : Context) : Process μ :=
  deliberate id s subs (task c) (max 1 s.maxSteps) [] (c.withDirective none)

end Supervisor

def Executable.supervisor {μ : Type} (id name : String) (s : Supervisor.Setup μ)
    (subs : List (Executable μ)) : Executable μ :=
  ⟨id, name, .supervisor, Supervisor.act id s subs⟩

end AgentGraph
