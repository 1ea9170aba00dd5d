import AgentGraph.Json.Reader
import AgentGraph.Text.Blank

/-! Plans: what a supervisor's model answers. The reply may hold a JSON object within other text;
the object names an agent to delegate to or says that the task is done. -/
namespace AgentGraph

set_option autoImplicit false

/-- One step of a plan. -/
inductive Plan where
  | delegate (agent : String) (request : Option String)
  | finish (response : String)
deriving DecidableEq, Repr

namespace Plan

inductive Error where
  | noObject
  | malformed (e : Json.Error)
  | neither

def Error.message : Error → String
  | .noObject => "reply contains no JSON object"
  | .malformed e => e.message
  | .neither => "plan names neither an agent nor done"

/-- The members a plan may have. -/
structure Form where
  agent : Option String := none
  request : Option String := none
  done : Bool := false
  response : Option String := none

def Form.shape : Json.Record Form :=
  ⟨"RawPlan",
    [.of "agent" false (Json.readOption Json.readString) fun v f => { f with agent := v },
      .of "request" false (Json.readOption Json.readString) fun v f => { f with request := v },
      .of "done" false Json.readBool fun v f => { f with done := v },
      .of "response" false (Json.readOption Json.readString) fun v f => { f with response := v }]⟩

def Form.read : Json.Reader Form := shape.read {}

def Form.plan (f : Form) : Except Error Plan :=
  if f.done then .ok (.finish (f.response.getD ""))
  else
    match f.agent.bind Text.visible? with
    | some agent => .ok (.delegate agent (f.request.filter fun r => !Text.isBlankText r))
    | none => .error .neither

/-- From the first opening brace to the last closing brace. -/
def object? (cs : List Char) : Option (List Char) :=
  let fromOpening := cs.dropWhile (· ≠ '\x7b')
  match (fromOpening.reverse.dropWhile (· ≠ '\x7d')).reverse with
  | [] => none
  | object => some object

def parse (reply : String) : Except Error Plan :=
  match object? reply.toList with
  | none => .error .noObject
  | some object =>
    match Form.read.onText (String.ofList object) with
    | .error e => .error (.malformed e)
    | .ok form => form.plan

end Plan

end AgentGraph
