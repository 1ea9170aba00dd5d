import AgentGraph.Run.Executable
import AgentGraph.Run.Log

/-! Models that need no network: each answers by a rule that is fixed beforehand. They serve to try
out a graph. -/
namespace AgentGraph.Rehearsed

set_option autoImplicit false

abbrev Reply := Except Failure String

structure Rule where
  /-- The rule answers a message that this text occurs in. -/
  text : String
  reply : Reply

/-- How a rehearsed model answers. -/
inductive Part where
  /-- Repeats the message after the name of the model. -/
  | echo
  /-- Gives the replies one after another, then the last resort again and again. -/
  | script (replies : List Reply) (lastResort : Option Reply)
  /-- Gives the reply of the first rule that applies. -/
  | rules (rules : List Rule) (otherwise : Reply)
  /-- Hands the message to one of the tools on offer. -/
  | tool (name : String)
  /-- Says that the message is done with; its calls are counted. -/
  | gauge
  /-- Cannot be bound. -/
  | refuse (e : Failure)

structure Model where
  /-- Tells its script from that of every other model. -/
  key : String
  /-- What its calls are listed under. -/
  label : String
  name : String
  part : Part

/-- The replies that are left in the scripts that have been begun, by key. -/
abbrev Memory := Fields (List Reply)

def occursIn (text message : List Char) : Bool :=
  text.isPrefixOf message ||
    match message with
    | [] => false
    | _ :: rest => occursIn text rest

def scriptEnd : Reply := .error (.modelInvocation "script exhausted")

def useTool (name : String) (request : Request) : Reply :=
  match request.tools.find? fun t => t.name == name with
  | none => .error (.tool name "not offered")
  | some t => t.call (.object [("expression", .string request.user)])

def answer : Responder Model Memory := fun m request memory =>
  match m.part with
  | .echo => (.ok ("[" ++ m.name ++ "] " ++ request.user), memory)
  | .script replies lastResort =>
    match (Fields.get? memory m.key).getD replies with
    | reply :: rest => (reply, Fields.insert memory m.key rest)
    | [] => (lastResort.getD scriptEnd, memory)
  | .rules rules otherwise =>
    let rule? := rules.find? fun r => occursIn r.text.toList request.user.toList
    ((rule?.map Rule.reply).getD otherwise, memory)
  | .tool name => (useTool name request, memory)
  | .gauge => (.ok ("done: " ++ request.user), memory)
  | .refuse e => (.error e, memory)

/-- Binds the part that is cast for a node; the echo if none is. -/
def provider (cast : Fields Part) : Provider Model := fun b =>
  match (Fields.get? cast b.nodeId).getD .echo with
  | .refuse e => .error e
  | part => .ok ⟨b.nodeId, b.nodeId, b.modelName.getD b.nodeId, part⟩

def Model.isGauge (m : Model) : Bool := match m.part with
  | .gauge => true
  | _ => false

/-! ## Calls of a log -/

/-- The labels of the gauges that were called, each once. -/
def gauges (log : Log Model) : Names :=
  log.calls.foldl (fun names c => if c.1.isGauge then Names.insert names c.1.label else names) []

/-- How many calls of each gauge can be in flight at once. -/
def peaks (log : Log Model) : List (String × Nat) :=
  (gauges log).map fun label => (label, log.peak fun m => m.isGauge && m.label == label)

/-! ## Rehearsed units and tools -/

/-- A unit that does what it is told beforehand. -/
structure Step where
  id : String
  name : String
  /-- Where the directive is put, if it is taken at all. -/
  takesDirective : Option String := none
  writes : List (String × Value) := []
  value : Except Failure Value

def Step.act {μ : Type} (s : Step) (c : Context) : Process μ :=
  let c := match s.takesDirective with
    | none => c
    | some key =>
      (c.write key (c.directive.elim .null .string)).withDirective none
  .done ⟨s.value, s.writes.foldl (fun c w => c.write w.1 w.2) c⟩

def Step.executable {μ : Type} (s : Step) : Executable μ := ⟨s.id, s.name, .agent, s.act⟩

/-- A tool that repeats its arguments, or refuses if its description is `fails`. -/
def tool (id description : String) : Tool where
  name := id
  description := description
  schema := .object [("type", .string "object")]
  call arguments :=
    if description = "fails" then .error (.tool id "refused")
    else .ok (id ++ ":" ++ arguments.sorted.compact)

end AgentGraph.Rehearsed
