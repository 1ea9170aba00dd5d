import AgentGraph.Failure
import AgentGraph.Graph.Kind
import AgentGraph.Json.Basic

/-! What is told about a run while it goes on. -/
namespace AgentGraph

set_option autoImplicit false

inductive Severity where
  | info
  | warning
deriving DecidableEq, Repr

def Severity.title : Severity → String
  | .info => "Info"
  | .warning => "Warning"

inductive Event where
  | runStarted (entryId : String)
  | runCompleted (success : Bool)
  | unitStarted (nodeId : String) (kind : NodeKind)
  | unitCompleted (nodeId : String)
  | unitFailed (nodeId error : String)
  | note (nodeId : String) (severity : Severity) (message : String)
deriving DecidableEq, Repr

namespace Event

/-- The event that closes a unit. -/
def closing {α : Type} (nodeId : String) : Except Failure α → Event
  | .ok _ => .unitCompleted nodeId
  | .error e => .unitFailed nodeId e.message

def toJson : Event → Json
  | .runStarted entryId =>
    .object [("type", .string "RunStarted"), ("entry_node_id", .string entryId)]
  | .runCompleted success => .object [("type", .string "RunCompleted"), ("success", .bool success)]
  | .unitStarted nodeId kind =>
    .object [("type", .string "UnitStarted"), ("node_id", .string nodeId),
      ("node_kind", .string kind.name)]
  | .unitCompleted nodeId =>
    .object [("type", .string "UnitCompleted"), ("node_id", .string nodeId)]
  | .unitFailed nodeId error =>
    .object [("type", .string "UnitFailed"), ("node_id", .string nodeId), ("error", .string error)]
  | .note nodeId severity message =>
    .object [("type", .string "UnitEvent"), ("node_id", .string nodeId),
      ("event", .object [("event_type", .string severity.title),
        ("message", .string message)])]

end Event

end AgentGraph
