import AgentGraph.Graph.Format

/-! Messages of a conversation with a model, and the replies they are answered with. -/
namespace AgentGraph.Chat

set_option autoImplicit false

/-- What a model wants a tool to do. The arguments are JSON text. -/
structure ToolCall where
  id : String
  type : String := "function"
  name : String
  arguments : String
deriving DecidableEq, Repr

inductive Message where
  | system (text : String)
  | user (text : String)
  | assistant (content : Option String) (calls : List ToolCall)
  | tool (callId output : String)
deriving DecidableEq, Repr

/-- A reply with calls asks for the tools to be used; any other reply is an answer. -/
structure Reply where
  content : Option String
  calls : List ToolCall
deriving DecidableEq, Repr

/-! ## As JSON -/

namespace ToolCall

def toJson (c : ToolCall) : Json :=
  .object [("id", .string c.id), ("type", .string c.type),
    ("function", .object [("name", .string c.name), ("arguments", .string c.arguments)])]

/-- The name and the arguments of a call. -/
structure Function where
  name : String
  arguments : String := ""

def Function.shape : Json.Record Function :=
  ⟨"Function",
    [Json.textField "name" fun v f => { f with name := v },
      .of "arguments" false Json.readString fun v f => { f with arguments := v }]⟩

def Function.read : Json.Reader Function := Function.shape.read { name := "" }

def shape : Json.Record ToolCall :=
  ⟨"ToolCall",
    [Json.textField "id" fun v c => { c with id := v },
      .of "type" false Json.readString fun v c => { c with type := v },
      .of "function" true Function.read
        fun v c => { c with name := v.name, arguments := v.arguments }]⟩

def read : Json.Reader ToolCall := shape.read { id := "", name := "", arguments := "" }

end ToolCall

namespace Message

def roleName : Message → String
  | .system _ => "system"
  | .user _ => "user"
  | .assistant _ _ => "assistant"
  | .tool _ _ => "tool"

def contentMembers (content : Option String) : List (String × Json) :=
  Json.text? "content" content

def members : Message → List (String × Json)
  | .system text => contentMembers (some text)
  | .user text => contentMembers (some text)
  | .assistant content calls =>
    contentMembers content ++ [("tool_calls", .array (calls.map ToolCall.toJson))]
  | .tool callId output => contentMembers (some output) ++ [("tool_call_id", .string callId)]

def toJson (m : Message) : Json := .object (("role", .string m.roleName) :: m.members)

end Message

/-! ## Reading replies -/

namespace Reply

def shape : Json.Record Reply :=
  ⟨"Reply",
    [Json.textField? "content" fun v r => { r with content := v },
      .of "tool_calls" false (Json.readOption (Json.readList ToolCall.read))
        fun v r => { r with calls := v.getD [] }]⟩

def read : Json.Reader Reply := shape.read ⟨none, []⟩

/-- A choice holds its reply under `message`. -/
def readChoice : Json.Reader Reply :=
  (⟨"Choice", [.of "message" true read fun v _ => v]⟩ : Json.Record Reply).read ⟨none, []⟩

/-- The choices of a completion. -/
def readChoices : Json.Reader (List Reply) :=
  (⟨"Completion", [Json.listField "choices" readChoice fun v _ => v]⟩ :
    Json.Record (List Reply)).read []

end Reply

end AgentGraph.Chat
