import AgentGraph.Graph.Declaration

/-! The file format of graphs. Members are written in the order of declaration; a field that is not
set and an empty list are left out. -/
namespace AgentGraph

set_option autoImplicit false

namespace Json

/-- A member that is written only when there is something to write. -/
def member? (name : String) (value : Option Json) : List (String × Json) :=
  value.elim [] fun v => [(name, v)]

def text? (name : String) (value : Option String) : List (String × Json) :=
  member? name (value.map .string)

/-- A list that is written only when it has items. -/
def list? {α : Type} (name : String) (toJson : α → Json) (items : List α) : List (String × Json) :=
  if items.isEmpty then [] else [(name, .array (items.map toJson))]

def textField {α : Type} (name : String) (put : String → α → α) : Field α :=
  .of name true readString put

def textField? {α : Type} (name : String) (put : Option String → α → α) : Field α :=
  .of name false (readOption readString) put

def listField {α β : Type} (name : String) (reader : Reader β) (put : List β → α → α) : Field α :=
  .of name false (readList reader) put

end Json

/-! ## Tools and branches -/

namespace ToolEntry

def toJson (t : ToolEntry) : Json :=
  .object (("id", .string t.id) :: Json.text? "description" t.description)

def shape : Json.Record ToolEntry :=
  ⟨"ToolInfo",
    [Json.textField "id" fun v t => { t with id := v },
      Json.textField? "description" fun v t => { t with description := v }]⟩

def read : Json.Reader ToolEntry := shape.read ⟨"", none⟩

end ToolEntry

namespace BranchDecl

def toJson (b : BranchDecl) : Json :=
  .object [("conditionKey", .string b.conditionKey), ("value", .string b.value),
    ("agentId", .string b.agentId)]

def shape : Json.Record BranchDecl :=
  ⟨"BranchSpec",
    [Json.textField "conditionKey" fun v b => { b with conditionKey := v },
      Json.textField "value" fun v b => { b with value := v },
      Json.textField "agentId" fun v b => { b with agentId := v }]⟩

def read : Json.Reader BranchDecl := shape.read ⟨"", "", ""⟩

end BranchDecl

/-! ## Nodes -/

namespace NodeDecl

def toJson (d : NodeDecl) : Json :=
  .object (
    [("id", .string d.id), ("type", .string d.typeName)] ++
    Json.text? "baseUrl" d.baseUrl ++
    Json.text? "modelName" d.modelName ++
    Json.member? "temperature" (d.temperature.map Json.ofFloat) ++
    Json.member? "maxTokens" (d.maxTokens.map Json.ofNat) ++
    Json.text? "llmId" d.llmId ++
    Json.text? "name" d.name ++
    Json.text? "role" d.role ++
    Json.text? "systemMessage" d.systemMessage ++
    Json.text? "promptTemplate" d.promptTemplate ++
    Json.text? "outputKey" d.outputKey ++
    Json.list? "toolIds" .string d.toolIds ++
    Json.list? "tools" ToolEntry.toJson d.tools ++
    Json.list? "subAgentIds" .string d.subAgentIds ++
    Json.text? "responseStrategy" d.responseStrategy ++
    Json.text? "routerAgentId" d.routerAgentId ++
    Json.list? "branches" BranchDecl.toJson d.branches ++
    Json.member? "threadPoolSize" (d.threadPoolSize.map Json.ofNat))

def shape : Json.Record NodeDecl :=
  ⟨"NodeSpec",
    [Json.textField "id" fun v d => { d with id := v },
      Json.textField "type" fun v d => { d with typeName := v },
      Json.textField? "baseUrl" fun v d => { d with baseUrl := v },
      Json.textField? "modelName" fun v d => { d with modelName := v },
      .of "temperature" false (Json.readOption Json.readFloat)
        fun v d => { d with temperature := v },
      .of "maxTokens" false (Json.readOption (Json.readNat 32 "u32"))
        fun v d => { d with maxTokens := v },
      Json.textField? "llmId" fun v d => { d with llmId := v },
      Json.textField? "name" fun v d => { d with name := v },
      Json.textField? "role" fun v d => { d with role := v },
      Json.textField? "systemMessage" fun v d => { d with systemMessage := v },
      Json.textField? "promptTemplate" fun v d => { d with promptTemplate := v },
      Json.textField? "outputKey" fun v d => { d with outputKey := v },
      Json.listField "toolIds" Json.readString fun v d => { d with toolIds := v },
      Json.listField "tools" ToolEntry.read fun v d => { d with tools := v },
      Json.listField "subAgentIds" Json.readString fun v d => { d with subAgentIds := v },
      Json.textField? "responseStrategy" fun v d => { d with responseStrategy := v },
      Json.textField? "routerAgentId" fun v d => { d with routerAgentId := v },
      Json.listField "branches" BranchDecl.read fun v d => { d with branches := v },
      .of "threadPoolSize" false (Json.readOption (Json.readNat 64 "usize"))
        fun v d => { d with threadPoolSize := v }]⟩

def read : Json.Reader NodeDecl := shape.read { id := "", typeName := "" }

end NodeDecl

/-! ## Graphs -/

namespace Graph

def toJson (g : Graph) : Json :=
  .object (
    ("name", .string g.name) :: Json.text? "description" g.description ++
    [("entryNodeId", .string g.entry), ("nodes", .array (g.nodes.map NodeDecl.toJson))])

def shape : Json.Record Graph :=
  ⟨"WorkflowGraph",
    [Json.textField "name" fun v g => { g with name := v },
      Json.textField? "description" fun v g => { g with description := v },
      Json.textField "entryNodeId" fun v g => { g with entry := v },
      Json.listField "nodes" NodeDecl.read fun v g => { g with nodes := v }]⟩

def read : Json.Reader Graph := shape.read { name := "", entry := "" }

def parse (text : String) : Except Json.Error Graph := read.onText text

end Graph

end AgentGraph
