import AgentGraph.Chat.Address
import AgentGraph.Chat.Message
import AgentGraph.Chat.Settings
import AgentGraph.Chat.Status
import AgentGraph.Run.Log

/-! Conversations with a model over a network.

The messages are sent, and the reply is the answer unless it asks for tools. Then the tools are
used, what they said is added to the messages, and all of it is sent again, up to a limit. The
network and the tools are functions over a memory: what they do may depend on what was done
before. -/
namespace AgentGraph.Chat

set_option autoImplicit false

/-- A model as it is reached over the network. -/
structure Client where
  endpoint : String
  apiKey : String
  modelName : String
  temperature : Option Float
  maxTokens : Option Nat
  patience : Patience

/-- The address that completions are asked for at. -/
def endpointOf (baseUrl : String) : String :=
  Text.dropTrailing '/' baseUrl ++ "/chat/completions"

def Client.ofBinding (s : Settings) (b : Binding) : Client :=
  { endpoint := endpointOf (s.baseUrlFor b)
    apiKey := s.apiKey
    modelName := s.modelFor b
    temperature := b.temperature
    maxTokens := b.maxTokens
    patience := s.patience }

/-- Every binding is accepted; whether the model is there shows when it is called. -/
def provider (s : Settings) : Provider Client := fun b => .ok (.ofBinding s b)

/-! ## Exchanges -/

/-- One request over the network. -/
structure Exchange where
  client : Client
  messages : List Message
  tools : List Tool

def offered (t : Tool) : Json :=
  .object [("type", .string "function"),
    ("function", .object [("name", .string t.name), ("description", .string t.description),
      ("parameters", t.schema.sorted)])]

namespace Exchange

/-- What is sent. -/
def body (x : Exchange) : Json :=
  .object (
    [("model", .string x.client.modelName), ("messages", .array (x.messages.map Message.toJson))] ++
    Json.member? "temperature" (x.client.temperature.map Json.ofFloat) ++
    Json.member? "max_tokens" (x.client.maxTokens.map Json.ofNat) ++
    Json.list? "tools" offered x.tools)

def authorization (x : Exchange) : String := "Bearer " ++ x.client.apiKey

end Exchange

/-- What becomes of a request. -/
inductive Delivery where
  | answered (status : Nat) (body : String)
  /-- The server began to answer and did not come to the end of the body. -/
  | brokenOff (status : Nat)
  /-- The server took the request and closed the connection. -/
  | closed
  /-- The server took the request and did not answer in time. -/
  | silent
  /-- There was no server. -/
  | refused
deriving DecidableEq, Repr

/-- The server saw the request. -/
def Delivery.arrived : Delivery → Bool
  | .refused => false
  | _ => true

abbrev Network (σ : Type) := Exchange → σ → Delivery × σ

/-- A network without any server. -/
def offline {σ : Type} : Network σ := fun _ memory => (.refused, memory)

namespace Client

/-- Whether a text may stand in a header: no control character but the tab. -/
def isHeaderText (text : String) : Bool :=
  text.toList.all fun c => c == '\t' || (0x20 ≤ c.toNat && c.toNat ≠ 0x7F)

/-- What is said of a request that no answer came to. A request whose key cannot stand in a header
is not even made, whatever the address. -/
def deliveryProblem (c : Client) : String :=
  if !isHeaderText c.apiKey then "builder error"
  else
    match Address.ofText c.endpoint with
    | .usable text => "error sending request for url (" ++ text ++ ")"
    | .unusable text => "builder error for url (" ++ text ++ ")"
    | .invalid => "builder error"

def sendingFailed (c : Client) : Failure :=
  .modelInvocation ("request to " ++ c.modelName ++ " failed: " ++ c.deliveryProblem)

def stillRequesting (c : Client) (rounds : Nat) : Failure :=
  .modelInvocation (c.modelName ++ " still requesting tools after " ++ toString rounds ++ " rounds")

def undecodable : Failure :=
  .modelInvocation "Failed to read response: error decoding response body"

def noChoices : Failure := .modelInvocation "response has no choices"

/-- What is said of an answer that is no success. -/
def unsuccessful (status : Nat) (body : String) : Failure :=
  .modelInvocation ("HTTP " ++ Status.text status ++ ": " ++ body)

/-- The first choice of a successful answer. -/
def replyOf (body : String) : Except Failure Reply :=
  match Reply.readChoices.onText body with
  | .error _ => .error undecodable
  | .ok [] => .error noChoices
  | .ok (reply :: _) => .ok reply

def reply (c : Client) : Delivery → Except Failure Reply
  | .silent => .error (.timeout c.patience.seconds)
  | .closed | .refused => .error c.sendingFailed
  | .answered status body =>
    if Status.isSuccess status then replyOf body else .error (unsuccessful status body)
  | .brokenOff status =>
    .error (if Status.isSuccess status then undecodable else unsuccessful status "unknown")

end Client

/-! ## Tools -/

/-- The arguments of a call; nothing but blanks stands for none. -/
def argumentsOf (text : String) : Except Json.Error Json :=
  if Text.isBlankText text then .ok (.object []) else Json.parse text

/-- What tools do when they are called. -/
abbrev Workshop (σ : Type) := Tool → Json → σ → Except Failure String × σ

/-- Tools that remember nothing. -/
def Workshop.plain {σ : Type} : Workshop σ := fun t arguments memory => (t.call arguments, memory)

section Calls

variable {σ : Type} (workshop : Workshop σ) (tools : List Tool)

/-- What is said to the model after a call. A call that goes wrong is answered like any other. -/
def useTool (call : ToolCall) (memory : σ) : String × σ :=
  match tools.find? fun t => t.name == call.name with
  | none => ("Error: unknown tool '" ++ call.name ++ "'", memory)
  | some t =>
    match argumentsOf call.arguments with
    | .error e => ("Error: invalid arguments: " ++ e.message, memory)
    | .ok arguments =>
      match workshop t arguments memory with
      | (.ok output, memory) => (output, memory)
      | (.error e, memory) => ("Error: " ++ e.message, memory)

/-- Answers one call after the other. -/
def answerCalls : List ToolCall → σ → List Message × σ
  | [], memory => ([], memory)
  | call :: calls, memory =>
    let (output, memory) := useTool workshop tools call memory
    let (messages, memory) := answerCalls calls memory
    (.tool call.id output :: messages, memory)

/-- What a reply that asks for tools adds to the messages. -/
def afterReply (r : Reply) (memory : σ) : List Message × σ :=
  let (messages, memory) := answerCalls workshop tools r.calls memory
  (.assistant r.content r.calls :: messages, memory)

end Calls

/-! ## Conversations -/

/-- How often a model may be sent messages before it has to answer. -/
def maxRounds : Nat := 8

/-- The system message if it shows, and the message of the user. -/
def openingMessages (r : Request) : List Message :=
  ((r.system.filter fun s => !Text.isBlankText s).map Message.system).toList ++ [.user r.user]

structure Conversation (σ : Type) where
  result : Except Failure String
  /-- The exchanges, in order, and what became of each. -/
  exchanges : List (Exchange × Delivery)
  memory : σ

namespace Client

variable {σ : Type}

/-- Sends the messages, and goes on as long as rounds are left and tools are asked for. -/
def converse (network : Network σ) (workshop : Workshop σ) (c : Client) (tools : List Tool) :
    (roundsLeft : Nat) → List Message → σ → Conversation σ
  | 0, _, memory => ⟨.error (c.stillRequesting maxRounds), [], memory⟩
  | left + 1, messages, memory =>
    let exchange : Exchange := ⟨c, messages, tools⟩
    let (delivery, memory) := network exchange memory
    match c.reply delivery with
    | .error e => ⟨.error e, [(exchange, delivery)], memory⟩
    | .ok r =>
      if r.calls.isEmpty then ⟨.ok (r.content.getD ""), [(exchange, delivery)], memory⟩
      else
        let (added, memory) := afterReply workshop tools r memory
        let rest := converse network workshop c tools left (messages ++ added) memory
        { rest with exchanges := (exchange, delivery) :: rest.exchanges }

def invokeWith (network : Network σ) (workshop : Workshop σ) (c : Client) (r : Request)
    (memory : σ) : Conversation σ :=
  c.converse network workshop r.tools maxRounds (openingMessages r) memory

def invoke (network : Network σ) (c : Client) (r : Request) (memory : σ) : Conversation σ :=
  c.invokeWith network .plain r memory

end Client

/-- Models answer by talking over the network. -/
def answer {σ : Type} (network : Network σ) : Responder Client σ := fun c r memory =>
  let conversation := c.invoke network r memory
  (conversation.result, conversation.memory)

end AgentGraph.Chat
