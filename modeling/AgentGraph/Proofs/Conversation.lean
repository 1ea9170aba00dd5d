import AgentGraph.Chat.Conversation
import Mathlib.Data.List.Forall2

/-! What is said in a conversation with a model.

A conversation is a number of rounds, each a reply that asks for tools with what every call was
answered with, and an ending. Replies and answers are given by relations that say what went wrong
where something did; the memory of the network and the tools runs through all of them.

* `Exchange.body_messages`: what is sent lists the messages in their order.
* `reply_eq_error_iff`: what ends a conversation early is one of five mishaps of an exchange.
* `useTool_answered`: every call is answered, whatever becomes of it.
* `converse_cases`: one exchange ends the conversation or is a round of it.
* `invokeWith_told`: the whole conversation. -/
namespace AgentGraph.Chat

set_option autoImplicit false

/-! ## What is sent -/

/-- How a message is sent: with the role of who says it and with its text, if it has one. An assistant
lists its calls in their order, and a tool names the call that it answers. -/
inductive Message.Sent : Message → Json → Prop
  | system {text : String} :
      Sent (.system text) (.object [("role", .string "system"), ("content", .string text)])
  | user {text : String} :
      Sent (.user text) (.object [("role", .string "user"), ("content", .string text)])
  | assistant {content : Option String} {calls : List ToolCall} :
      Sent (.assistant content calls) (.object (("role", .string "assistant") ::
        (content.toList.map fun text => ("content", .string text)) ++
        [("tool_calls", .array (calls.map fun call => .object [("id", .string call.id),
          ("type", .string call.type), ("function", .object [("name", .string call.name),
            ("arguments", .string call.arguments)])]))]))
  | tool {callId output : String} :
      Sent (.tool callId output) (.object [("role", .string "tool"), ("content", .string output),
        ("tool_call_id", .string callId)])

theorem Message.sent_toJson (m : Message) : m.Sent m.toJson := by
  cases m with
  | system text => exact .system
  | user text => exact .user
  | assistant content calls => cases content <;> exact .assistant
  | tool callId output => exact .tool

theorem Exchange.body_messages (x : Exchange) : ∃ sent others,
    x.body = .object (("model", .string x.client.modelName) :: ("messages", .array sent) :: others) ∧
      List.Forall₂ Message.Sent x.messages sent := by
  refine ⟨x.messages.map Message.toJson, _, rfl, ?_⟩
  rw [List.forall₂_map_right_iff, List.forall₂_same]
  exact fun m _ => m.sent_toJson

/-! ## Replies -/

/-- What can go wrong with an exchange, and what is said of it. -/
inductive Mishap (c : Client) : Delivery → Failure → Prop
  | silent : Mishap c .silent (.timeout c.patience.seconds)
  | closed : Mishap c .closed c.sendingFailed
  | refused : Mishap c .refused c.sendingFailed
  | unsuccessful {status : Nat} {body : String} (h : ¬ Status.isSuccess status) :
      Mishap c (.answered status body) (Client.unsuccessful status body)
  | unsuccessfulBrokenOff {status : Nat} (h : ¬ Status.isSuccess status) :
      Mishap c (.brokenOff status) (Client.unsuccessful status "unknown")
  | brokenOff {status : Nat} (h : Status.isSuccess status) :
      Mishap c (.brokenOff status) Client.undecodable
  | undecodable {status : Nat} {body : String} {e : Json.Error} (h : Status.isSuccess status)
      (he : Reply.readChoices.onText body = .error e) :
      Mishap c (.answered status body) Client.undecodable
  | noChoices {status : Nat} {body : String} (h : Status.isSuccess status)
      (hnone : Reply.readChoices.onText body = .ok []) :
      Mishap c (.answered status body) Client.noChoices

/-- The reply is the first choice of a successful answer. -/
def Replied (d : Delivery) (r : Reply) : Prop :=
  ∃ status body others, d = .answered status body ∧ Status.isSuccess status ∧
    Reply.readChoices.onText body = .ok (r :: others)

theorem reply_eq_error_iff {c : Client} {d : Delivery} {e : Failure} :
    c.reply d = .error e ↔ Mishap c d e := by
  constructor
  · intro h
    cases d with
    | silent => cases h; exact .silent
    | closed => cases h; exact .closed
    | refused => cases h; exact .refused
    | brokenOff status =>
      rw [Client.reply] at h
      split at h
      · next hsuccess => cases h; exact .brokenOff hsuccess
      · next hsuccess => cases h; exact .unsuccessfulBrokenOff hsuccess
    | answered status body =>
      rw [Client.reply] at h
      split at h
      · next hsuccess =>
        rw [Client.replyOf] at h
        split at h
        · next he => cases h; exact .undecodable hsuccess he
        · next hnone => cases h; exact .noChoices hsuccess hnone
        · cases h
      · next hsuccess => cases h; exact .unsuccessful hsuccess
  · intro h
    cases h with
    | silent | closed | refused => rfl
    | brokenOff h => simp only [Client.reply, h, if_true]
    | unsuccessful h => exact if_neg h
    | unsuccessfulBrokenOff h => exact congrArg Except.error (if_neg h)
    | undecodable h he => simp only [Client.reply, Client.replyOf, h, he, if_true]
    | noChoices h hnone => simp only [Client.reply, Client.replyOf, h, hnone, if_true]

theorem reply_eq_ok_iff {c : Client} {d : Delivery} {r : Reply} :
    c.reply d = .ok r ↔ Replied d r := by
  constructor
  · intro h
    cases d with
    | answered status body =>
      rw [Client.reply] at h
      split at h
      · next hsuccess =>
        rw [Client.replyOf] at h
        split at h
        · cases h
        · cases h
        · next hchoices => cases h; exact ⟨status, body, _, rfl, hsuccess, hchoices⟩
      · cases h
    | _ => cases h
  · rintro ⟨status, body, others, rfl, hsuccess, hchoices⟩
    simp only [Client.reply, Client.replyOf, hsuccess, hchoices, if_true]

/-! ## Answers to calls -/

section Calls

variable {σ : Type} {workshop : Workshop σ} {tools : List Tool}

/-- Why a call came to nothing. -/
inductive Setback (workshop : Workshop σ) (tools : List Tool) (call : ToolCall) :
    σ → String → σ → Prop
  | unknown {memory : σ} (h : ∀ t ∈ tools, t.name ≠ call.name) :
      Setback workshop tools call memory ("unknown tool '" ++ call.name ++ "'") memory
  | undecodable {memory : σ} {t : Tool} {e : Json.Error}
      (h : tools.find? (fun t => t.name == call.name) = some t)
      (he : argumentsOf call.arguments = .error e) :
      Setback workshop tools call memory ("invalid arguments: " ++ e.message) memory
  | failed {memory memory' : σ} {t : Tool} {arguments : Json} {e : Failure}
      (h : tools.find? (fun t => t.name == call.name) = some t)
      (ha : argumentsOf call.arguments = .ok arguments)
      (he : workshop t arguments memory = (.error e, memory')) :
      Setback workshop tools call memory e.message memory'

/-- What a call is answered with. -/
inductive Answered (workshop : Workshop σ) (tools : List Tool) (call : ToolCall) :
    σ → String → σ → Prop
  | output {memory memory' : σ} {t : Tool} {arguments : Json} {output : String}
      (h : tools.find? (fun t => t.name == call.name) = some t)
      (ha : argumentsOf call.arguments = .ok arguments)
      (ho : workshop t arguments memory = (.ok output, memory')) :
      Answered workshop tools call memory output memory'
  | setback {memory memory' : σ} {reason : String}
      (h : Setback workshop tools call memory reason memory') :
      Answered workshop tools call memory ("Error: " ++ reason) memory'

/-- Calls with what they were answered with, one after the other. -/
inductive AllAnswered (workshop : Workshop σ) (tools : List Tool) :
    σ → List (ToolCall × String) → σ → Prop
  | nil {memory : σ} : AllAnswered workshop tools memory [] memory
  | cons {memory memory' memory'' : σ} {call : ToolCall} {output : String}
      {answers : List (ToolCall × String)} (first : Answered workshop tools call memory output memory')
      (rest : AllAnswered workshop tools memory' answers memory'') :
      AllAnswered workshop tools memory ((call, output) :: answers) memory''

theorem useTool_answered (call : ToolCall) (memory : σ) :
    Answered workshop tools call memory (useTool workshop tools call memory).1
      (useTool workshop tools call memory).2 := by
  rw [useTool]
  split
  · next hnone =>
    have hunknown : ∀ t ∈ tools, t.name ≠ call.name := by
      intro t ht heq
      exact List.find?_eq_none.mp hnone t ht (beq_iff_eq.mpr heq)
    have h : Answered workshop tools call memory _ memory := .setback (.unknown hunknown)
    rwa [← String.append_assoc, ← String.append_assoc] at h
  · next t ht =>
    split
    · next e he =>
      have h : Answered workshop tools call memory _ memory := .setback (.undecodable ht he)
      rwa [← String.append_assoc] at h
    · next arguments ha =>
      split
      · next output memory' ho => exact .output ht ha ho
      · next e memory' he => exact .setback (.failed ht ha he)

variable (workshop tools) in
theorem answerCalls_answered (calls : List ToolCall) (memory : σ) :
    ∃ answers : List (ToolCall × String), answers.map Prod.fst = calls ∧
      (answerCalls workshop tools calls memory).1 = answers.map (fun a => .tool a.1.id a.2) ∧
      AllAnswered workshop tools memory answers (answerCalls workshop tools calls memory).2 := by
  induction calls generalizing memory with
  | nil => exact ⟨[], rfl, rfl, .nil⟩
  | cons call calls ih =>
    obtain ⟨answers, hcalls, hmessages, hanswered⟩ := ih (useTool workshop tools call memory).2
    refine ⟨(call, (useTool workshop tools call memory).1) :: answers, ?_, ?_,
      .cons (useTool_answered call memory) hanswered⟩
    · rw [List.map_cons, hcalls]
    · rw [List.map_cons, ← hmessages]
      rfl

end Calls

/-! ## Rounds -/

/-- A reply that asks for tools, as it came, and what its calls were answered with. -/
structure Round where
  delivery : Delivery
  content : Option String
  answers : List (ToolCall × String)

namespace Round

def calls (r : Round) : List ToolCall := r.answers.map Prod.fst

def reply (r : Round) : Reply := ⟨r.content, r.calls⟩

/-- What a round adds to the messages. -/
def messages (r : Round) : List Message :=
  .assistant r.content r.calls :: r.answers.map fun a => .tool a.1.id a.2

end Round

section Conversations

variable {σ : Type} {network : Network σ} {workshop : Workshop σ} {c : Client} {tools : List Tool}

/-- Rounds that follow each other after some messages. -/
inductive Rounds (network : Network σ) (workshop : Workshop σ) (c : Client) (tools : List Tool) :
    List Message → σ → List Round → σ → Prop
  | nil {messages : List Message} {memory : σ} :
      Rounds network workshop c tools messages memory [] memory
  | cons {messages : List Message} {memory memory₁ memory₂ last : σ} {round : Round}
      {rounds : List Round} (sent : network ⟨c, messages, tools⟩ memory = (round.delivery, memory₁))
      (replied : Replied round.delivery round.reply) (asked : round.calls ≠ [])
      (answered : AllAnswered workshop tools memory₁ round.answers memory₂)
      (rest : Rounds network workshop c tools (messages ++ round.messages) memory₂ rounds last) :
      Rounds network workshop c tools messages memory (round :: rounds) last

/-- How a conversation ends after `asked` rounds, of `limit` at most: with what became of one more
request, or without one. -/
inductive Ending (c : Client) (limit : Nat) : (asked : Nat) → Option Delivery →
    Except Failure String → Prop
  | failed {asked : Nat} {d : Delivery} {e : Failure} (h : asked < limit) (he : Mishap c d e) :
      Ending c limit asked (some d) (.error e)
  | answered {asked : Nat} {d : Delivery} {r : Reply} (h : asked < limit) (hr : Replied d r)
      (hcalls : r.calls = []) : Ending c limit asked (some d) (.ok (r.content.getD ""))
  | stillRequesting : Ending c limit limit none (.error (c.stillRequesting maxRounds))

theorem Ending.succ {limit asked : Nat} {last : Option Delivery} {result : Except Failure String}
    (h : Ending c limit asked last result) : Ending c (limit + 1) (asked + 1) last result := by
  cases h with
  | failed h he => exact .failed (Nat.succ_lt_succ h) he
  | answered h hr hcalls => exact .answered (Nat.succ_lt_succ h) hr hcalls
  | stillRequesting => exact .stillRequesting

theorem Ending.count_le {limit asked : Nat} {last : Option Delivery}
    {result : Except Failure String} (h : Ending c limit asked last result) :
    asked + last.toList.length ≤ limit := by
  cases h with
  | failed h _ => exact h
  | answered h _ _ => exact h
  | stillRequesting => exact Nat.le_refl _

variable (network workshop c tools)

/-- One exchange is the last one or a round. -/
theorem converse_cases (left : Nat) (messages : List Message) (memory : σ) :
    (∃ d last result, network ⟨c, messages, tools⟩ memory = (d, last) ∧
      Ending c (left + 1) 0 (some d) result ∧
      c.converse network workshop tools (left + 1) messages memory =
        ⟨result, [(⟨c, messages, tools⟩, d)], last⟩) ∨
    (∃ (round : Round) (memory₁ memory₂ : σ),
      network ⟨c, messages, tools⟩ memory = (round.delivery, memory₁) ∧
      Replied round.delivery round.reply ∧ round.calls ≠ [] ∧
      AllAnswered workshop tools memory₁ round.answers memory₂ ∧
      c.converse network workshop tools (left + 1) messages memory =
        let rest := c.converse network workshop tools left (messages ++ round.messages) memory₂
        { rest with exchanges := (⟨c, messages, tools⟩, round.delivery) :: rest.exchanges }) := by
  rcases hsent : network ⟨c, messages, tools⟩ memory with ⟨d, memory₁⟩
  cases hreply : c.reply d with
  | error e =>
    refine .inl ⟨d, memory₁, _, rfl, .failed (Nat.succ_pos _) (reply_eq_error_iff.mp hreply), ?_⟩
    simp only [Client.converse, hsent, hreply]
  | ok r =>
    have hreplied := reply_eq_ok_iff.mp hreply
    by_cases hcalls : r.calls = []
    · refine .inl ⟨d, memory₁, _, rfl, .answered (Nat.succ_pos _) hreplied hcalls, ?_⟩
      simp only [Client.converse, hsent, hreply, hcalls, List.isEmpty_nil, if_true]
    · obtain ⟨answers, hanswers, hmessages, hanswered⟩ :=
        answerCalls_answered workshop tools r.calls memory₁
      refine .inr ⟨⟨d, r.content, answers⟩, memory₁, _, rfl, ?_, ?_, hanswered, ?_⟩
      · rwa [Round.reply, Round.calls, hanswers]
      · rwa [Round.calls, hanswers]
      · simp only [Client.converse, hsent, hreply, List.isEmpty_iff, hcalls, if_false, afterReply,
          hmessages, Round.messages, Round.calls, hanswers]

/-- A conversation is rounds and an ending, and each request holds the rounds before it. -/
theorem converse_told (left : Nat) (messages : List Message) (memory : σ) :
    ∃ rounds memory' last, Rounds network workshop c tools messages memory rounds memory' ∧
      Ending c left rounds.length last
        (c.converse network workshop tools left messages memory).result ∧
      (∀ d ∈ last, (network ⟨c, messages ++ rounds.flatMap Round.messages, tools⟩ memory').1 = d) ∧
      (c.converse network workshop tools left messages memory).exchanges =
        (rounds.map Round.delivery ++ last.toList).mapIdx fun k d =>
          (⟨c, messages ++ (rounds.take k).flatMap Round.messages, tools⟩, d) := by
  induction left generalizing messages memory with
  | zero =>
    exact ⟨[], memory, none, .nil, .stillRequesting, by rintro _ ⟨⟩, rfl⟩
  | succ left ih =>
    rcases converse_cases network workshop c tools left messages memory with
      ⟨d, last, result, hsent, hending, hconverse⟩ |
      ⟨round, memory₁, memory₂, hsent, hreplied, hasked, hanswered, hconverse⟩
    · refine ⟨[], memory, some d, .nil, ?_, ?_, ?_⟩
      · rw [hconverse]
        exact hending
      · rintro _ ⟨⟩
        rw [List.flatMap_nil, List.append_nil, hsent]
      · rw [hconverse]
        simp only [List.map_nil, List.nil_append, Option.toList_some, List.mapIdx_cons,
          List.mapIdx_nil, List.take_nil, List.flatMap_nil, List.append_nil]
    · obtain ⟨rounds, memory', last, hrounds, hending, hlast, hexchanges⟩ :=
        ih (messages ++ round.messages) memory₂
      refine ⟨round :: rounds, memory', last, .cons hsent hreplied hasked hanswered hrounds, ?_, ?_, ?_⟩
      · rw [hconverse]
        exact hending.succ
      · rwa [List.flatMap_cons, ← List.append_assoc]
      · rw [hconverse]
        simp only [hexchanges, List.map_cons, List.cons_append, List.mapIdx_cons, List.take_zero,
          List.flatMap_nil, List.append_nil, List.take_succ_cons, List.flatMap_cons,
          List.append_assoc]

variable {c tools} in
theorem messages_of_exchanges {exchanges : List (Exchange × Delivery)} {opening : List Message}
    {rounds : List Round} {deliveries : List Delivery} {k : Nat} {x : Exchange × Delivery}
    (h : exchanges = deliveries.mapIdx fun k d =>
      (⟨c, opening ++ (rounds.take k).flatMap Round.messages, tools⟩, d))
    (hx : exchanges[k]? = some x) :
    x.1.messages = opening ++ (rounds.take k).flatMap Round.messages := by
  rw [h, List.getElem?_mapIdx] at hx
  obtain ⟨d, -, rfl⟩ := Option.map_eq_some_iff.mp hx
  rfl

theorem openingMessages_of_shown {r : Request} {s : String} (hs : r.system = some s)
    (hshown : ¬ Text.isBlankText s) : openingMessages r = [.system s, .user r.user] := by
  simp only [openingMessages, hs, Option.filter_some, hshown]
  rfl

theorem openingMessages_of_blank {r : Request} (h : ∀ s, r.system = some s → Text.isBlankText s) :
    openingMessages r = [.user r.user] := by
  cases hs : r.system with
  | none => simp only [openingMessages, hs]; rfl
  | some s => simp only [openingMessages, hs, Option.filter_some, h s hs]; rfl

/-- Whatever the network and the tools do, a conversation is at most 8 requests. Each of them holds
the opening messages and all the rounds before it, which are replies that asked for tools with one
answer for each call, in this order, and it is longer than the one before. The conversation ends with the first
mishap of an exchange, with the first reply that asks for no tools or after 8 rounds; never because
of a tool. -/
theorem invokeWith_told (r : Request) (memory : σ) :
    ((∀ s, r.system = some s → ¬ Text.isBlankText s →
        openingMessages r = [.system s, .user r.user]) ∧
      ((∀ s, r.system = some s → Text.isBlankText s) → openingMessages r = [.user r.user])) ∧
    ∃ rounds memory' last,
      Rounds network workshop c r.tools (openingMessages r) memory rounds memory' ∧
      Ending c 8 rounds.length last (c.invokeWith network workshop r memory).result ∧
      (∀ d ∈ last,
        (network ⟨c, openingMessages r ++ rounds.flatMap Round.messages, r.tools⟩ memory').1 = d) ∧
      (c.invokeWith network workshop r memory).exchanges =
        (rounds.map Round.delivery ++ last.toList).mapIdx (fun k d =>
          (⟨c, openingMessages r ++ (rounds.take k).flatMap Round.messages, r.tools⟩, d)) ∧
      (∀ x ∈ (c.invokeWith network workshop r memory).exchanges, ∃ sent others,
        x.1.body = .object
          (("model", .string x.1.client.modelName) :: ("messages", .array sent) :: others) ∧
        List.Forall₂ Message.Sent x.1.messages sent) ∧
      (c.invokeWith network workshop r memory).exchanges.length ≤ 8 ∧
      ∀ k x y, (c.invokeWith network workshop r memory).exchanges[k]? = some x →
        (c.invokeWith network workshop r memory).exchanges[k + 1]? = some y →
        ∃ added ≠ [], y.1.messages = x.1.messages ++ added := by
  refine ⟨⟨fun s => openingMessages_of_shown, openingMessages_of_blank⟩, ?_⟩
  obtain ⟨rounds, memory', last, hrounds, hending, hlast, hexchanges⟩ :=
    converse_told network workshop c r.tools maxRounds (openingMessages r) memory
  have hcount := hending.count_le
  rw [← Client.invokeWith] at hexchanges hending
  have hlength : (c.invokeWith network workshop r memory).exchanges.length =
      rounds.length + last.toList.length := by
    rw [hexchanges, List.length_mapIdx, List.length_append, List.length_map]
  refine ⟨rounds, memory', last, hrounds, hending, hlast, hexchanges, fun x _ => x.1.body_messages,
    hlength ▸ hcount, ?_⟩
  intro k x y hx hy
  have hk : k < rounds.length := by
    have hlt := (List.getElem?_eq_some_iff.mp hy).1
    have hone : last.toList.length ≤ 1 := Option.length_toList_le
    omega
  refine ⟨rounds[k].messages, List.cons_ne_nil _ _, ?_⟩
  rw [messages_of_exchanges hexchanges hx, messages_of_exchanges hexchanges hy,
    List.take_succ_eq_append_getElem hk, List.flatMap_append, List.flatMap_singleton,
    List.append_assoc]

end Conversations

end AgentGraph.Chat
