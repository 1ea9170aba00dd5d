import AgentGraph.Chat.Conversation
import AgentGraph.Cli.Command
import AgentGraph.Execute
import AgentGraph.Tool.Standard

/-! What the commands do and what they print. -/
namespace AgentGraph.Cli

set_option autoImplicit false

/-- The files that a command can get at. A refusal says why. -/
structure Files (m : Type → Type) where
  read : String → m (Except String String)
  /-- Writes a file; a text is the reason why it could not. -/
  write : String → String → m (Option String)

/-- What a command depends on besides its words and files. -/
structure Surroundings (σ : Type) where
  environment : String → Option String
  tools : Registry
  network : Chat.Network σ
  memory : σ
  /-- Names the run. -/
  runId : String
  /-- How long anything takes, in milliseconds. -/
  elapsed : String

/-- How a command ended. -/
structure Ending where
  exitCode : Nat
  out : String
  err : String
deriving DecidableEq, Repr

/-! ## Trouble -/

/-- Why a command failed, and what that came from. -/
structure Trouble where
  text : String
  source : Option String := none
deriving DecidableEq, Repr

def indented (text : String) : String :=
  "    " ++ text.replace "\n" "\n    "

def Trouble.report (t : Trouble) : String :=
  "Error: " ++ t.text ++
    (match t.source with
      | some source => "\n\nCaused by:\n" ++ indented source
      | none => "") ++ "\n"

def Trouble.ofRunError (e : RunError) : Trouble :=
  match e with
  | .compile c => ⟨e.message, some c.message⟩
  | .failed f => ⟨e.message, some f.message⟩
  | .serialization j => ⟨e.message, some j.message⟩
  | .invalid _ | .execution _ => ⟨e.message, none⟩

/-! ## Lines -/

def lines (texts : List String) : String := String.join (texts.map (· ++ "\n"))

def succeeded (out : List String) : Ending := ⟨0, lines out, ""⟩

def failed (out : List String) (t : Trouble) : Ending := ⟨1, lines out, t.report⟩

def problemLines (ps : List Problem) : List String := ps.map fun p => "   • " ++ p.text

def graphLines (g : Graph) : List String :=
  ["   Entry: " ++ g.entry, "   Nodes: " ++ toString g.nodes.length]

def eventLine (elapsed : String) : Event → String
  | .runStarted entryId => "▶️  Run started at " ++ entryId
  | .unitStarted nodeId kind => "  ⚡ Starting node: " ++ nodeId ++ " (" ++ kind.name ++ ")"
  | .unitCompleted nodeId => "  ✅ Node " ++ nodeId ++ " completed in " ++ elapsed ++ "ms"
  | .unitFailed nodeId error => "  ❌ Node " ++ nodeId ++ " failed: " ++ error
  | .note nodeId .info message => "     ℹ️  [" ++ nodeId ++ "] " ++ message
  | .note nodeId .warning message => "     ⚠️  [" ++ nodeId ++ "] " ++ message
  | .runCompleted true => "✨ Run completed successfully in " ++ elapsed ++ "ms"
  | .runCompleted false => "💥 Run failed after " ++ elapsed ++ "ms"

/-! ## Reading -/

/-- The graph of a file that was read, or why there is none. -/
def graphOf (file : String) (content : Except String String) : Except Trouble Graph :=
  match content with
  | .error reason => .error ⟨"reading " ++ file, some reason⟩
  | .ok text =>
    (Graph.parse text).mapError fun e => ⟨"parsing " ++ file, some e.message⟩

/-- The input of a run; without one it is empty. -/
def inputOf : Option String → Except Trouble ValueMap
  | none => .ok []
  | some text =>
    match Json.parse text with
    | .error e => .error ⟨"parsing --input", some e.message⟩
    | .ok j =>
      match Value.ofJson j with
      | .object fields => .ok fields
      | _ => .error ⟨"Input must be a JSON object", none⟩

def settingsOf (c : Credentials) : Except Trouble Chat.Settings :=
  match Chat.Settings.ofKey (c.apiKey.getD "") with
  | .error e => .error ⟨e.message, none⟩
  | .ok s => .ok ((s.withBaseUrl c.baseUrl).withModel c.model)

/-! ## Commands -/

def toolLines (r : Registry) : List String :=
  r.entries.flatMap fun t => ("  • " ++ t.id) :: t.description.toList.map ("    " ++ ·)

def listTools (r : Registry) : Ending := succeeded (["🧰 Available Tools:", ""] ++ toolLines r)

def validateFile (file : String) (content : Except String String) : Ending :=
  let opening := "🔍 Validating workflow: " ++ file
  match graphOf file content with
  | .error t => failed [opening] t
  | .ok g =>
    match problems g.entry g.nodes with
    | [] => succeeded ([opening, "✅ Workflow is valid:", "   Name: " ++ g.name] ++ graphLines g)
    | found =>
      failed ([opening, "❌ " ++ toString found.length ++ " problem(s) found:"] ++
        problemLines found) ⟨"workflow graph is invalid", none⟩

/-- What is printed after a run that came to its end. -/
def summaryLines (runId : String) (r : Report) : List String :=
  ["", "📊 Execution Summary:", "   Execution ID: " ++ runId,
    "   Executed: " ++ " → ".intercalate r.executedNames, "", "📤 Result:", r.text]

/-- What a run comes to, after the lines that were printed before it. -/
def conclude {σ : Type} (w : Surroundings σ) (before : List String)
    (x : Execution Chat.Client σ) : Ending :=
  let out := before ++ x.log.events.map (eventLine w.elapsed)
  match x.result with
  | .ok r => succeeded (out ++ summaryLines w.runId r)
  | .error (.invalid ps) => failed (out ++ problemLines ps) (.ofRunError (.invalid ps))
  | .error e => failed out (.ofRunError e)

def runFile {σ : Type} (w : Surroundings σ) (file : String) (content : Except String String)
    (input : Option String) (c : Credentials) : Ending :=
  let opening := "🚀 Loading workflow from: " ++ file
  match (do return (← graphOf file content, ← inputOf input) : Except Trouble _) with
  | .error t => failed [opening] t
  | .ok (g, input) =>
    let before := [opening, "📋 Workflow: " ++ g.name] ++ graphLines g ++ [""]
    match settingsOf c with
    | .error t => failed before t
    | .ok s =>
      conclude w before
        (g.execute (Chat.provider s) w.tools {} (Chat.answer w.network) w.memory input)

/-! ## The example -/

def exampleWriter : NodeDecl :=
  { NodeDecl.agent "writer" "llm" with
    name := some "Writer"
    role := some "writer"
    promptTemplate :=
      some "Write a short story about: \x7b\x7bmetadata.prompt\x7d\x7d"
    outputKey := some "story" }

def exampleEditor : NodeDecl :=
  { NodeDecl.agent "editor" "llm" with
    name := some "Editor"
    role := some "editor"
    promptTemplate :=
      some "Edit this story for clarity and flow:\n\x7b\x7bstory\x7d\x7d"
    outputKey := some "result" }

def exampleGraph : Graph where
  name := "Story pipeline"
  description := some "A writer drafts a short story and an editor polishes it"
  entry := "story"
  nodes :=
    [.llm "llm" Chat.defaultBaseUrl Chat.defaultModel, exampleWriter, exampleEditor,
      { NodeDecl.sequence "story" ["writer", "editor"] with name := some "Story" }]

/-- What is printed when the example has been written, or could not be. -/
def announceExample (output : String) (refusal : Option String) : Ending :=
  match refusal with
  | some reason => failed [] ⟨reason, none⟩
  | none =>
    succeeded ["✨ Created example workflow: " ++ output, "", "Run it with:",
      "  " ++ programName ++ " run --file " ++ output ++
        " --input '\x7b\"metadata\": \x7b\"prompt\": \"a lighthouse keeper\"\x7d\x7d'"]

/-! ## All of it -/

def Command.execute {m : Type → Type} [Monad m] {σ : Type} (files : Files m)
    (w : Surroundings σ) : Command → m Ending
  | .run file input credentials _ => do
    return runFile w file (← files.read file) input credentials
  | .validate file => do
    return validateFile file (← files.read file)
  | .tools => return listTools w.tools
  | .init output => do
    return announceExample output (← files.write output exampleGraph.toJson.indented)

/-- Does what a command line asks for. A misuse ends with code 2 and no more. -/
def execute {m : Type → Type} [Monad m] {σ : Type} (files : Files m) (w : Surroundings σ)
    (words : List String) : m Ending :=
  match Wish.ofWords w.environment words with
  | .misuse => return ⟨2, "", ""⟩
  | .help text => return ⟨0, text, ""⟩
  | .command c => c.execute files w

end AgentGraph.Cli
