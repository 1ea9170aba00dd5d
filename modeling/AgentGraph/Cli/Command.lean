import AgentGraph.Cli.Switch

/-! The commands of the program and what they are called with. -/
namespace AgentGraph.Cli

set_option autoImplicit false

/-- What is known about a provider from the command line and the environment. -/
structure Credentials where
  apiKey : Option String := none
  baseUrl : Option String := none
  model : Option String := none
deriving DecidableEq, Repr

inductive Command where
  | run (file : String) (input : Option String) (credentials : Credentials) (isVerbose : Bool)
  | validate (file : String)
  | tools
  | init (output : String)
deriving DecidableEq, Repr

/-! ## Forms -/

/-- How a command is written. -/
structure Form where
  name : String
  help : String
  switches : List Switch
  /-- The command of the values of the switches. -/
  command : Given → Option Command

def fileSwitch : Switch where
  letter := some 'f'
  name := "file"
  operand := .path
  isRequired := true
  help := "Path to workflow graph JSON file"

def runSwitches : List Switch :=
  [fileSwitch,
    { letter := some 'i', name := "input"
      help := "Run input as a JSON object, e.g. '\x7b\"metadata\": \x7b\"prompt\": \"...\"\x7d\x7d'" },
    { name := "api-key", source := some ⟨"OPENROUTER_API_KEY", true⟩
      help := "API key of the OpenAI-compatible endpoint" },
    { name := "base-url", source := some ⟨"OPENROUTER_BASE_URL", false⟩
      help := "Base URL used by llm nodes that declare none" },
    { name := "model", source := some ⟨"OPENROUTER_MODEL", false⟩
      help := "Model used by llm nodes that declare none" },
    { letter := some 'v', name := "verbose", operand := .nothing, help := "Show verbose output" }]

def runForm : Form where
  name := "run"
  help := "Validate, compile and run a workflow graph file"
  switches := runSwitches
  command given := (given.lookup "file").map fun file =>
    .run file (given.lookup "input")
      ⟨given.lookup "api-key", given.lookup "base-url", given.lookup "model"⟩
      (given.lookup "verbose").isSome

def validateForm : Form where
  name := "validate"
  help := "Validate a workflow graph file"
  switches := [fileSwitch]
  command given := (given.lookup "file").map .validate

def toolsForm : Form where
  name := "tools"
  help := "List tools agents can reference"
  switches := []
  command _ := some .tools

def initForm : Form where
  name := "init"
  help := "Create an example workflow graph"
  switches :=
    [{ letter := some 'o', name := "output", operand := .path, default := some "workflow.json"
       help := "Output file path" }]
  command given := (given.lookup "output").map .init

def forms : List Form := [runForm, validateForm, toolsForm, initForm]

/-! ## Help -/

def programName : String := "agentflow"

def Form.helpText (environment : String → Option String) (f : Form) : String :=
  f.help ++ "\n\nUsage: " ++ programName ++ " " ++ f.name ++ usageOf f.switches ++ "\n\n" ++
    helpOf environment f.switches

def helpForHelp : String := "Print this message or the help of the given subcommand(s)"

def programHelp : String :=
  "Agent graph CLI\n\nUsage: " ++ programName ++ " <COMMAND>\n\nCommands:\n" ++
    columns ((forms.map fun f => (f.name, f.help)) ++
      [("help", helpForHelp)]) ++
    "\n" ++ helpOf (fun _ => none) []

/-- How help is asked for by name. -/
def helpText : String :=
  helpForHelp ++ "\n\nUsage: " ++ programName ++ " help [COMMAND]...\n\nArguments:\n" ++
    columns [("[COMMAND]...", "Print help for the subcommand(s)")]

/-! ## Reading a command line -/

/-- What a command line asks for. -/
inductive Wish where
  | command (c : Command)
  | help (text : String)
  | misuse
deriving DecidableEq, Repr

def form? (name : String) : Option Form := forms.find? fun f => f.name == name

def Form.read (environment : String → Option String) (f : Form) (words : List String) : Wish :=
  match readSwitches f.switches environment words with
  | .error .misuse => .misuse
  | .error .help => .help (f.helpText environment)
  | .ok given => (f.command given).elim .misuse .command

/-- The help that is asked for by name. -/
def readHelp (environment : String → Option String) : List String → Wish
  | [] => .help programHelp
  | ["help"] => .help helpText
  | [name] => (form? name).elim .misuse fun f => .help (f.helpText environment)
  | _ => .misuse

def Wish.ofWords (environment : String → Option String) : List String → Wish
  | [] => .misuse
  | "help" :: words => readHelp environment words
  | word :: words =>
    match form? word with
    | some f => f.read environment words
    | none =>
      match readWord [] [] word.toList with
      | .error .help => .help programHelp
      | _ => .misuse

end AgentGraph.Cli
