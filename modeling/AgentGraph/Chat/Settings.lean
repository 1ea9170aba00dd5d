import AgentGraph.Model.Request
import AgentGraph.Text.Ascii

/-! What a chat provider needs to know: a key, and what to use where a binding is silent. -/
namespace AgentGraph.Chat

set_option autoImplicit false

def defaultBaseUrl : String := "https://openrouter.ai/api/v1"

def defaultModel : String := "openai/gpt-4o-mini"

/-- How long to wait for an answer, in milliseconds. -/
structure Patience where
  milliseconds : Nat
deriving DecidableEq, Repr

namespace Patience

def ofSeconds (seconds : Nat) : Patience := ⟨1000 * seconds⟩

/-- Whole seconds. -/
def seconds (p : Patience) : Nat := p.milliseconds / 1000

/-- The digits of a part of 1000, without zeros at the end. -/
def fraction (n : Nat) : String :=
  let digits := Nat.toDigits 10 (1000 + n)
  Text.dropTrailing '0' (String.ofList digits.tail)

/-- Seconds if there are any, else milliseconds, else nothing at all. -/
def text (p : Patience) : String :=
  let part := p.milliseconds % 1000
  if 1000 ≤ p.milliseconds then
    toString p.seconds ++ (if part = 0 then "" else "." ++ fraction part) ++ "s"
  else if 0 < part then toString part ++ "ms"
  else "0ns"

end Patience

structure Settings where
  /-- Trimmed and not empty. -/
  apiKey : String
  baseUrl : String := defaultBaseUrl
  modelName : String := defaultModel
  patience : Patience := .ofSeconds 120

namespace Settings

def ofKey (apiKey : String) : Except Failure Settings :=
  match Text.visible? apiKey with
  | some apiKey => .ok { apiKey }
  | none =>
    .error (.configuration "API key is required. Set OPENROUTER_API_KEY in the environment.")

/-- The trimmed text, or the default if there is none or nothing of it shows. -/
def pick (text : Option String) (default : String) : String :=
  (text.bind Text.visible?).getD default

def withBaseUrl (s : Settings) (url : Option String) : Settings :=
  { s with baseUrl := pick url s.baseUrl }

def withModel (s : Settings) (model : Option String) : Settings :=
  { s with modelName := pick model s.modelName }

def baseUrlFor (s : Settings) (b : Binding) : String := pick b.baseUrl s.baseUrl

def modelFor (s : Settings) (b : Binding) : String := pick b.modelName s.modelName

/-- The settings in one line for diagnostics; the key is hidden. -/
def summary (s : Settings) : String :=
  "OpenAiCompatConfig \x7b api_key: " ++ Text.quoted "***" ++
    ", default_base_url: " ++ Text.quoted s.baseUrl ++
    ", default_model: " ++ Text.quoted s.modelName ++
    ", timeout: " ++ s.patience.text ++ " \x7d"

end Settings

end AgentGraph.Chat
