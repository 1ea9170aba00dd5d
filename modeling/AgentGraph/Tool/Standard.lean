import AgentGraph.Tool.Calculator
import AgentGraph.Tool.Clock
import AgentGraph.Tool.Registry

/-! The tools that every registry of this program begins with. -/
namespace AgentGraph.Tool

set_option autoImplicit false

def objectSchema (more : List (String × Json)) : Json :=
  .object (("type", .string "object") :: more)

/-- The expression among the arguments, which may also be given bare. -/
def expression (arguments : Json) : String :=
  (((arguments.get? "expression").bind Json.asString?).or arguments.asString?).getD ""

/-- Answers with the result of an expression, or with what is wrong with it. -/
def calculator : Tool where
  name := "calculator"
  description := "Evaluate a simple arithmetic expression (e.g. 2 + 3 * 4). " ++
    "Only numbers and + - * / ( ) allowed."
  schema := objectSchema [
    ("properties", .object [("expression", .object [
      ("type", .string "string"), ("description", .string "Arithmetic expression")])]),
    ("required", .array [.string "expression"])]
  call arguments := .ok (Calculator.calculate (expression arguments))

/-- Tells the time, which is given when the tool is made. -/
def time (now : Clock.Instant) : Tool where
  name := "time"
  description := "Get the current date and time in UTC (ISO-8601)"
  schema := objectSchema [("properties", .object [])]
  call _ := .ok now.text

def standard (now : Clock.Instant) : Registry := .ofTools [time now, calculator]

end AgentGraph.Tool
