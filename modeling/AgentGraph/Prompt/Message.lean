import AgentGraph.Prompt.Template

/-! The message an agent is asked with: its template if that renders to something, else what the
scope suggests, else a fallback. An empty scope is replaced by the input of the run first. -/
namespace AgentGraph

set_option autoImplicit false

/-- Where an agent takes its message from; a template of nothing but blanks is none. -/
structure Prompt where
  template : Option String

namespace Prompt

def ofTemplate (template : Option String) : Prompt :=
  ⟨template.filter fun t => !Text.isBlankText t⟩

def hasTemplate (p : Prompt) : Bool := p.template.isSome

/-- The message of a template, unless it renders to nothing. -/
def ofTemplate? (template : String) (m : ValueMap) : Option String :=
  let text := (render template m).text
  if text.isEmpty then none else some (orGeneric text)

def source (scope ambient : ValueMap) : ValueMap :=
  if scope.isEmpty && !ambient.isEmpty then ambient else scope

def message (p : Prompt) (scope ambient : ValueMap) : String :=
  let m := source scope ambient
  ((p.template.bind fun t => ofTemplate? t m).or (ofMap? m)).getD fallbackInstruction

end Prompt

end AgentGraph
