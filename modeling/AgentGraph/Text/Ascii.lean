/-! Case in the ASCII range. Keys, tool paths and verdicts are compared without regard to the case
of the letters A to Z; all other characters stand for themselves. -/
namespace AgentGraph.Text

set_option autoImplicit false

def lower (s : String) : String := s.map Char.toLower

def upper (s : String) : String := s.map Char.toUpper

def sameIgnoringCase (a b : String) : Bool := lower a == lower b

theorem sameIgnoringCase_refl (a : String) : sameIgnoringCase a a = true := by
  simp [sameIgnoringCase]

theorem sameIgnoringCase_comm (a b : String) : sameIgnoringCase a b = sameIgnoringCase b a := by
  unfold sameIgnoringCase
  exact BEq.comm

/-- The text without the characters `c` it ends in. -/
def dropTrailing (c : Char) (s : String) : String :=
  String.ofList (s.toList.reverse.dropWhile (· == c)).reverse

end AgentGraph.Text
