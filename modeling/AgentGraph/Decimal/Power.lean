/-! Powers of two and of ten. -/
namespace AgentGraph.Decimal

set_option autoImplicit false

def twoTo (n : Nat) : Nat := Nat.pow 2 n

def tenTo (n : Nat) : Nat := Nat.pow 10 n

end AgentGraph.Decimal
