/-! Blank characters and trimming. A character is blank when Unicode gives it the property
White_Space; a text is trimmed by dropping blank characters at both ends, and visible when
something is left. -/
namespace AgentGraph.Text

set_option autoImplicit false

/-- The characters with the Unicode property White_Space. -/
def isBlank (c : Char) : Bool :=
  let n := c.toNat
  (0x09 ≤ n && n ≤ 0x0D) || n == 0x20 || n == 0x85 || n == 0xA0 || n == 0x1680 ||
    (0x2000 ≤ n && n ≤ 0x200A) || n == 0x2028 || n == 0x2029 || n == 0x202F || n == 0x205F ||
    n == 0x3000

/-! ## Trimming -/

def dropBlanks (cs : List Char) : List Char := cs.dropWhile isBlank

def trimChars (cs : List Char) : List Char := (dropBlanks (dropBlanks cs).reverse).reverse

def trim (s : String) : String := String.ofList (trimChars s.toList)

/-- True of the empty text too. -/
def isBlankText (s : String) : Bool := s.toList.all isBlank

/-- The trimmed text, if anything is left of it. -/
def visible? (s : String) : Option String :=
  if isBlankText s then none else some (trim s)

/-! ## Small facts -/

theorem visible?_eq_none_iff (s : String) : visible? s = none ↔ isBlankText s = true := by
  unfold visible?
  split <;> simp_all

end AgentGraph.Text
