import AgentGraph.Host.Direction
import AgentGraph.Host.Joiner
import AgentGraph.Host.Letter
import AgentGraph.Host.Punycode
import AgentGraph.Text.Mark

/-! Names of hosts in the form that is sent: small ASCII letters, digits and a few signs.

The characters of a name are folded and composed, and the name is cut into labels at its dots. A
label that is not ASCII is written as a code after `xn--`. A label that is such a code already must
be the code of a label that could be written so. -/
namespace AgentGraph.Host

set_option autoImplicit false

open Punycode (isAscii)

/-! ## Parts -/

/-- The parts of a text between the characters at which it is cut. -/
def partsAt (isCut : Char → Bool) : List Char → List (List Char)
  | [] => [[]]
  | c :: cs =>
    if isCut c then [] :: partsAt isCut cs
    else
      match partsAt isCut cs with
      | [] => [[c]]
      | first :: others => (c :: first) :: others

def withDots (labels : List (List Char)) : List Char := ['.'].intercalate labels

/-! ## Labels -/

/-- What a label is a code of, or the label itself. -/
def spelled? (label : List Char) : Option (List Char) :=
  match label with
  | 'x' :: 'n' :: '-' :: '-' :: code => do
    let spelled ← Punycode.decode? code
    if !spelled.all isAscii && spelled.all isSettled && Text.composed spelled == spelled then
      some spelled
    else none
  | label => some label

/-- The label as it is sent. -/
def sent (label : List Char) : List Char :=
  if label.all isAscii then label else "xn--".toList ++ Punycode.encode label

/-- Characters that mean something else in an address, and those without a shape. -/
def isForbidden (c : Char) : Bool :=
  c.toNat ≤ 0x20 || c.toNat == 0x7F || "%#/:<>?@[\\]^|".toList.contains c

/-- Whether a spelled label may be part of a name. -/
def isLabel (spelled : List Char) : Bool :=
  !spelled.any isForbidden && !(spelled.head?.map Text.isMark).getD false && joinersFit [] spelled

/-! ## Names -/

/-- The form of a name that is sent, if there is one. -/
def name? (cs : List Char) : Option (List Char) := do
  let folded ← cs.mapM folded?
  let labels := partsAt (· == '.') (Text.composed folded.flatten)
  let spelled ← labels.mapM spelled?
  if spelled.all isLabel && areReadable spelled then some (withDots (labels.map sent)) else none

end AgentGraph.Host
