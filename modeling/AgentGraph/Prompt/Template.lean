import AgentGraph.Prompt.Convention

/-! Templates. A template is text with placeholders: two opening braces, a dotted path, two closing
braces, with blanks allowed around the path. Placeholders are found from left to right and do not
overlap; what is put in their place is never looked at again. -/
namespace AgentGraph.Prompt

set_option autoImplicit false

/-! ## Pieces -/

inductive Piece where
  | literal (c : Char)
  | placeholder (path : String)
deriving DecidableEq, Repr

def isPathChar (c : Char) : Bool :=
  c.isAlphanum || c == '_' || c == '.' || c == '-'

/-- The path of the placeholder that begins here, and the text after it. -/
def placeholder? (cs : List Char) : Option (String × List Char) :=
  match cs with
  | '\x7b' :: '\x7b' :: inner =>
    let fromPath := Text.dropBlanks inner
    let path := fromPath.takeWhile isPathChar
    if path.isEmpty then none
    else
      match Text.dropBlanks (fromPath.dropWhile isPathChar) with
      | '\x7d' :: '\x7d' :: rest => some (String.ofList path, rest)
      | _ => none
  | _ => none

theorem dropBlanks_length_le (cs : List Char) : (Text.dropBlanks cs).length ≤ cs.length :=
  (List.dropWhile_sublist _).length_le

theorem placeholder?_length_lt {cs rest : List Char} {path : String}
    (h : placeholder? cs = some (path, rest)) : rest.length < cs.length := by
  unfold placeholder? at h
  split at h
  · next inner =>
    dsimp only at h
    split at h
    · simp at h
    · split at h
      · next rest' heq =>
        have hr : rest' = rest := (Prod.mk.inj (Option.some.inj h)).2
        subst hr
        have h1 := dropBlanks_length_le ((Text.dropBlanks inner).dropWhile isPathChar)
        have h2 : ((Text.dropBlanks inner).dropWhile isPathChar).length ≤
            (Text.dropBlanks inner).length := (List.dropWhile_sublist _).length_le
        have h3 := dropBlanks_length_le inner
        rw [heq] at h1
        simp only [List.length_cons] at h1 ⊢
        omega
      · simp at h
  · simp at h

/-- The leftmost decomposition of a text into placeholders and characters. -/
def pieces (cs : List Char) : List Piece :=
  match cs with
  | [] => []
  | c :: after =>
    match _ : placeholder? (c :: after) with
    | some (path, rest) => .placeholder path :: pieces rest
    | none => .literal c :: pieces after
termination_by cs.length
decreasing_by
  · exact placeholder?_length_lt (by assumption)
  · simp

/-! ## Paths -/

/-- The parts between the dots; some may be empty. -/
def segments : List Char → List (List Char)
  | [] => [[]]
  | c :: rest =>
    if c = '.' then [] :: segments rest
    else
      match segments rest with
      | [] => [[c]]
      | first :: others => (c :: first) :: others

/-- The value that names lead to, one inside the other. -/
def descend (v : Value) : List (List Char) → Option Value
  | [] => some v
  | name :: names =>
    match v with
    | .object fields => (ValueMap.lookup fields (String.ofList name)).bind (descend · names)
    | _ => none

/-- The text that a path stands for: nothing if a name on the way is missing, the empty text for a
null. The path `prompt` stands for the message of the map. -/
def resolve? (m : ValueMap) (path : String) : Option String :=
  if Text.sameIgnoringCase path "prompt" then some ((ofMap? m).getD "")
  else
    (descend (.object m) (segments path.toList)).map fun v =>
      (v.text?.map Text.trim).getD ""

/-! ## Rendering -/

structure Rendered where
  text : String
  hadPlaceholders : Bool
  /-- The paths that lead nowhere, in order and with repetitions. -/
  unresolved : List String
deriving DecidableEq, Repr

def Piece.text (m : ValueMap) : Piece → List Char
  | .literal c => [c]
  | .placeholder path => ((resolve? m path).getD "").toList

def Piece.path? : Piece → Option String
  | .literal _ => none
  | .placeholder path => some path

def render (template : String) (m : ValueMap) : Rendered :=
  let parts := pieces template.toList
  let paths := parts.filterMap Piece.path?
  { text := String.ofList (Text.trimChars (parts.flatMap (Piece.text m)))
    hadPlaceholders := !paths.isEmpty
    unresolved := paths.filter fun path => (resolve? m path).isNone }

end AgentGraph.Prompt
