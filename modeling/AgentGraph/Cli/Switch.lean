/-! Switches of a command line, and how they are read.

A switch may be given once. It has a long name after two dashes, and it may have a letter after
one dash. If it takes a value, the value follows after an equals sign or as the next word, which
then must not begin with a dash; after a letter it may follow at once. Letters of switches without
values may be joined. Nothing but switches may be given. -/
namespace AgentGraph.Cli

set_option autoImplicit false

/-- What a switch takes as its value. -/
inductive Operand where
  | nothing
  | text
  /-- A path is never empty. -/
  | path
deriving DecidableEq, Repr

/-- A variable of the environment that stands in for a switch. -/
structure Variable where
  name : String
  /-- Its value is not shown to a reader. -/
  isSecret : Bool := false
deriving DecidableEq, Repr

structure Switch where
  letter : Option Char := none
  name : String
  operand : Operand := .text
  isRequired : Bool := false
  default : Option String := none
  source : Option Variable := none
  help : String
deriving DecidableEq, Repr

/-- Why reading stops before the end. -/
inductive Stop where
  | misuse
  | help
deriving DecidableEq, Repr

/-- The switches that were given, with their values. -/
abbrev Given := List (String × String)

namespace Switch

/-- Whether a value may be given to the switch. -/
def admits (s : Switch) (value : String) : Bool :=
  match s.operand with
  | .nothing => false
  | .text => true
  | .path => !value.isEmpty

/-- Takes the switch down with its value. -/
def give (s : Switch) (value : String) (given : Given) : Except Stop Given :=
  if s.admits value then .ok (given ++ [(s.name, value)]) else .error .misuse

end Switch

/-- A switch whose value is still to come. -/
abbrev Pending := Option Switch

def isGiven (given : Given) (s : Switch) : Bool := given.any fun g => g.1 == s.name

/-- The switch of a form, unless it was given before. -/
def pick (switches : List Switch) (given : Given) (p : Switch → Bool) : Except Stop Switch :=
  match switches.find? p with
  | none => .error .misuse
  | some s => if isGiven given s then .error .misuse else .ok s

/-- A word of two dashes and more. -/
def readLong (switches : List Switch) (given : Given) (word : List Char) :
    Except Stop (Given × Pending) := do
  let name := String.ofList (word.takeWhile (· ≠ '='))
  let value? := match word.dropWhile (· ≠ '=') with
    | [] => none
    | _ :: value => some (String.ofList value)
  if name = "help" then throw (if value?.isSome then .misuse else .help)
  let s ← pick switches given (·.name == name)
  match s.operand, value? with
  | .nothing, none => return (given ++ [(s.name, "")], none)
  | .nothing, some _ => throw .misuse
  | _, some value => return (← s.give value given, none)
  | _, none => return (given, some s)

/-- The letters after one dash. -/
def readLetters (switches : List Switch) (given : Given) :
    List Char → Except Stop (Given × Pending)
  | [] => .ok (given, none)
  | c :: rest => do
    if c = 'h' then throw .help
    let s ← pick switches given (·.letter == some c)
    match s.operand, rest with
    | .nothing, _ => readLetters switches (given ++ [(s.name, "")]) rest
    | _, [] => return (given, some s)
    | _, '=' :: value => return (← s.give (String.ofList value) given, none)
    | _, value => return (← s.give (String.ofList value) given, none)

def readWord (switches : List Switch) (given : Given) (word : List Char) :
    Except Stop (Given × Pending) :=
  match word with
  | '-' :: '-' :: long => readLong switches given long
  | '-' :: letter :: letters => readLetters switches given (letter :: letters)
  | _ => .error .misuse

/-- A word that begins with a dash and goes on. -/
def looksLikeSwitch (word : String) : Bool :=
  match word.toList with
  | '-' :: _ :: _ => true
  | _ => false

/-- Reads all words; two dashes alone may stand at the end. -/
def readWords (switches : List Switch) (given : Given) (pending : Pending) :
    List String → Except Stop Given
  | [] => if pending.isSome then .error .misuse else .ok given
  | word :: rest => do
    match pending with
    | some s =>
      if looksLikeSwitch word then throw .misuse
      readWords switches (← s.give word given) none rest
    | none =>
      if word = "--" then
        if rest.isEmpty then return given else throw .misuse
      let (given, pending) ← readWord switches given word.toList
      readWords switches given pending rest

/-- The values of the words, of the environment and the defaults, in this order of precedence. -/
def valueOf? (environment : String → Option String) (given : Given) (s : Switch) : Option String :=
  ((given.lookup s.name).or (s.source.bind fun v => environment v.name)).or s.default

/-- Reads the words and looks for the values of all switches; required ones must be there. -/
def readSwitches (switches : List Switch) (environment : String → Option String)
    (words : List String) : Except Stop Given := do
  let given ← readWords switches [] none words
  if switches.any fun s => s.isRequired && (valueOf? environment given s).isNone then throw .misuse
  return switches.filterMap fun s => (valueOf? environment given s).map fun v => (s.name, v)

/-! ## Help -/

def Switch.placeholder (s : Switch) : String :=
  match s.operand with
  | .nothing => ""
  | _ => " <" ++ (s.name.map fun c => if c = '-' then '_' else c.toUpper) ++ ">"

def Switch.form (s : Switch) : String :=
  (match s.letter with
    | some c => "-" ++ c.toString ++ ", "
    | none => "    ") ++ "--" ++ s.name ++ s.placeholder

def Switch.remarks (environment : String → Option String) (s : Switch) : String :=
  (match s.source with
    | some v =>
      " [env: " ++ v.name ++
        (if v.isSecret then "" else "=" ++ (environment v.name).getD "") ++ "]"
    | none => "") ++
    (match s.default with
      | some value => " [default: " ++ value ++ "]"
      | none => "")

def helpSwitch : Switch := { letter := some 'h', name := "help", operand := .nothing, help := "Print help" }

def padTo (width : Nat) (s : String) : String :=
  s ++ String.ofList (List.replicate (width - s.length) ' ')

/-- Two columns, the second one aligned. -/
def columns (rows : List (String × String)) : String :=
  let width := (rows.map fun r => r.1.length).foldl max 0
  String.join (rows.map fun r => "  " ++ padTo width r.1 ++ "  " ++ r.2 ++ "\n")

def helpOf (environment : String → Option String) (switches : List Switch) : String :=
  "Options:\n" ++ columns ((switches ++ [helpSwitch]).map fun s =>
    (s.form, s.help ++ s.remarks environment))

/-- How a command is called. -/
def usageOf (switches : List Switch) : String :=
  (if switches.any (!·.isRequired) then " [OPTIONS]" else "") ++
    String.join ((switches.filter Switch.isRequired).map fun s =>
      " --" ++ s.name ++ s.placeholder)

end AgentGraph.Cli
