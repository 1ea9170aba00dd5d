import Std.Time.DateTime.Timestamp
import AgentGraph.Cli.Session

/-! The program itself: it gathers what a command depends on, has the command done, and prints what
came of it. There is no network in this build, so every model call is refused. -/
namespace AgentGraph.Cli

set_option autoImplicit false

/-- Why the system refused, in its own words. -/
def reasonOf : IO.Error → String
  | .noFileOrDirectory _ _ _ => "No such file or directory (os error 2)"
  | .permissionDenied _ _ _ => "Permission denied (os error 13)"
  | .inappropriateType _ code details => details ++ " (os error " ++ toString code ++ ")"
  | .invalidArgument _ code details => details ++ " (os error " ++ toString code ++ ")"
  | e => toString e

def systemFiles : Files IO where
  read path := do
    try return .ok (← IO.FS.readFile path)
    catch e => return .error (reasonOf e)
  write path content := do
    try
      IO.FS.writeFile path content
      return none
    catch e => return some (reasonOf e)

/-- The values of the variables that some switch may take its value from. -/
def readEnvironment : IO (List (String × String)) := do
  let names := (forms.flatMap Form.switches).filterMap fun s => s.source.map Variable.name
  let values ← names.mapM fun name => return (name, ← IO.getEnv name)
  return values.filterMap fun v => v.2.map fun value => (v.1, value)

def hexDigits (bytes : List UInt8) : String :=
  String.ofList (bytes.flatMap fun b =>
    [Nat.digitChar (b.toNat / 16), Nat.digitChar (b.toNat % 16)])

/-- Sixteen random bytes, marked as such. -/
def newRunId : IO String := do
  let bytes := (← IO.getRandomBytes 16).toList
  let part (start length : Nat) : List UInt8 := (bytes.drop start).take length
  let marked (mask mark : UInt8) (bytes : List UInt8) : List UInt8 :=
    match bytes with
    | [] => []
    | b :: rest => ((b &&& mask) ||| mark) :: rest
  return "-".intercalate [hexDigits (part 0 4), hexDigits (part 4 2),
    hexDigits (marked 0x0F 0x40 (part 6 2)), hexDigits (marked 0x3F 0x80 (part 8 2)),
    hexDigits (part 10 6)]

def now : IO Clock.Instant := do
  return ⟨(← Std.Time.Timestamp.now).toMillisecondsSinceUnixEpoch.toInt.toNat⟩

def usageHint : String :=
  "error: the command line was not understood\n\nFor more information, try '--help'.\n"

end AgentGraph.Cli

open AgentGraph.Cli in
def main (words : List String) : IO UInt32 := do
  let environment ← readEnvironment
  let surroundings : Surroundings PUnit :=
    { environment := fun name => environment.lookup name
      tools := AgentGraph.Tool.standard (← now)
      network := AgentGraph.Chat.offline
      memory := ()
      runId := ← newRunId
      elapsed := "0" }
  let ending ← execute systemFiles surroundings words
  IO.print ending.out
  IO.eprint (if ending.exitCode = 2 then usageHint else ending.err)
  return ending.exitCode.toUInt32
