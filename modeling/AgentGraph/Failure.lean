/-! Why a step of a run fails. A failure is never retried; it ends every unit that waits for it. -/
namespace AgentGraph

set_option autoImplicit false

inductive Failure where
  | modelInvocation (message : String)
  | tool (name message : String)
  | noBranchMatched (nodeId : String)
  | unknownSubAgent (nodeId requested : String)
  | unusablePlan (nodeId message : String)
  | configuration (message : String)
  | executionFailed (message : String)
  | timeout (seconds : Nat)
deriving DecidableEq, Repr

def Failure.message : Failure → String
  | .modelInvocation message => "Model invocation failed: " ++ message
  | .tool name message => "Tool '" ++ name ++ "' failed: " ++ message
  | .noBranchMatched nodeId =>
    "Conditional node " ++ nodeId ++ " has no branch matching the current scope"
  | .unknownSubAgent nodeId requested =>
    "Supervisor " ++ nodeId ++ " requested unknown sub-agent '" ++ requested ++ "'"
  | .unusablePlan nodeId message =>
    "Supervisor " ++ nodeId ++ " produced an unusable plan: " ++ message
  | .configuration message => "Configuration error: " ++ message
  | .executionFailed message => "Execution failed: " ++ message
  | .timeout seconds => "Timeout after " ++ toString seconds ++ "s"

end AgentGraph
