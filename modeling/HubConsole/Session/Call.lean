import HubConsole.Rpc.Frame
import HubConsole.Session.Notice

namespace HubConsole.Session

open HubConsole.Json HubConsole.Rpc

inductive CallError where
  /-- The connection did not open in time. -/
  | timeout
  /-- The session has ended. -/
  | closed
  /-- The connection was lost before the answer came. -/
  | connectionClosed
  | rpc (error : ErrorObject)
  | frame (error : FrameError)
  /-- The result is not what the method should give. -/
  | decode (method reason : String)

/-- What a caller gets when the hub has answered. -/
inductive Answer (α : Type) where
  | value (a : α)
  | suppressed (error : CommonError)

abbrev CallResult (α : Type) := Except CallError (Answer α)

/-- What the session hands back for a request: the hub's outcome, or why there is none. -/
abbrev Reply := Except CallError Outcome

namespace CallError

def message : CallError → String
  | .timeout => "agent hub connection did not open in time"
  | .closed => "session is closed"
  | .connectionClosed => "connection closed before the hub replied"
  | .rpc e => e.line
  | .frame e => e.message
  | .decode method reason => s!"unexpected result for {method}: {reason}"

end CallError

namespace Answer

variable {α β : Type}

def map (f : α → β) : Answer α → Answer β
  | .value a => .value (f a)
  | .suppressed e => .suppressed e

end Answer

/-- The caller's view of the hub's outcome, and the notice that it raises. -/
def settle {α : Type} (read : Reader α) (method : String) :
    Outcome → CallResult α × List Notice
  | .ok v =>
    match read.ofValue v with
    | .ok a => (.ok (.value a), [])
    | .error _ => (.error (.decode method "<json>"), [])
  | .error e =>
    match CommonError.ofCode? e.code with
    | some c => (.ok (.suppressed c), [.ofCommon c])
    | none => (.error (.rpc e), [])

end HubConsole.Session
