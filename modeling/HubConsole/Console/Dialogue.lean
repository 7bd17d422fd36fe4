import HubConsole.Console.Loop

namespace HubConsole.Console

open HubConsole.Json HubConsole.Session

/-- Why a command fails. -/
inductive Failure where
  | call (context : String) (error : CallError)
  /-- The parameters of a raw call are no document. -/
  | badParams (text : String)
  | noUpgrade
  deriving Nonempty

namespace Failure

/-- The texts of a failure from the outermost cause inwards. What is wrong with a document is not this
library's to word. -/
def chain : Failure → List String
  | .call context e => [context, e.message]
  | .badParams text => [s!"invalid params JSON: {text}", "<json>"]
  | .noUpgrade => ["either --commit or --binary-url with --checksum is required"]

end Failure

/-- What a command does, one thing after another. Who carries it out decides where texts go and where replies come
from. -/
inductive Dialogue where
  | done (result : Except Failure Unit)
  | print (text : String) (next : Dialogue)
  | raise (notice : Notice) (next : Dialogue)
  /-- Shows the notices raised so far. -/
  | flush (next : Dialogue)
  | ask (method : String) (params : Value) (next : Reply → Dialogue)
  /-- Looks at the state of the session. -/
  | state (next : State → Dialogue)
  /-- From here on pushes are taken. -/
  | listen (next : Dialogue)
  /-- Goes on as a loop. -/
  | loop (loop : Loop)
  | follow (board : Board)

namespace Dialogue

def stop : Dialogue := .done (.ok ())

def fail (f : Failure) : Dialogue := .done (.error f)

def raiseAll (notices : List Notice) (next : Dialogue) : Dialogue := notices.foldr .raise next

/-- Calls a method of the hub. -/
def call {α : Type} (m : Method α) (next : CallResult α → Dialogue) : Dialogue :=
  .ask m.name m.params fun reply =>
    let settled := m.settle reply
    raiseAll settled.2 (next settled.1)

end Dialogue
end HubConsole.Console
