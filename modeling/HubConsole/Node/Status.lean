import HubConsole.Json.Record
import HubConsole.Text.Lowercase

namespace HubConsole.Node

open HubConsole.Json

inductive Status where
  | run
  | starting
  | stop
  | error
  | updating
  /-- Seen on the network, with no agent in charge of it. -/
  | ufo
  deriving DecidableEq

namespace Status

instance : Inhabited Status := ⟨.stop⟩

def name : Status → String
  | .run => "Run"
  | .starting => "Starting"
  | .stop => "Stop"
  | .error => "Error"
  | .updating => "Updating"
  | .ufo => "UFO"

def all : List Status := [.run, .starting, .stop, .error, .updating, .ufo]

/-- The status with exactly this name. -/
def ofName? (s : String) : Option Status := all.find? (·.name == s)

/-- The place in the table's order; what needs attention comes first. -/
def rank : Status → Nat
  | .error => 1
  | .stop => 2
  | .starting => 3
  | .updating => 4
  | .run => 5
  | .ufo => 6

/-- Reads a status as people type it, in any case; the error is the text it was taken for. -/
def parse (s : String) : Except String Status :=
  let word := Text.lowercase (Text.trim s)
  if word = "run" ∨ word = "running" then .ok .run
  else if word = "starting" then .ok .starting
  else if word = "stop" ∨ word = "stopped" then .ok .stop
  else if word = "error" then .ok .error
  else if word = "updating" then .ok .updating
  else if word = "ufo" then .ok .ufo
  else .error s!"Unknown node status: {word}"

instance : Wire Status := ⟨Reader.name ofName?, fun s => .string s.name⟩

theorem ofName?_name (s : Status) : ofName? s.name = some s := by cases s <;> decide

end Status
end HubConsole.Node
