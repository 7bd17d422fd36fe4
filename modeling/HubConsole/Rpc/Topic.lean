import HubConsole.Network.Basic
import HubConsole.Node.Detail

namespace HubConsole.Rpc

open HubConsole.Json

inductive Topic where
  | network
  | node
  deriving DecidableEq

/-- A push that this side can use. -/
inductive Push where
  | network (delta : Network.Delta)
  | node (update : Node.Update)

namespace Topic

def all : List Topic := [.network, .node]

def name : Topic → String
  | .network => "dashboard_updated"
  | .node => "node_updated"

def ofName? (s : String) : Option Topic := all.find? (·.name == s)

/-- Reads a topic; its name has to be exact. -/
def parse (s : String) : Except String Topic :=
  match ofName? s with
  | some t => .ok t
  | none => .error s!"Unknown push topic: {s}"

theorem ofName?_name (t : Topic) : ofName? t.name = some t := by cases t <;> decide

end Topic

namespace Push

def topic : Push → Topic
  | .network _ => .network
  | .node _ => .node

/-- Parameters that come alone in an array count as if they came without it. -/
def unwrap : Value → Value
  | .array [v] => v
  | v => v

/-- The push that a topic and its parameters make. -/
def ofParams (topic : Topic) (params : Value) : Except Fault Push :=
  match topic with
  | .network => (Wire.ofValue (unwrap params)).map .network
  | .node => (Wire.ofValue (unwrap params)).map .node

/-- The push of a notification, or nothing for a topic that is not known. -/
def ofNotification (topic : String) (params : Value) : Except Fault (Option Push) :=
  match Topic.ofName? topic with
  | none => .ok none
  | some t => (ofParams t params).map some

/-- The record that a push carries. -/
def record : Push → Value
  | .network d => Wire.write d
  | .node u => Wire.write u

end Push
end HubConsole.Rpc
