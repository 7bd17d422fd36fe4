import HubConsole.Graph.Basic
import HubConsole.Log.Basic
import HubConsole.Network.Basic
import HubConsole.Node.Detail
import HubConsole.Session.Call

namespace HubConsole.Session

open HubConsole.Json HubConsole.Rpc

/-- A call that gives an `α`. -/
structure Method (α : Type) where
  name : String
  params : Value
  read : Reader α

namespace Method

/-- How a call ends, given the reply to it, and the notice that it raises. -/
def settle {α : Type} (m : Method α) : Reply → CallResult α × List Notice
  | .ok outcome => Session.settle m.read m.name outcome
  | .error e => (.error e, [])

end Method

namespace Hub

/-- A parameter that is a record; its members are sent in the order of their names. -/
def param {α : Type} [Wire α] (a : α) : Value := (Wire.write a).sorted

def call {α : Type} [Wire α] (name : String) (params : List Value) : Method α :=
  ⟨name, .array params, Wire.read⟩

def network : Method Network := call "dashboard_getNetwork" []

def nodeInfo (node : String) : Method Node.Detail := call "node_getInfo" [.string node]

def nodeStart (node : String) (option : Node.StartOption) : Method Node.Detail :=
  call "node_start" [.string node, param option]

def nodeStop (node : String) : Method Node.Detail := call "node_stop" [.string node]

/-- What the hub answers to an update does not matter. -/
def nodeUpdate (node : String) (upgrade : Node.Upgrade) : Method Unit where
  name := "node_update"
  params := .array [.string node, param upgrade]
  read := fun _ _ => .ok ()

def logTargets : Method Log.Targets := call "log_getTargets" []

def logPage (request : Log.PageRequest) : Method Log.Page := call "log_get" [param request]

def trafficOfAll (query : Graph.Query) : Method (Graph.Rows Graph.NodeRow) :=
  call "graph_network_out_all_node" [param query]

def averageTrafficOfAll (query : Graph.Query) : Method (Graph.Rows Graph.NodeRow) :=
  call "graph_network_out_all_node_avg" [param query]

def trafficOfNode (node : String) (query : Graph.Query) :
    Method (Graph.Rows Graph.ExtensionRow) :=
  call "graph_network_out_node_extension" [.string node, param query]

/-- Any method, and whatever it gives. -/
def raw (name : String) (params : Value) : Method Value := ⟨name, params, Reader.free⟩

end Hub

/-- Why a node is not started. -/
inductive StartError where
  | alreadyRunning (node : String)
  | envParse (node message : String)
  | updating (node : String)
  | session (error : CallError)

namespace StartError

def message : StartError → String
  | .alreadyRunning node => s!"{node} is already running"
  | .envParse node message => s!"invalid env string for {node}: {message}"
  | .updating node => s!"{node} is updating"
  | .session e => e.message

/-- Some errors have a meaning of their own when a node is started, and are told to the user. -/
def ofCall (node : String) : CallError → StartError × List Notice
  | .rpc e =>
    if e.code = alreadyRunningCode then (.alreadyRunning node, [.alreadyRunning node])
    else if e.code = envParseCode then (.envParse node e.message, [.envParse node])
    else if e.code = updatingCode then (.updating node, [.updating node])
    else (.session (.rpc e), [])
  | e => (.session e, [])

end StartError

/-- How the start of a node ends. -/
def settleStart (node : String) (option : Node.StartOption) (reply : Reply) :
    Except StartError (Answer Node.Detail) × List Notice :=
  match (Hub.nodeStart node option).settle reply with
  | (.ok answer, notices) => (.ok answer, notices)
  | (.error e, notices) =>
    let failed := StartError.ofCall node e
    (.error failed.1, notices ++ failed.2)

end HubConsole.Session
