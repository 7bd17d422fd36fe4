import HubConsole.Console.CommandLine
import HubConsole.Console.Dialogue

namespace HubConsole.Console

open HubConsole.Dashboard HubConsole.Json HubConsole.Session

/-- Changes to the log query that the options ask for. -/
def LogsOptions.change (o : LogsOptions) : FilterChange where
  nodes := if o.nodes.isEmpty then none else some o.nodes
  levels := if o.levels.isEmpty then none else some o.levels
  targets := if o.targets.isEmpty then none else some o.targets
  search := o.search
  fromTime := o.fromTime
  toTime := o.toTime
  useFrom := o.fromTime.map fun _ => true
  useTo := o.toTime.map fun _ => true
  perPage := o.limit
  direction := if o.ascending then some .oldestFirst else none

namespace Commands

/-- Fetches the network, unless it is being fetched. -/
def refreshNetwork (b : Board) (next : Board → Dialogue) : Dialogue :=
  let begun := b.store.network.beginFetch
  if begun.2 then
    let b := b.updateNetwork fun _ => begun.1
    .call Hub.network fun
      | .ok (.value n) => next (b.setNetwork n)
      | .ok (.suppressed _) => next (b.updateNetwork (·.fetchFailed))
      | .error e => .fail (.call "failed to fetch the network" e)
  else next b

def refreshTargets (b : Board) (next : Board → Dialogue) : Dialogue :=
  let begun := b.store.logs.beginTargets
  if begun.2 then
    let b := b.updateLogs fun _ => begun.1
    .call Hub.logTargets fun
      | .ok (.value ts) => next (b.updateLogs (·.setTargets ts.targets))
      | .ok (.suppressed _) => next (b.updateLogs (·.targetsFailed))
      | .error e => .fail (.call "failed to fetch log targets" e)
  else next b

def network (s : Settings) (b : Board) (key : Node.SortKey) (descending : Bool)
    (next : Board → Dialogue) : Dialogue :=
  refreshNetwork b fun b =>
    .state fun state =>
      .print (View.header s.title state)
        (.print (View.networkOrLoading b.store.network.network key descending) (next b))

/-- Keeps what is known of a node, and shows it. -/
def showDetail (s : Settings) (b : Board) (node : String) (d : Node.Detail)
    (next : Board → Dialogue) : Dialogue :=
  let b := b.setDetail d
  match b.store.details.get? node with
  | some d => .print (View.detail d (s.logFileLink node)) (next b)
  | none => next b

def nodeInfo (s : Settings) (b : Board) (node : String) (next : Board → Dialogue) : Dialogue :=
  .call (Hub.nodeInfo node) fun
    | .ok (.value d) => showDetail s b node d next
    | .ok (.suppressed _) => next b
    | .error e => .fail (.call s!"failed to fetch info for {node}" e)

/-- A start that the hub turns down for a reason of its own has told the user so. -/
def nodeStart (s : Settings) (b : Board) (node : String) (option : Node.StartOption) : Dialogue :=
  let m := Hub.nodeStart node option
  .ask m.name m.params fun reply =>
    let settled := settleStart node option reply
    .raiseAll settled.2 (match settled.1 with
      | .ok (.value d) => showDetail s b node d fun _ => .stop
      | .error (.session e) => .fail (.call s!"failed to start {node}" e)
      | _ => .stop)

def nodeStop (s : Settings) (b : Board) (node : String) : Dialogue :=
  .call (Hub.nodeStop node) fun
    | .ok (.value d) => showDetail s b node d fun _ => .stop
    | .ok (.suppressed _) => .stop
    | .error e => .fail (.call s!"failed to stop {node}" e)

/-- The upgrade that the options ask for; a commit comes first. -/
def upgrade? (commit binaryUrl checksum : Option String) : Option Node.Upgrade :=
  match commit, binaryUrl, checksum with
  | some commit, _, _ => some (.git commit)
  | none, some url, some checksum => some (.binary url checksum)
  | _, _, _ => none

def nodeUpdate (node : String) (commit binaryUrl checksum : Option String) : Dialogue :=
  match upgrade? commit binaryUrl checksum with
  | none => .fail .noUpgrade
  | some upgrade =>
    .call (Hub.nodeUpdate node upgrade) fun
      | .ok (.value _) => .print s!"Update requested for {node}." .stop
      | .ok (.suppressed _) => .stop
      | .error e => .fail (.call s!"failed to update {node}" e)

/-- Fetches the page the query stands for. -/
def fetchPage (b : Board) (next : Board → Dialogue) : Dialogue :=
  let token := b.store.logs.lastToken
  .call (Hub.logPage b.store.logs.request) fun
    | .ok (.value page) => next (b.updateLogs fun q => (q.respond token page.records).1)
    | .ok (.suppressed _) => next (b.updateLogs (·.fetchFailed token))
    | .error e => .fail (.call "failed to fetch logs" e)

/-- Fetches up to so many pages more. -/
def fetchMore (b : Board) (next : Board → Dialogue) : Nat → Dialogue
  | 0 => next b
  | left + 1 =>
    if b.store.logs.noMoreData then next b
    else fetchPage (b.updateLogs (·.loadMore)) fun b => fetchMore b next left

/-- Shows the records of the first pages. -/
def showPages (b : Board) (pages : Nat) : Dialogue :=
  fetchPage (b.updateLogs (·.beginFetch false)) fun b =>
    fetchMore b (fun b =>
      if b.store.logs.isLoaded then .print (View.logLines b.store.logs.records) .stop
      else .stop) (pages - 1)

def logs (b : Board) (o : LogsOptions) : Dialogue :=
  let chooseNodes (next : Board → Dialogue) : Dialogue :=
    if o.nodes.isEmpty then refreshNetwork b next else next b
  let chooseTargets (b : Board) (next : Board → Dialogue) : Dialogue :=
    if o.targets.isEmpty then refreshTargets b next else next b
  chooseNodes fun b => chooseTargets b fun b =>
    let b := b.updateLogs (·.changeFilters o.change)
    if o.follow then .follow b else showPages b o.pages

def targets (b : Board) : Dialogue :=
  refreshTargets b fun b =>
    match b.store.logs.targets with
    | some ts => .print (View.targets ts) .stop
    | none => .stop

/-- The window of the graph with the changes that the options ask for. -/
def chooseWindow (g : GraphWindow) (o : GraphOptions) : GraphWindow :=
  let g := if o.fromTime.isSome || o.toTime.isSome then
      g.setBounds (o.fromTime.getD g.query.fromTime) (o.toTime.getD g.query.toTime)
    else g
  match o.period with
  | some p => g.setPeriod p
  | none => g

def showTraffic (b : Board) (m : Method (Graph.Rows Graph.NodeRow)) : Dialogue :=
  .call m fun
    | .ok (.value rows) =>
      let b := b.updateGraph (·.setRows rows.rows)
      .print (View.nodeSeries b.store.graph.series) .stop
    | .ok (.suppressed _) => .stop
    | .error e => .fail (.call "failed to fetch network graph" e)

def graph (b : Board) (kind : GraphKind) (o : GraphOptions) : Dialogue :=
  let b := b.updateGraph (chooseWindow · o)
  let query := b.store.graph.query
  match kind with
  | .all => showTraffic b (Hub.trafficOfAll query)
  | .average => showTraffic b (Hub.averageTrafficOfAll query)
  | .node node =>
    .call (Hub.trafficOfNode node query) fun
      | .ok (.value rows) => .print (View.extensionSeries node rows.rows) .stop
      | .ok (.suppressed _) => .stop
      | .error e => .fail (.call s!"failed to fetch graph for {node}" e)

/-- An error of the hub as a document. -/
def errorDocument (e : Rpc.ErrorObject) : Value :=
  .object [("code", .ofInt e.code), ("data", e.data.getD .null), ("message", .string e.message)]

/-- A call as it is given. What the hub answers is printed, be it an error. -/
def rpc (method : String) (params : Option String) : Dialogue :=
  let params? : Except Failure Value :=
    match params with
    | none => .ok (.array [])
    | some text =>
      match Reader.free.ofText text with
      | .ok v => .ok v
      | .error _ => .error (.badParams text)
  match params? with
  | .error e => .fail e
  | .ok params =>
    .call (Hub.raw method params) fun
      | .ok (.value v) => .print v.indentedText .stop
      | .ok (.suppressed _) => .stop
      | .error (.rpc e) => .print (errorDocument e).indentedText .stop
      | .error e => .fail (.call s!"{method} failed" e)

/-- Shows some nodes one after another. -/
def showNodes (s : Settings) (b : Board) (next : Board → Dialogue) : List String → Dialogue
  | [] => next b
  | node :: nodes => nodeInfo s b node fun b => showNodes s b next nodes

def watch (s : Settings) (b : Board) (nodes : List String) (key : Node.SortKey)
    (descending : Bool) : Dialogue :=
  .listen (network s b key descending fun b =>
    showNodes s b (fun b => .flush (.loop (.watch b key descending))) nodes)

end Commands

/-- What a command does, from an empty board on. -/
def Command.dialogue (s : Settings) (now : Time.Instant) : Command → Dialogue
  | .network key descending => Commands.network s (.start now) key descending fun _ => .stop
  | .nodeInfo node => Commands.nodeInfo s (.start now) node fun _ => .stop
  | .nodeStart node option => Commands.nodeStart s (.start now) node option
  | .nodeStop node => Commands.nodeStop s (.start now) node
  | .nodeUpdate node commit url checksum => Commands.nodeUpdate node commit url checksum
  | .logs options => Commands.logs (.start now) options
  | .targets => Commands.targets (.start now)
  | .graph kind options => Commands.graph (.start now) kind options
  | .rpc method params => Commands.rpc method params
  | .watch nodes key descending => Commands.watch s (.start now) nodes key descending

end HubConsole.Console
