import HubConsole.Dashboard.NetworkStore
import HubConsole.Graph.Series
import HubConsole.Log.Basic
import HubConsole.Node.Order
import HubConsole.Session.State

namespace HubConsole.Console.View

open HubConsole.Node HubConsole.Text

/-- Lines as one text. -/
def unlines (lines : List String) : String := trimEnd (String.intercalate "\n" lines)

def placeholder : String := "-"

def header (title : String) (state : Session.State) : String := s!"{title} [{state.name}]"

/-- Blanks up to a number of characters. -/
def pad (width : Nat) (s : String) : List Char :=
  s.toList ++ List.replicate (width - s.length) ' '

/-- Cells side by side, without blanks at the end. -/
def tableRow (widths : List Nat) (cells : List String) : String :=
  String.ofList (dropEnd isBlank
    (List.intercalate [' ', ' '] ((widths.zip cells).map fun wc => pad wc.1 wc.2)))

def headings : List String := ["NAME", "ADDRESS", "STATUS", "VERSION", "BLOCK"]

def cells (n : Summary) : List String :=
  [n.name, n.address.getD placeholder, n.status.name,
    (n.version.map (·.version)).getD placeholder,
    (n.bestBlock.map fun b => intText b.number).getD placeholder]

/-- The width of a column is the greatest size in bytes among its cells, so that none is wider. -/
def columnWidths (rows : List (List String)) : List Nat :=
  rows.foldl (fun ws row => (ws.zip row).map fun wc => max wc.1 wc.2.utf8ByteSize)
    (headings.map (·.utf8ByteSize))

def linkLine (l : Link) : String := s!"{l.nodeA} <-> {l.nodeB}"

def networkLines (n : Network) (key : SortKey) (descending : Bool) : List String :=
  let rows := (sortNodes key descending n.nodes).map cells
  let widths := columnWidths rows
  (headings :: rows).map (tableRow widths) ++
    (if n.links.isEmpty then [] else "" :: n.links.map linkLine)

def network (n : Network) (key : SortKey) (descending : Bool) : String :=
  if n.nodes.isEmpty then "No nodes." else unlines (networkLines n key descending)

/-- The network, if it was ever fetched. -/
def networkOrLoading (n : Option Network) (key : SortKey) (descending : Bool) : String :=
  match n with
  | none => "Loading..."
  | some n => network n key descending

/-- A line for a value that may be absent. -/
def labelled (label : String) : Option String → List String
  | some value => [s!"  {label}: {value}"]
  | none => []

def accessLines (label : String) : Option AccessList → List String
  | none => []
  | some l =>
    ("  " ++ label ++ (if l.enabled then " (enabled):" else " (disabled):")) ::
      l.list.map fun e =>
        match e.tag with
        | some tag => s!"    {e.address} {tag}"
        | none => s!"    {e.address}"

def usageLine (label : String) (u : Usage) : String :=
  s!"  {label}: {intText u.used} / {intText u.total} ({String.ofList (u.percentageUsed.percent 1)}%)"

def hardwareLines : Option Hardware → List String
  | none => []
  | some h =>
    let cpu := h.cpu.map fun x => String.ofList (x.percent 0) ++ "%"
    ["  cpu: " ++ String.intercalate " " cpu, usageLine "disk" h.disk, usageLine "memory" h.memory]

def detailLines (d : Detail) (link : Option String) : List String :=
  [s!"{d.name} ({d.status.name})"] ++ labelled "address" d.address ++
    labelled "agent" d.agentVersion ++
    labelled "version" (d.version.map fun v => s!"{v.version} ({v.hash})") ++
    labelled "best block" (d.bestBlock.map fun b => s!"#{intText b.number} {b.hash}") ++
    labelled "start env" (d.startOption.map (·.env)) ++
    labelled "start args" (d.startOption.map (·.args)) ++
    labelled "pending parcels" (d.pendingParcels.map fun ps => natText ps.length) ++
    (match d.peers with
      | some ps => [s!"  peers ({natText ps.length}): " ++ String.intercalate ", " ps]
      | none => []) ++
    accessLines "whitelist" d.whitelist ++ accessLines "blacklist" d.blacklist ++
    hardwareLines d.hardware ++
    (match d.events with
      | some es => "  events:" :: es.map fun e => s!"    {e}"
      | none => []) ++
    labelled "log file" link

/-- A node in full; `link` is where its log file is found. -/
def detail (d : Detail) (link : Option String) : String := unlines (detailLines d link)

def logLine (r : Log.Record) : String :=
  s!"{r.timestamp} {String.ofList (pad 5 r.level)} {r.node} {r.target} {r.message}"

def logLines (records : List Log.Record) : String :=
  if records.isEmpty then "No logs." else String.intercalate "\n" (records.map logLine)

def targets (ts : List String) : String :=
  if ts.isEmpty then "No targets." else String.intercalate "\n" ts

def valueText (x : Double) : String := String.ofList (x.text Double.viewLayout)

/-- A group of points under its name, everything moved in by `indent`. -/
def groupLines (indent : String) (g : String × List Graph.Point) : List String :=
  (indent ++ g.1) :: g.2.map fun p => s!"{indent}  {p.1.offsetText} {valueText p.2}"

def nodeSeries (series : List (String × List Graph.Point)) : String :=
  if series.isEmpty then "No data." else unlines (series.flatMap (groupLines ""))

def extensionSeries (node : String) (rows : List Graph.ExtensionRow) : String :=
  if rows.isEmpty then "No data."
  else unlines (node :: (Graph.extensionSeries rows).flatMap (groupLines "  "))

end HubConsole.Console.View
