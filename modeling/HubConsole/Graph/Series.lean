import HubConsole.Graph.Basic

namespace HubConsole.Graph

open HubConsole.Time

/-- A point of a graph. -/
abbrev Point := Instant × Double

/-- Puts a text into its place among distinct texts in order. -/
def insertName (name : String) : List String → List String
  | [] => [name]
  | n :: ns => if name < n then name :: n :: ns else if name = n then n :: ns else n :: insertName name ns

/-- The distinct names, in order. -/
def distinctNames (names : List String) : List String := names.foldl (fun ns n => insertName n ns) []

/-- Points in order of time; those of one time stay as they were. -/
def inTimeOrder (points : List Point) : List Point := points.mergeSort fun a b => a.1.atMost b.1

/-- Named points, one group a name. -/
def group (named : List (String × Point)) : List (String × List Point) :=
  (distinctNames (named.map (·.1))).map fun name =>
    (name, inTimeOrder ((named.filter (·.1 == name)).map (·.2)))

/-- The series of every node. -/
def nodeSeries (rows : List NodeRow) : List (String × List Point) :=
  group (rows.map fun r => (r.node, r.time, r.value))

/-- The series of every extension. -/
def extensionSeries (rows : List ExtensionRow) : List (String × List Point) :=
  group (rows.map fun r => (r.extension, r.time, r.value))

end HubConsole.Graph
