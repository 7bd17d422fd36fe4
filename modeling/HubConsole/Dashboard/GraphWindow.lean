import HubConsole.Graph.Series

namespace HubConsole.Dashboard

open HubConsole.Graph HubConsole.Time

structure GraphWindow where
  query : Query
  rows : List NodeRow

namespace GraphWindow

def defaultDays : Nat := 7

def start (now : Instant) : GraphWindow := ⟨⟨now.minusDays defaultDays, now, .minutes5⟩, []⟩

/-- The bounds may come in either order. -/
def setBounds (g : GraphWindow) (a b : Instant) : GraphWindow :=
  if a.atMost b then { g with query := { g.query with fromTime := a, toTime := b } }
  else { g with query := { g.query with fromTime := b, toTime := a } }

def setPeriod (g : GraphWindow) (p : Period) : GraphWindow :=
  { g with query := { g.query with period := p } }

def setRows (g : GraphWindow) (rows : List NodeRow) : GraphWindow := { g with rows }

def series (g : GraphWindow) : List (String × List Point) := nodeSeries g.rows

end GraphWindow
end HubConsole.Dashboard
