import HubConsole.Dashboard.DetailStore
import HubConsole.Dashboard.GraphWindow
import HubConsole.Dashboard.LogQuery
import HubConsole.Dashboard.NetworkStore
import HubConsole.Rpc.Topic

namespace HubConsole.Dashboard

open HubConsole.Rpc

structure Store where
  network : NetworkStore
  details : DetailStore
  logs : LogQuery
  graph : GraphWindow

/-- What became of a push; nothing inside when there was nothing that it could change. -/
inductive PushOutcome where
  | network (tally : Option Tally)
  | node (changed : Option (List Node.Field))
  deriving DecidableEq

namespace Store

def start (now : Time.Instant) : Store := ⟨.empty, .empty, .start now, .start now⟩

def applyPush (s : Store) : Push → Store × PushOutcome
  | .network delta => ({ s with network := (s.network.apply delta).1 },
      .network (s.network.apply delta).2)
  | .node update => ({ s with details := (s.details.apply update).1 },
      .node (s.details.apply update).2)

/-- Takes a network just fetched, and asks for the logs of all its nodes. -/
def setNetwork (s : Store) (n : Network) : Store :=
  { s with
    network := s.network.setSnapshot n
    logs := s.logs.changeFilters { nodes := some n.names } }

def setDetail (s : Store) (d : Node.Detail) : Store := { s with details := s.details.set d }

end Store
end HubConsole.Dashboard
