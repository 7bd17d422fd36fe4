import HubConsole.Network.Basic
import HubConsole.Node.Merge

namespace HubConsole.Dashboard

open HubConsole.Node

/-- How many nodes a delta added and how many known ones it changed. -/
structure Tally where
  added : Nat
  updated : Nat
  deriving DecidableEq

def Tally.zero : Tally := ⟨0, 0⟩

/-- Merges a patch into the first node of its name; also whether that changed the node. -/
def mergeFirst? (p : Patch) : List Summary → Option (List Summary × Bool)
  | [] => none
  | n :: ns =>
    if n.name = p.name then some ((n.merge p).1 :: ns, !(n.merge p).2.isEmpty)
    else (mergeFirst? p ns).map fun r => (n :: r.1, r.2)

/-- One patch: a node of its name is changed, or a new one is put at the end. -/
def applyPatch (state : List Summary × Tally) (p : Patch) : List Summary × Tally :=
  match mergeFirst? p state.1 with
  | some (nodes, changed) =>
    (nodes, if changed then { state.2 with updated := state.2.updated + 1 } else state.2)
  | none => (state.1 ++ [Summary.ofPatch p], { state.2 with added := state.2.added + 1 })

/-- A link that is not there yet is put at the end. -/
def addLink (links : List Link) (l : Link) : List Link :=
  if l ∈ links then links else links ++ [l]

/-- The network after a delta. Links are added before others are removed, so a link in both lists is
gone. -/
def applyDelta (n : Network) (d : Network.Delta) : Network × Tally :=
  let nodes := (d.nodes.getD []).foldl applyPatch (n.nodes, .zero)
  let added := (d.linksAdded.getD []).foldl addLink n.links
  (⟨nodes.1, added.filter fun l => l ∉ d.linksRemoved.getD []⟩, nodes.2)

/-- The network as last fetched, kept up to date by deltas. One that was never fetched is not an empty one. -/
structure NetworkStore where
  network : Option Network
  fetching : Bool
  deriving DecidableEq

namespace NetworkStore

def empty : NetworkStore := ⟨none, false⟩

def shouldFetch (s : NetworkStore) : Bool := !s.fetching

/-- Marks a fetch as under way, unless one is; also whether it did. -/
def beginFetch (s : NetworkStore) : NetworkStore × Bool :=
  ({ s with fetching := true }, s.shouldFetch)

def fetchFailed (s : NetworkStore) : NetworkStore := { s with fetching := false }

def setSnapshot (_ : NetworkStore) (n : Network) : NetworkStore := ⟨some n, false⟩

/-- Applies a delta; no tally when there is no network to change. -/
def apply (s : NetworkStore) (d : Network.Delta) : NetworkStore × Option Tally :=
  match s.network with
  | none => (s, none)
  | some n => ({ s with network := some (applyDelta n d).1 }, some (applyDelta n d).2)

def names (s : NetworkStore) : List String := (s.network.map Network.names).getD []

def node? (s : NetworkStore) (name : String) : Option Summary :=
  s.network.bind fun n => n.nodes.find? (·.name == name)

end NetworkStore
end HubConsole.Dashboard
