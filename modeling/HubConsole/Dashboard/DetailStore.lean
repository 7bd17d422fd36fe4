import HubConsole.Node.Merge

namespace HubConsole.Dashboard

open HubConsole.Node

/-- The full records of the nodes that were asked for, at most one a name, in the order of the names. -/
structure DetailStore where
  records : List Detail

namespace DetailStore

def empty : DetailStore := ⟨[]⟩

/-- Puts a record into its place; it takes the place of one with the same name. -/
def insert (d : Detail) : List Detail → List Detail
  | [] => [d]
  | e :: es =>
    if d.name < e.name then d :: e :: es
    else if d.name = e.name then d :: es
    else e :: insert d es

def set (s : DetailStore) (d : Detail) : DetailStore := ⟨insert d s.records⟩

def get? (s : DetailStore) (name : String) : Option Detail := s.records.find? (·.name == name)

def mergeFirst? (u : Update) : List Detail → Option (List Detail × List Field)
  | [] => none
  | d :: ds =>
    if d.name = u.name then some ((d.merge u).1 :: ds, (d.merge u).2)
    else (mergeFirst? u ds).map fun r => (d :: r.1, r.2)

/-- Applies an update; no fields when there is no record of that name. -/
def apply (s : DetailStore) (u : Update) : DetailStore × Option (List Field) :=
  match mergeFirst? u s.records with
  | some (records, changed) => (⟨records⟩, some changed)
  | none => (s, none)

end DetailStore
end HubConsole.Dashboard
