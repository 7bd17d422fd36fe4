import HubConsole.Node.Summary
import HubConsole.Power
import HubConsole.Text.Digits
import HubConsole.Text.Split

namespace HubConsole.Node

open HubConsole.Text

inductive SortKey where
  | name
  | address
  | block
  | version
  | status
  deriving DecidableEq

namespace SortKey

def label : SortKey → String
  | .name => "name"
  | .address => "address"
  | .block => "block"
  | .version => "version"
  | .status => "status"

/-- Reads a key as people type it, in any case. -/
def parse (s : String) : Except String SortKey :=
  let word := lowercase (trim s)
  if word = "name" then .ok .name
  else if word = "address" ∨ word = "socketaddress" ∨ word = "socket_address" then .ok .address
  else if word = "block" ∨ word = "blocknumber" ∨ word = "block_number" then .ok .block
  else if word = "version" then .ok .version
  else if word = "status" then .ok .status
  else .error s!"Unknown sort key: {word}"

end SortKey

/-- The number that a segment starts with, after blanks; zero if there is none or it has more than
63 bits. -/
def leadingNumber (segment : List Char) : Nat :=
  let ds := (segment.dropWhile isBlank).takeWhile Char.isDigit
  if valueOf ds < twoTo 63 then valueOf ds else 0

/-- The numbers of an address, without its empty segments. -/
def addressNumbers (address : String) : List Nat :=
  ((splitAt (fun c => c = '.' || c = ':') address.toList).filter fun s => !s.isEmpty).map
    leadingNumber

def versionNumbers (version : String) : List Nat :=
  (splitAt (· = '.') version.toList).map leadingNumber

/-- Compares number by number; where one list has ended its numbers are zero. -/
def compareNumbers : List Nat → List Nat → Ordering
  | [], [] => .eq
  | x :: xs, [] => (compare x 0).then (compareNumbers xs [])
  | [], y :: ys => (compare 0 y).then (compareNumbers [] ys)
  | x :: xs, y :: ys => (compare x y).then (compareNumbers xs ys)

def byName (a b : Summary) : Ordering := compare a.name b.name

def byAddress (a b : Summary) : Ordering :=
  compareNumbers ((a.address.map addressNumbers).getD []) ((b.address.map addressNumbers).getD [])

def byBlock (a b : Summary) : Ordering :=
  compare ((a.bestBlock.map (·.number)).getD 0) ((b.bestBlock.map (·.number)).getD 0)

def byVersion (a b : Summary) : Ordering :=
  compareNumbers ((a.version.map (versionNumbers ·.version)).getD [])
    ((b.version.map (versionNumbers ·.version)).getD [])

def byStatus (a b : Summary) : Ordering := compare a.status.rank b.status.rank

def SortKey.comparison : SortKey → Summary → Summary → Ordering
  | .name => byName
  | .address => byAddress
  | .block => byBlock
  | .version => byVersion
  | .status => byStatus

/-- Sorts nodes; equal ones keep their order in both directions. -/
def sortNodes (key : SortKey) (descending : Bool) (nodes : List Summary) : List Summary :=
  if descending then nodes.mergeSort fun a b => key.comparison b a != .gt
  else nodes.mergeSort fun a b => key.comparison a b != .gt

end HubConsole.Node
