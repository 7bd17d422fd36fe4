import HubConsole.Node.Detail

namespace HubConsole.Node

inductive FieldPolicy where
  | identity
  | overwrite
  deriving DecidableEq

inductive Field where
  | name
  | startOption
  | address
  | agentVersion
  | status
  | version
  | bestBlock
  | pendingParcels
  | peers
  | whitelist
  | blacklist
  | hardware
  | events
  deriving DecidableEq

namespace Field

def label : Field → String
  | .name => "name"
  | .startOption => "startOption"
  | .address => "address"
  | .agentVersion => "agentVersion"
  | .status => "status"
  | .version => "version"
  | .bestBlock => "bestBlockId"
  | .pendingParcels => "pendingParcels"
  | .peers => "peers"
  | .whitelist => "whitelist"
  | .blacklist => "blacklist"
  | .hardware => "hardware"
  | .events => "events"

def policy : Field → FieldPolicy
  | .name => .identity
  | _ => .overwrite

/-- The fields of a short record, in order. -/
def ofSummary : List Field := [.name, .address, .status, .version, .bestBlock]

/-- The fields of a full record, in order. -/
def ofDetail : List Field :=
  [.name, .startOption, .address, .agentVersion, .status, .version, .bestBlock, .pendingParcels,
    .peers, .whitelist, .blacklist, .hardware, .events]

end Field

/-- What becomes of a field with this name in records with these fields. -/
def policyOf (fields : List Field) (label : String) : Option FieldPolicy :=
  (fields.find? (·.label == label)).map Field.policy

/-- The value of a field after a merge, and whether it changed. One that is equal already is left alone. -/
def revise {α : Type} [BEq α] (old : α) : Option α → α × Bool
  | none => (old, false)
  | some new => if old == new then (old, false) else (new, true)

/-- The same for a field that may be absent: absence in the partial record changes nothing. -/
def reviseOptional {α : Type} [BEq α] (old new : Option α) : Option α × Bool :=
  revise old (new.map some)

/-- The fields that changed. -/
def changedOf (changes : List (Field × Bool)) : List Field :=
  (changes.filter (·.2)).map (·.1)

/-- The record with what the patch carries, and the fields that changed. -/
def Summary.merge (n : Summary) (p : Patch) : Summary × List Field :=
  let address := reviseOptional n.address p.address
  let status := revise n.status p.status
  let version := reviseOptional n.version p.version
  let bestBlock := reviseOptional n.bestBlock p.bestBlock
  ({ n with
      address := address.1
      status := status.1
      version := version.1
      bestBlock := bestBlock.1 },
    changedOf [(.address, address.2), (.status, status.2), (.version, version.2),
      (.bestBlock, bestBlock.2)])

/-- The record with what the update carries, and the fields that changed. -/
def Detail.merge (d : Detail) (u : Update) : Detail × List Field :=
  let startOption := reviseOptional d.startOption u.startOption
  let address := reviseOptional d.address u.address
  let agentVersion := reviseOptional d.agentVersion u.agentVersion
  let status := revise d.status u.status
  let version := reviseOptional d.version u.version
  let bestBlock := reviseOptional d.bestBlock u.bestBlock
  let pendingParcels := reviseOptional d.pendingParcels u.pendingParcels
  let peers := reviseOptional d.peers u.peers
  let whitelist := reviseOptional d.whitelist u.whitelist
  let blacklist := reviseOptional d.blacklist u.blacklist
  let hardware := reviseOptional d.hardware u.hardware
  let events := reviseOptional d.events u.events
  ({ d with
      startOption := startOption.1
      address := address.1
      agentVersion := agentVersion.1
      status := status.1
      version := version.1
      bestBlock := bestBlock.1
      pendingParcels := pendingParcels.1
      peers := peers.1
      whitelist := whitelist.1
      blacklist := blacklist.1
      hardware := hardware.1
      events := events.1 },
    changedOf [(.startOption, startOption.2), (.address, address.2),
      (.agentVersion, agentVersion.2), (.status, status.2), (.version, version.2),
      (.bestBlock, bestBlock.2), (.pendingParcels, pendingParcels.2), (.peers, peers.2),
      (.whitelist, whitelist.2), (.blacklist, blacklist.2), (.hardware, hardware.2),
      (.events, events.2)])

/-- What an update says about the short record. -/
def Update.patch (u : Update) : Patch := ⟨u.name, u.address, u.status, u.version, u.bestBlock⟩

end HubConsole.Node
