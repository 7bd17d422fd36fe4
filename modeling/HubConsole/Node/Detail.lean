import HubConsole.Node.Summary

namespace HubConsole.Node

open HubConsole.Json

structure StartOption where
  env : String
  args : String
  deriving DecidableEq

/-- One line of a list of addresses, with an optional remark. -/
structure AccessEntry where
  address : String
  tag : Option String
  deriving DecidableEq

structure AccessList where
  list : List AccessEntry
  enabled : Bool
  deriving DecidableEq

structure Usage where
  total : Int
  available : Int
  percentageUsed : Double
  deriving BEq

structure Hardware where
  cpu : List Double
  disk : Usage
  memory : Usage
  deriving BEq

structure Detail where
  name : String
  startOption : Option StartOption
  address : Option String
  agentVersion : Option String
  status : Status
  version : Option Version
  bestBlock : Option Block
  pendingParcels : Option (List Value)
  peers : Option (List String)
  whitelist : Option AccessList
  blacklist : Option AccessList
  hardware : Option Hardware
  events : Option (List String)
  deriving BEq

/-- What is known to have changed about one node, in full. -/
structure Update where
  name : String
  startOption : Option StartOption
  address : Option String
  agentVersion : Option String
  status : Option Status
  version : Option Version
  bestBlock : Option Block
  pendingParcels : Option (List Value)
  peers : Option (List String)
  whitelist : Option AccessList
  blacklist : Option AccessList
  hardware : Option Hardware
  events : Option (List String)
  deriving BEq

theorem Usage.same_self (u : Usage) : (u == u) = true := by
  change instBEqUsage.beq u u = true
  cases u
  simp only [instBEqUsage.beq, beq_self_eq_true, Bool.and_self]

instance : ReflBEq Usage := ⟨Usage.same_self _⟩

theorem Hardware.same_self (h : Hardware) : (h == h) = true := by
  change instBEqHardware.beq h h = true
  cases h
  simp only [instBEqHardware.beq, beq_self_eq_true, Bool.and_self]

instance : ReflBEq Hardware := ⟨Hardware.same_self _⟩

theorem Detail.same_self (d : Detail) : (d == d) = true := by
  change instBEqDetail.beq d d = true
  cases d
  simp only [instBEqDetail.beq, beq_self_eq_true, Bool.and_self]

instance : ReflBEq Detail := ⟨Detail.same_self _⟩

def Usage.used (u : Usage) : Int := u.total - u.available

def Usage.zero : Usage := ⟨0, 0, .zero⟩

/-- The short record that the full one contains. -/
def Detail.summary (d : Detail) : Summary := ⟨d.name, d.address, d.status, d.version, d.bestBlock⟩

namespace StartOption

def form : Form StartOption :=
  StartOption.mk <$> Form.withDefault "env" Reader.text "" <*> Form.withDefault "args" Reader.text ""

def write (o : StartOption) : Value := .object [("env", .string o.env), ("args", .string o.args)]

instance : Wire StartOption := ⟨form.read, write⟩

end StartOption

namespace AccessEntry

/-- An address alone, or in an array with or without its tag. -/
def read : Reader AccessEntry
  | _, .string (some s) => .ok ⟨s, none⟩
  | room, .array [.string (some s)] true => if room = 0 then .error .malformed else .ok ⟨s, none⟩
  | room, .array [.string (some s), .string (some t)] true =>
    if room = 0 then .error .malformed else .ok ⟨s, some t⟩
  | _, _ => .error .malformed

def write (e : AccessEntry) : Value :=
  match e.tag with
  | some t => .array [.string e.address, .string t]
  | none => .string e.address

instance : Wire AccessEntry := ⟨read, write⟩

end AccessEntry

namespace AccessList

def form : Form AccessList :=
  AccessList.mk <$> Form.withDefault "list" (Reader.list Wire.read) []
    <*> Form.withDefault "enabled" Reader.bool false

def write (l : AccessList) : Value :=
  .object [("list", writeList Wire.write l.list), ("enabled", .bool l.enabled)]

instance : Wire AccessList := ⟨form.read, write⟩

end AccessList

namespace Usage

def form : Form Usage :=
  Usage.mk <$> Form.required "total" Reader.int64 <*> Form.required "available" Reader.int64
    <*> Form.required "percentageUsed" Reader.double

def write (u : Usage) : Value :=
  .object [("total", .ofInt u.total), ("available", .ofInt u.available),
    ("percentageUsed", writeDouble u.percentageUsed)]

instance : Wire Usage := ⟨form.read, write⟩

end Usage

namespace Hardware

def form : Form Hardware :=
  Hardware.mk <$> Form.withDefault "cpuUsage" (Reader.list Reader.double) []
    <*> Form.withDefault "diskUsage" Wire.read .zero
    <*> Form.withDefault "memoryUsage" Wire.read .zero

def write (h : Hardware) : Value :=
  .object [("cpuUsage", writeList writeDouble h.cpu), ("diskUsage", Wire.write h.disk),
    ("memoryUsage", Wire.write h.memory)]

instance : Wire Hardware := ⟨form.read, write⟩

end Hardware

namespace Detail

def form : Form Detail :=
  Detail.mk <$> Form.required "name" Reader.text <*> Form.optional "startOption" Wire.read
    <*> Form.optional "address" Reader.text <*> Form.optional "agentVersion" Reader.text
    <*> Form.withDefault "status" Wire.read .stop <*> Form.optional "version" Wire.read
    <*> Form.optional "bestBlockId" Wire.read
    <*> Form.optional "pendingParcels" (Reader.list Reader.free)
    <*> Form.optional "peers" Reader.texts <*> Form.optional "whitelist" Wire.read
    <*> Form.optional "blacklist" Wire.read <*> Form.optional "hardware" Wire.read
    <*> Form.optional "events" Reader.texts

def write (d : Detail) : Value :=
  .object ([("name", .string d.name)] ++ writeOptional "startOption" Wire.write d.startOption ++
    writeOptional "address" .string d.address ++
    writeOptional "agentVersion" .string d.agentVersion ++ [("status", Wire.write d.status)] ++
    writeOptional "version" Wire.write d.version ++
    writeOptional "bestBlockId" Wire.write d.bestBlock ++
    writeOptional "pendingParcels" .array d.pendingParcels ++
    writeOptional "peers" writeTexts d.peers ++ writeOptional "whitelist" Wire.write d.whitelist ++
    writeOptional "blacklist" Wire.write d.blacklist ++
    writeOptional "hardware" Wire.write d.hardware ++ writeOptional "events" writeTexts d.events)

instance : Wire Detail := ⟨form.read, write⟩

end Detail

namespace Update

def form : Form Update :=
  Update.mk <$> Form.required "name" Reader.text <*> Form.optional "startOption" Wire.read
    <*> Form.optional "address" Reader.text <*> Form.optional "agentVersion" Reader.text
    <*> Form.optional "status" Wire.read <*> Form.optional "version" Wire.read
    <*> Form.optional "bestBlockId" Wire.read
    <*> Form.optional "pendingParcels" (Reader.list Reader.free)
    <*> Form.optional "peers" Reader.texts <*> Form.optional "whitelist" Wire.read
    <*> Form.optional "blacklist" Wire.read <*> Form.optional "hardware" Wire.read
    <*> Form.optional "events" Reader.texts

def write (u : Update) : Value :=
  .object ([("name", .string u.name)] ++ writeOptional "startOption" Wire.write u.startOption ++
    writeOptional "address" .string u.address ++
    writeOptional "agentVersion" .string u.agentVersion ++
    writeOptional "status" Wire.write u.status ++ writeOptional "version" Wire.write u.version ++
    writeOptional "bestBlockId" Wire.write u.bestBlock ++
    writeOptional "pendingParcels" .array u.pendingParcels ++
    writeOptional "peers" writeTexts u.peers ++ writeOptional "whitelist" Wire.write u.whitelist ++
    writeOptional "blacklist" Wire.write u.blacklist ++
    writeOptional "hardware" Wire.write u.hardware ++ writeOptional "events" writeTexts u.events)

instance : Wire Update := ⟨form.read, write⟩

end Update

/-- What a node's program is to be replaced by. -/
inductive Upgrade where
  | git (commitHash : String)
  | binary (url checksum : String)
  deriving DecidableEq

namespace Upgrade

def gitForm : Form Upgrade := Upgrade.git <$> Form.required "commitHash" Reader.text

def binaryForm : Form Upgrade :=
  Upgrade.binary <$> Form.required "binaryURL" Reader.text
    <*> Form.required "binaryChecksum" Reader.text

/-- The members that go with a type. -/
def formOf? (type : String) : Option (Form Upgrade) :=
  if type = "git" then some gitForm else if type = "binary" then some binaryForm else none

/-- All members have to be free values, as the type may come last. -/
def read : Reader Upgrade
  | room, .object ms true =>
    let rest := ms.filter (·.1 ≠ some "type")
    if room = 0 ∨ rest.length + 1 ≠ ms.length ∨
        (Source.object rest true).free? room = none then .error .malformed
    else
      match ms.find? (·.1 = some "type") with
      | some (_, .string (some type)) =>
        match formOf? type with
        | some form => form.read depthLimit (.object rest true)
        | none => .error .malformed
      | _ => .error .malformed
  | room, .array (.string (some type) :: rest) true =>
    if room = 0 ∨ (Source.array rest true).free? room = none then .error .malformed
    else
      match formOf? type with
      | some form => form.read depthLimit (.array rest true)
      | none => .error .malformed
  | _, _ => .error .malformed

def write : Upgrade → Value
  | .git hash => .object [("type", .string "git"), ("commitHash", .string hash)]
  | .binary url checksum =>
    .object [("type", .string "binary"), ("binaryURL", .string url),
      ("binaryChecksum", .string checksum)]

instance : Wire Upgrade := ⟨read, write⟩

end Upgrade
end HubConsole.Node
