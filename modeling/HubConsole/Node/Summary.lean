import HubConsole.Node.Status

namespace HubConsole.Node

open HubConsole.Json

structure Version where
  version : String
  hash : String
  deriving DecidableEq

structure Block where
  number : Int
  hash : String
  deriving DecidableEq

structure Summary where
  name : String
  address : Option String
  status : Status
  version : Option Version
  bestBlock : Option Block
  deriving DecidableEq

/-- What is known to have changed about one node. Only the name is always there. -/
structure Patch where
  name : String
  address : Option String
  status : Option Status
  version : Option Version
  bestBlock : Option Block
  deriving DecidableEq

/-- A node of which nothing but the name is known. -/
def Summary.blank (name : String) : Summary := ⟨name, none, .stop, none, none⟩

/-- The record of a node that was not known before. -/
def Summary.ofPatch (p : Patch) : Summary :=
  ⟨p.name, p.address, p.status.getD .stop, p.version, p.bestBlock⟩

namespace Version

def form : Form Version :=
  Version.mk <$> Form.required "version" Reader.text <*> Form.withDefault "hash" Reader.text ""

def write (v : Version) : Value := .object [("version", .string v.version), ("hash", .string v.hash)]

instance : Wire Version := ⟨form.read, write⟩

end Version

namespace Block

def form : Form Block :=
  Block.mk <$> Form.required "blockNumber" Reader.int64 <*> Form.withDefault "hash" Reader.text ""

def write (b : Block) : Value :=
  .object [("blockNumber", .ofInt b.number), ("hash", .string b.hash)]

instance : Wire Block := ⟨form.read, write⟩

end Block

namespace Summary

def form : Form Summary :=
  Summary.mk <$> Form.required "name" Reader.text <*> Form.optional "address" Reader.text
    <*> Form.withDefault "status" Wire.read .stop <*> Form.optional "version" Wire.read
    <*> Form.optional "bestBlockId" Wire.read

def write (n : Summary) : Value :=
  .object ([("name", .string n.name)] ++ writeOptional "address" .string n.address ++
    [("status", Wire.write n.status)] ++ writeOptional "version" Wire.write n.version ++
    writeOptional "bestBlockId" Wire.write n.bestBlock)

instance : Wire Summary := ⟨form.read, write⟩

end Summary

namespace Patch

def form : Form Patch :=
  Patch.mk <$> Form.required "name" Reader.text <*> Form.optional "address" Reader.text
    <*> Form.optional "status" Wire.read <*> Form.optional "version" Wire.read
    <*> Form.optional "bestBlockId" Wire.read

def write (p : Patch) : Value :=
  .object ([("name", .string p.name)] ++ writeOptional "address" .string p.address ++
    writeOptional "status" Wire.write p.status ++ writeOptional "version" Wire.write p.version ++
    writeOptional "bestBlockId" Wire.write p.bestBlock)

instance : Wire Patch := ⟨form.read, write⟩

end Patch
end HubConsole.Node
