import HubConsole.Node.Summary

namespace HubConsole

open HubConsole.Json

/-- A link between two nodes. The two ends are told apart: a link and its reverse are different. -/
structure Link where
  nodeA : String
  nodeB : String
  deriving DecidableEq

structure Network where
  nodes : List Node.Summary
  links : List Link
  deriving DecidableEq

namespace Network

structure Delta where
  nodes : Option (List Node.Patch)
  linksAdded : Option (List Link)
  linksRemoved : Option (List Link)
  deriving DecidableEq

def names (n : Network) : List String := n.nodes.map (·.name)

end Network

namespace Link

def form : Form Link :=
  Link.mk <$> Form.required "nodeA" Reader.text <*> Form.required "nodeB" Reader.text

def write (l : Link) : Value := .object [("nodeA", .string l.nodeA), ("nodeB", .string l.nodeB)]

instance : Wire Link := ⟨form.read, write⟩

end Link

namespace Network

def form : Form Network :=
  Network.mk <$> Form.withDefault "nodes" (Reader.list Wire.read) []
    <*> Form.withDefault "connections" (Reader.list Wire.read) []

def write (n : Network) : Value :=
  .object [("nodes", writeList Wire.write n.nodes), ("connections", writeList Wire.write n.links)]

instance : Wire Network := ⟨form.read, write⟩

namespace Delta

def form : Form Delta :=
  Delta.mk <$> Form.optional "nodes" (Reader.list Wire.read)
    <*> Form.optional "connectionsAdded" (Reader.list Wire.read)
    <*> Form.optional "connectionsRemoved" (Reader.list Wire.read)

def write (d : Delta) : Value :=
  .object (writeOptional "nodes" (writeList Wire.write) d.nodes ++
    writeOptional "connectionsAdded" (writeList Wire.write) d.linksAdded ++
    writeOptional "connectionsRemoved" (writeList Wire.write) d.linksRemoved)

instance : Wire Delta := ⟨form.read, write⟩

end Delta
end Network
end HubConsole
