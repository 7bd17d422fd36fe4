import HubConsole.Network.Basic
import HubConsole.Proofs.Node.Documents

namespace HubConsole

open HubConsole.Json HubConsole.Node

theorem Link.lawful : Reader.Lawful Wire.read (Wire.write (α := Link)) (fun _ => True) 1 :=
  ((((Form.required_lawful "nodeA" Reader.text_lawful).map Link.mk).seq
    (Form.required_lawful "nodeB" Reader.text_lawful)).record
    Link.write (fun l => (l.nodeA, l.nodeB)) (fun _ => rfl) (fun _ => rfl) (fun _ => rfl)
    (by decide)).congr _ fun _ => by simp

namespace Network

theorem links_lawful :
    Reader.Lawful (Reader.list Wire.read) (writeList (Wire.write (α := Link))) (fun _ => True) 2 :=
  Link.lawful.list.congr _ fun _ => by simp

def Proper (n : Network) : Prop := ∀ node ∈ n.nodes, node.Proper

theorem lawful : Reader.Lawful Wire.read (Wire.write (α := Network)) Proper 4 :=
  ((((Form.withDefault_lawful "nodes" [] Summary.lawful.list (by simp) (by decide)).map
    Network.mk).seq
    (Form.withDefault_lawful "connections" [] links_lawful trivial (by decide))).record
    write (fun n => (n.nodes, n.links)) (fun _ => rfl) (fun _ => rfl) (fun _ => rfl)
    (by decide)).congr _ fun _ => by simp [Proper]

def Delta.Proper (d : Delta) : Prop := ∀ ps ∈ d.nodes, ∀ p ∈ ps, p.Proper

theorem Delta.lawful : Reader.Lawful Wire.read (Wire.write (α := Delta)) Delta.Proper 4 :=
  (((((Form.optional_lawful "nodes" Patch.lawful.list (fun _ => nofun)).map Delta.mk).seq
    (Form.optional_lawful "connectionsAdded" links_lawful (fun _ => nofun))).seq
    (Form.optional_lawful "connectionsRemoved" links_lawful (fun _ => nofun))).record
    Delta.write (fun d => ((d.nodes, d.linksAdded), d.linksRemoved)) (fun _ => rfl) (fun _ => rfl)
    (fun _ => rfl) (by decide)).congr _ fun _ => by simp [Delta.Proper]

end Network
end HubConsole
