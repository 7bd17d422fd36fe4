import HubConsole.Proofs.Graph.Documents
import HubConsole.Proofs.Json.Documents
import HubConsole.Proofs.Log.Documents
import HubConsole.Proofs.Network.Documents
import HubConsole.Proofs.Rpc.Documents

namespace HubConsole.Rpc

open HubConsole.Json

inductive Kind where
  | status | version | block | summary | patch | startOption | accessEntry | accessList | usage
  | hardware | detail | update | upgrade
  | link | network | delta
  | level | direction | filter | range | pageRequest | record | targets | page
  | period | query | nodeRow | extensionRow | nodeRows | extensionRows
  | id | request | errorObject

namespace Kind

/-- What a document of a kind says. -/
def Content : Kind → Type
  | status => Node.Status
  | version => Node.Version
  | block => Node.Block
  | summary => Node.Summary
  | patch => Node.Patch
  | startOption => Node.StartOption
  | accessEntry => Node.AccessEntry
  | accessList => Node.AccessList
  | usage => Node.Usage
  | hardware => Node.Hardware
  | detail => Node.Detail
  | update => Node.Update
  | upgrade => Node.Upgrade
  | link => Link
  | network => Network
  | delta => Network.Delta
  | level => Log.Level
  | direction => Log.Direction
  | filter => Log.Filter
  | range => Log.Range
  | pageRequest => Log.PageRequest
  | record => Log.Record
  | targets => Log.Targets
  | page => Log.Page
  | period => Graph.Period
  | query => Graph.Query
  | nodeRow => Graph.NodeRow
  | extensionRow => Graph.ExtensionRow
  | nodeRows => Graph.Rows Graph.NodeRow
  | extensionRows => Graph.Rows Graph.ExtensionRow
  | id => Id
  | request => Request
  | errorObject => ErrorObject

instance (k : Kind) : Wire k.Content :=
  match k with
  | status => inferInstanceAs (Wire Node.Status)
  | version => inferInstanceAs (Wire Node.Version)
  | block => inferInstanceAs (Wire Node.Block)
  | summary => inferInstanceAs (Wire Node.Summary)
  | patch => inferInstanceAs (Wire Node.Patch)
  | startOption => inferInstanceAs (Wire Node.StartOption)
  | accessEntry => inferInstanceAs (Wire Node.AccessEntry)
  | accessList => inferInstanceAs (Wire Node.AccessList)
  | usage => inferInstanceAs (Wire Node.Usage)
  | hardware => inferInstanceAs (Wire Node.Hardware)
  | detail => inferInstanceAs (Wire Node.Detail)
  | update => inferInstanceAs (Wire Node.Update)
  | upgrade => inferInstanceAs (Wire Node.Upgrade)
  | link => inferInstanceAs (Wire Link)
  | network => inferInstanceAs (Wire Network)
  | delta => inferInstanceAs (Wire Network.Delta)
  | level => inferInstanceAs (Wire Log.Level)
  | direction => inferInstanceAs (Wire Log.Direction)
  | filter => inferInstanceAs (Wire Log.Filter)
  | range => inferInstanceAs (Wire Log.Range)
  | pageRequest => inferInstanceAs (Wire Log.PageRequest)
  | record => inferInstanceAs (Wire Log.Record)
  | targets => inferInstanceAs (Wire Log.Targets)
  | page => inferInstanceAs (Wire Log.Page)
  | period => inferInstanceAs (Wire Graph.Period)
  | query => inferInstanceAs (Wire Graph.Query)
  | nodeRow => inferInstanceAs (Wire Graph.NodeRow)
  | extensionRow => inferInstanceAs (Wire Graph.ExtensionRow)
  | nodeRows => inferInstanceAs (Wire (Graph.Rows Graph.NodeRow))
  | extensionRows => inferInstanceAs (Wire (Graph.Rows Graph.ExtensionRow))
  | id => inferInstanceAs (Wire Id)
  | request => inferInstanceAs (Wire Request)
  | errorObject => inferInstanceAs (Wire ErrorObject)

/-- Reads a text as a document of a kind and writes that. -/
def rewrite (k : Kind) (text : String) : Except Fault String :=
  (Wire.ofText text).map (Wire.toText (α := k.Content))

theorem reread (k : Kind) {s : Source} {v : k.Content} (h : Wire.read depthLimit s = .ok v) :
    Wire.read depthLimit (Wire.write v).toSource = .ok v := by
  cases k with
  | status => exact Node.Status.lawful.reread (by decide) h
  | version => exact Node.Version.lawful.reread (by decide) h
  | block => exact Node.Block.lawful.reread (by decide) h
  | summary => exact Node.Summary.lawful.reread (by decide) h
  | patch => exact Node.Patch.lawful.reread (by decide) h
  | startOption => exact Node.StartOption.lawful.reread (by decide) h
  | accessEntry => exact Node.AccessEntry.lawful.reread (by decide) h
  | accessList => exact Node.AccessList.lawful.reread (by decide) h
  | usage => exact Node.Usage.lawful.reread (by decide) h
  | hardware => exact Node.Hardware.lawful.reread (by decide) h
  | detail => exact Node.Detail.lawful.reread (by decide) h
  | update => exact Node.Update.lawful.reread (by decide) h
  | upgrade => exact Node.Upgrade.read_write v
  | link => exact Link.lawful.reread (by decide) h
  | network => exact Network.lawful.reread (by decide) h
  | delta => exact Network.Delta.lawful.reread (by decide) h
  | level => exact Log.Level.lawful.reread (by decide) h
  | direction => exact Log.Direction.lawful.reread (by decide) h
  | filter => exact Log.Filter.lawful.reread (by decide) h
  | range => exact Log.Range.lawful.reread (by decide) h
  | pageRequest => exact Log.PageRequest.lawful.reread (by decide) h
  | record => exact Log.Record.lawful.reread (by decide) h
  | targets => exact Log.Targets.lawful.reread (by decide) h
  | page => exact Log.Page.lawful.reread (by decide) h
  | period => exact Graph.Period.lawful.reread (by decide) h
  | query => exact Graph.Query.lawful.reread (by decide) h
  | nodeRow => exact Graph.NodeRow.lawful.reread (by decide) h
  | extensionRow => exact Graph.ExtensionRow.lawful.reread (by decide) h
  | nodeRows => exact (Graph.Rows.lawful Graph.NodeRow.lawful).reread (by decide) h
  | extensionRows => exact (Graph.Rows.lawful Graph.ExtensionRow.lawful).reread (by decide) h
  | id => exact Id.lawful.reread (by decide) h
  | request => exact Request.lawful.reread (by decide) h
  | errorObject => exact ErrorObject.lawful.reread (by decide) h

/-- A document that was read is read again from what is written for it, and the text that was written is
rewritten to itself, as long as the doubles in it read back. -/
theorem rewriting_settles (k : Kind) (text : String) (v : k.Content) (hread : Wire.ofText text = .ok v)
    (hdoubles : ∀ x ∈ (Wire.write v).doubles, ReadsBack x) :
    Wire.ofText (Wire.toText v) = .ok v ∧ k.rewrite text = .ok (Wire.toText v) ∧
      k.rewrite (Wire.toText v) = .ok (Wire.toText v) := by
  have hagain : Wire.ofText (Wire.toText v) = .ok v := by
    rw [Wire.ofText_toText v hdoubles]
    exact k.reread (Wire.read_of_ofText hread)
  refine ⟨hagain, ?_, ?_⟩
  · rw [rewrite, hread]
    rfl
  · rw [rewrite, hagain]
    rfl

/-- The record of a node, given as an array with arrays in it and a status that is a key: it is written as
objects. -/
theorem rewriting_settles_detail_given_as_array :
    let text := "[\"a\",[\"e\"],null,null,\x7b\"Run\":null\x7d,[\"1.0\"],[7],[],[\"p\"]," ++
      "[[\"x\",[\"y\"],[\"z\",\"t\"]],true],null,[[0.5,1]]]"
    ∃ v : Node.Detail, Wire.ofText text = .ok v ∧ (∀ x ∈ (Wire.write v).doubles, ReadsBack x) ∧
      v.status = .run ∧ v.bestBlock = some ⟨7, ""⟩ ∧
      v.whitelist = some ⟨[⟨"x", none⟩, ⟨"y", none⟩, ⟨"z", some "t"⟩], true⟩ ∧ Wire.toText v ≠ text ∧
      Wire.ofText (Wire.toText v) = .ok v ∧ detail.rewrite text = .ok (Wire.toText v) ∧
      detail.rewrite (Wire.toText v) = .ok (Wire.toText v) := by
  intro text
  let Checked (v : Node.Detail) : Prop := (∀ x ∈ (Wire.write v).doubles, ReadsBack x) ∧
    v.status = .run ∧ v.bestBlock = some ⟨7, ""⟩ ∧
    v.whitelist = some ⟨[⟨"x", none⟩, ⟨"y", none⟩, ⟨"z", some "t"⟩], true⟩ ∧ Wire.toText v ≠ text
  have hchecked : ∃ v ∈ (Wire.ofText (α := Node.Detail) text).toOption, Checked v := by decide +kernel
  obtain ⟨v, hv, hdoubles, hstatus, hblock, hlist, hother⟩ := hchecked
  have hread : Wire.ofText text = .ok v := by
    generalize Wire.ofText (α := Node.Detail) text = r at hv ⊢
    cases r with
    | error _ => cases hv
    | ok a => rw [Option.some.inj hv]
  exact ⟨v, hread, hdoubles, hstatus, hblock, hlist, hother,
    rewriting_settles .detail text v hread hdoubles⟩

end Kind
end HubConsole.Rpc
