import HubConsole.Graph.Basic
import HubConsole.Proofs.Json.Forms
import HubConsole.Proofs.Time.Rfc3339

namespace HubConsole.Graph

open HubConsole.Json HubConsole.Time

theorem Period.lawful : Reader.Lawful Wire.read (Wire.write (α := Period)) (fun _ => True) 0 :=
  Reader.name_lawful Period.name Period.ofName? Period.ofName?_name

def Query.Proper (q : Query) : Prop := q.fromTime.Proper ∧ q.toTime.Proper

theorem Query.lawful : Reader.Lawful Wire.read (Wire.write (α := Query)) Query.Proper 1 :=
  (((((Form.required_lawful "from" Instant.lawful).map Query.mk).seq
    (Form.required_lawful "to" Instant.lawful)).seq
    (Form.required_lawful "period" Period.lawful)).record
    Query.write (fun q => ((q.fromTime, q.toTime), q.period)) (fun _ => rfl) (fun _ => rfl)
    (fun _ => rfl) (by decide)).congr _ fun _ => by simp [Query.Proper]

theorem NodeRow.lawful :
    Reader.Lawful Wire.read (Wire.write (α := NodeRow)) (fun r => r.time.Proper) 1 :=
  (((((Form.required_lawful "nodeName" Reader.text_lawful).map NodeRow.mk).seq
    (Form.required_lawful "time" Instant.lawful)).seq
    (Form.required_lawful "value" Reader.double_lawful)).record
    NodeRow.write (fun r => ((r.node, r.time), r.value)) (fun _ => rfl) (fun _ => rfl)
    (fun _ => rfl) (by decide)).congr _ fun _ => by simp

theorem ExtensionRow.lawful :
    Reader.Lawful Wire.read (Wire.write (α := ExtensionRow)) (fun r => r.time.Proper) 1 :=
  (((((Form.required_lawful "extension" Reader.text_lawful).map ExtensionRow.mk).seq
    (Form.required_lawful "time" Instant.lawful)).seq
    (Form.required_lawful "value" Reader.double_lawful)).record
    ExtensionRow.write (fun r => ((r.extension, r.time), r.value)) (fun _ => rfl) (fun _ => rfl)
    (fun _ => rfl) (by decide)).congr _ fun _ => by simp

theorem Rows.lawful {α : Type} [Wire α] {Proper : α → Prop} {base : Nat}
    (h : Reader.Lawful Wire.read (Wire.write (α := α)) Proper base) :
    Reader.Lawful Wire.read (Wire.write (α := Rows α)) (fun r => ∀ a ∈ r.rows, Proper a) (base + 2) :=
  ((Form.withDefault_lawful "rows" [] h.list (by simp) (Nat.le_add_left 1 base)).map Rows.mk).record
    Rows.write Rows.rows (fun _ => rfl) (fun _ => rfl) (fun _ => rfl) (List.pairwise_singleton _ _)

end HubConsole.Graph
