import HubConsole.Log.Basic
import HubConsole.Proofs.Json.Forms
import HubConsole.Proofs.Time.Rfc3339

namespace HubConsole.Log

open HubConsole.Json HubConsole.Time

theorem Level.lawful : Reader.Lawful Wire.read (Wire.write (α := Level)) (fun _ => True) 0 :=
  Reader.name_lawful Level.name Level.ofName? Level.ofName?_name

theorem Direction.lawful : Reader.Lawful Wire.read (Wire.write (α := Direction)) (fun _ => True) 0 :=
  Reader.name_lawful Direction.name Direction.ofName? Direction.ofName?_name

theorem Filter.lawful : Reader.Lawful Wire.read (Wire.write (α := Filter)) (fun _ => True) 2 :=
  (((((Form.withDefault_lawful "nodeNames" [] Reader.texts_lawful trivial (Nat.le_refl 1)).map
    Filter.mk).seq
    (Form.withDefault_lawful "levels" [] Level.lawful.list (by simp) (Nat.le_refl 1))).seq
    (Form.withDefault_lawful "targets" [] Reader.texts_lawful trivial (Nat.le_refl 1))).record
    Filter.write (fun f => ((f.nodes, f.levels), f.targets)) (fun _ => rfl) (fun _ => rfl)
    (fun _ => rfl) (by decide)).congr _ fun _ => by simp

def Range.Proper (r : Range) : Prop := (∀ t ∈ r.fromTime, t.Proper) ∧ ∀ t ∈ r.toTime, t.Proper

theorem Range.lawful : Reader.Lawful Wire.read (Wire.write (α := Range)) Range.Proper 1 :=
  ((((Form.optional_lawful "fromTime" Instant.lawful (fun _ => nofun)).map Range.mk).seq
    (Form.optional_lawful "toTime" Instant.lawful (fun _ => nofun))).record
    Range.write (fun r => (r.fromTime, r.toTime)) (fun _ => rfl) (fun _ => rfl) (fun _ => rfl)
    (by decide)).congr _ fun _ => Iff.rfl

def PageRequest.Proper (r : PageRequest) : Prop :=
  r.range.Proper ∧ Reader.Nat32 r.page ∧ Reader.Nat32 r.perPage

theorem PageRequest.lawful :
    Reader.Lawful Wire.read (Wire.write (α := PageRequest)) PageRequest.Proper 3 :=
  ((((((((Form.required_lawful "filter" Filter.lawful).map PageRequest.mk).seq
    (Form.required_lawful "search" Reader.text_lawful)).seq
    (Form.required_lawful "time" Range.lawful)).seq
    (Form.required_lawful "page" Reader.nat32_lawful)).seq
    (Form.required_lawful "itemPerPage" Reader.nat32_lawful)).seq
    (Form.required_lawful "orderBy" Direction.lawful)).record
    PageRequest.write (fun r => (((((r.filter, r.search), r.range), r.page), r.perPage), r.direction))
    (fun _ => rfl) (fun _ => rfl) (fun _ => rfl) (by decide)).congr _ fun _ => by
      simp [PageRequest.Proper, and_assoc]

/-- A number in place of an id is written as the text that it stands for. -/
theorem Record.readId_lawful : Reader.Lawful Record.readId .string (fun _ => True) 0 where
  read_rendering _ hw := by
    rw [hw.string]
    rfl
  distinct _ := Value.distinct_of_depth_eq_zero _ rfl
  proper _ := trivial
  depth _ := Nat.zero_le _

theorem Record.lawful : Reader.Lawful Wire.read (Wire.write (α := Record)) (fun _ => True) 1 :=
  ((((((((Form.required_lawful "id" Record.readId_lawful).map Record.mk).seq
    (Form.required_lawful "nodeName" Reader.text_lawful)).seq
    (Form.required_lawful "level" Reader.text_lawful)).seq
    (Form.required_lawful "target" Reader.text_lawful)).seq
    (Form.required_lawful "timestamp" Reader.text_lawful)).seq
    (Form.required_lawful "message" Reader.text_lawful)).record
    Record.write (fun r => (((((r.id, r.node), r.level), r.target), r.timestamp), r.message))
    (fun _ => rfl) (fun _ => rfl) (fun _ => rfl) (by decide)).congr _ fun _ => by simp

theorem Targets.lawful : Reader.Lawful Wire.read (Wire.write (α := Targets)) (fun _ => True) 2 :=
  (((Form.withDefault_lawful "targets" [] Reader.texts_lawful trivial (Nat.le_refl 1)).map
    Targets.mk).record
    Targets.write Targets.targets (fun _ => rfl) (fun _ => rfl) (fun _ => rfl) (by decide)).congr _
    fun _ => Iff.rfl

theorem Page.lawful : Reader.Lawful Wire.read (Wire.write (α := Page)) (fun _ => True) 3 :=
  (((Form.withDefault_lawful "logs" [] Record.lawful.list (by simp) (by decide)).map Page.mk).record
    Page.write Page.records (fun _ => rfl) (fun _ => rfl) (fun _ => rfl) (by decide)).congr _
    fun _ => by simp

end HubConsole.Log
