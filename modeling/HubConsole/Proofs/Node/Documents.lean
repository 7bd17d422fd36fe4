import HubConsole.Node.Detail
import HubConsole.Proofs.Json.Forms

namespace HubConsole.Node

open HubConsole.Json

theorem Status.lawful : Reader.Lawful Wire.read (Wire.write (α := Status)) (fun _ => True) 0 :=
  Reader.name_lawful Status.name Status.ofName? Status.ofName?_name

theorem Version.lawful : Reader.Lawful Wire.read (Wire.write (α := Version)) (fun _ => True) 1 :=
  ((((Form.required_lawful "version" Reader.text_lawful).map Version.mk).seq
    (Form.withDefault_lawful "hash" "" Reader.text_lawful trivial (Nat.le_refl 0))).record
    Version.write (fun v => (v.version, v.hash)) (fun _ => rfl) (fun _ => rfl) (fun _ => rfl)
    (by decide)).congr _ fun _ => by simp

def Block.Proper (b : Block) : Prop := Reader.Int64 b.number

theorem Block.lawful : Reader.Lawful Wire.read (Wire.write (α := Block)) Block.Proper 1 :=
  ((((Form.required_lawful "blockNumber" Reader.int64_lawful).map Block.mk).seq
    (Form.withDefault_lawful "hash" "" Reader.text_lawful trivial (Nat.le_refl 0))).record
    Block.write (fun b => (b.number, b.hash)) (fun _ => rfl) (fun _ => rfl) (fun _ => rfl)
    (by decide)).congr _ fun _ => by simp [Block.Proper]

def Summary.Proper (n : Summary) : Prop := ∀ b ∈ n.bestBlock, b.Proper

theorem Summary.lawful : Reader.Lawful Wire.read (Wire.write (α := Summary)) Summary.Proper 2 :=
  (((((((Form.required_lawful "name" Reader.text_lawful).map Summary.mk).seq
    (Form.optional_lawful "address" Reader.text_lawful (fun _ => nofun))).seq
    (Form.withDefault_lawful "status" .stop Status.lawful trivial (Nat.le_refl 0))).seq
    (Form.optional_lawful "version" Version.lawful (fun _ => nofun))).seq
    (Form.optional_lawful "bestBlockId" Block.lawful (fun _ => nofun))).record
    Summary.write (fun n => ((((n.name, n.address), n.status), n.version), n.bestBlock))
    (fun _ => rfl) (fun _ => rfl) (fun _ => rfl) (by decide)).congr _ fun _ => by
      simp [Summary.Proper]

def Patch.Proper (p : Patch) : Prop := ∀ b ∈ p.bestBlock, b.Proper

theorem Patch.lawful : Reader.Lawful Wire.read (Wire.write (α := Patch)) Patch.Proper 2 :=
  (((((((Form.required_lawful "name" Reader.text_lawful).map Patch.mk).seq
    (Form.optional_lawful "address" Reader.text_lawful (fun _ => nofun))).seq
    (Form.optional_lawful "status" Status.lawful (fun _ => nofun))).seq
    (Form.optional_lawful "version" Version.lawful (fun _ => nofun))).seq
    (Form.optional_lawful "bestBlockId" Block.lawful (fun _ => nofun))).record
    Patch.write (fun p => ((((p.name, p.address), p.status), p.version), p.bestBlock))
    (fun _ => rfl) (fun _ => rfl) (fun _ => rfl) (by decide)).congr _ fun _ => by simp [Patch.Proper]

theorem StartOption.lawful : Reader.Lawful Wire.read (Wire.write (α := StartOption)) (fun _ => True) 1 :=
  ((((Form.withDefault_lawful "env" "" Reader.text_lawful trivial (Nat.le_refl 0)).map
    StartOption.mk).seq
    (Form.withDefault_lawful "args" "" Reader.text_lawful trivial (Nat.le_refl 0))).record
    StartOption.write (fun o => (o.env, o.args)) (fun _ => rfl) (fun _ => rfl) (fun _ => rfl)
    (by decide)).congr _ fun _ => by simp

theorem AccessEntry.lawful : Reader.Lawful Wire.read (Wire.write (α := AccessEntry)) (fun _ => True) 0 where
  read_rendering {e w room} _ hw := by
    obtain ⟨address, tag⟩ := e
    cases tag with
    | none =>
      rw [Value.Renders.string hw]
      rfl
    | some t =>
      obtain ⟨ws, rfl, hroom, hws⟩ := Value.Renders.array hw
      obtain ⟨_, _, haddress, hrest, rfl⟩ := List.forall₂_cons_right_iff.mp hws
      obtain ⟨_, _, htag, hnil, rfl⟩ := List.forall₂_cons_right_iff.mp hrest
      rw [haddress.string, htag.string, List.forall₂_nil_right_iff.mp hnil]
      exact if_neg hroom
  distinct {e} _ := by
    obtain ⟨address, tag⟩ := e
    cases tag with
    | none => exact Value.distinct_of_depth_eq_zero _ rfl
    | some t =>
      have hstring (s : String) : (Value.string s).Distinct := Value.distinct_of_depth_eq_zero _ rfl
      exact (Value.distinct_array_iff _).mpr (by simp [hstring])
  proper _ := trivial
  depth {room s e} hread := by
    change AccessEntry.read room s = .ok e at hread
    unfold AccessEntry.read at hread
    split at hread
    · obtain rfl := Except.ok.inj hread
      exact Nat.zero_le _
    · split at hread
      · cases hread
      · obtain rfl := Except.ok.inj hread
        exact Nat.zero_le _
    · split at hread
      · cases hread
      · next hroom =>
        obtain rfl := Except.ok.inj hread
        exact le_max_of_le_left (Nat.one_le_iff_ne_zero.mpr hroom)
    · cases hread

theorem AccessList.lawful : Reader.Lawful Wire.read (Wire.write (α := AccessList)) (fun _ => True) 2 :=
  ((((Form.withDefault_lawful "list" [] AccessEntry.lawful.list (by simp) (Nat.le_refl 1)).map
    AccessList.mk).seq
    (Form.withDefault_lawful "enabled" false Reader.bool_lawful trivial (Nat.le_refl 0))).record
    AccessList.write (fun l => (l.list, l.enabled)) (fun _ => rfl) (fun _ => rfl) (fun _ => rfl)
    (by decide)).congr _ fun _ => by simp

def Usage.Proper (u : Usage) : Prop := Reader.Int64 u.total ∧ Reader.Int64 u.available

theorem Usage.lawful : Reader.Lawful Wire.read (Wire.write (α := Usage)) Usage.Proper 1 :=
  (((((Form.required_lawful "total" Reader.int64_lawful).map Usage.mk).seq
    (Form.required_lawful "available" Reader.int64_lawful)).seq
    (Form.required_lawful "percentageUsed" Reader.double_lawful)).record
    Usage.write (fun u => ((u.total, u.available), u.percentageUsed)) (fun _ => rfl) (fun _ => rfl)
    (fun _ => rfl) (by decide)).congr _ fun _ => by simp [Usage.Proper]

theorem Usage.zero_proper : Usage.zero.Proper := by
  unfold Usage.Proper Reader.Int64
  decide

def Hardware.Proper (h : Hardware) : Prop := h.disk.Proper ∧ h.memory.Proper

theorem Hardware.lawful : Reader.Lawful Wire.read (Wire.write (α := Hardware)) Hardware.Proper 2 :=
  (((((Form.withDefault_lawful "cpuUsage" [] Reader.doubles_lawful trivial (Nat.le_refl 1)).map
    Hardware.mk).seq
    (Form.withDefault_lawful "diskUsage" Usage.zero Usage.lawful Usage.zero_proper (by decide))).seq
    (Form.withDefault_lawful "memoryUsage" Usage.zero Usage.lawful Usage.zero_proper (by decide))).record
    Hardware.write (fun h => ((h.cpu, h.disk), h.memory)) (fun _ => rfl) (fun _ => rfl)
    (fun _ => rfl) (by decide)).congr _ fun _ => by simp [Hardware.Proper]

def Detail.Proper (d : Detail) : Prop :=
  (∀ b ∈ d.bestBlock, b.Proper) ∧ (∀ vs ∈ d.pendingParcels, ∀ v ∈ vs, v.sorted = v) ∧
    ∀ h ∈ d.hardware, h.Proper

theorem Detail.lawful : Reader.Lawful Wire.read (Wire.write (α := Detail)) Detail.Proper 3 :=
  (((((((((((((((Form.required_lawful "name" Reader.text_lawful).map Detail.mk).seq
    (Form.optional_lawful "startOption" StartOption.lawful (fun _ => nofun))).seq
    (Form.optional_lawful "address" Reader.text_lawful (fun _ => nofun))).seq
    (Form.optional_lawful "agentVersion" Reader.text_lawful (fun _ => nofun))).seq
    (Form.withDefault_lawful "status" .stop Status.lawful trivial (Nat.le_refl 0))).seq
    (Form.optional_lawful "version" Version.lawful (fun _ => nofun))).seq
    (Form.optional_lawful "bestBlockId" Block.lawful (fun _ => nofun))).seq
    (Form.optional_lawful "pendingParcels" Reader.frees_lawful (fun _ => nofun))).seq
    (Form.optional_lawful "peers" Reader.texts_lawful (fun _ => nofun))).seq
    (Form.optional_lawful "whitelist" AccessList.lawful (fun _ => nofun))).seq
    (Form.optional_lawful "blacklist" AccessList.lawful (fun _ => nofun))).seq
    (Form.optional_lawful "hardware" Hardware.lawful (fun _ => nofun))).seq
    (Form.optional_lawful "events" Reader.texts_lawful (fun _ => nofun))).record
    Detail.write (fun d => ((((((((((((d.name, d.startOption), d.address), d.agentVersion), d.status),
      d.version), d.bestBlock), d.pendingParcels), d.peers), d.whitelist), d.blacklist), d.hardware),
      d.events))
    (fun _ => rfl) (fun _ => rfl) (fun _ => rfl) (by decide)).congr _ fun _ => by
      simp [Detail.Proper, and_assoc]

def Update.Proper (u : Update) : Prop :=
  (∀ b ∈ u.bestBlock, b.Proper) ∧ (∀ vs ∈ u.pendingParcels, ∀ v ∈ vs, v.sorted = v) ∧
    ∀ h ∈ u.hardware, h.Proper

theorem Update.lawful : Reader.Lawful Wire.read (Wire.write (α := Update)) Update.Proper 3 :=
  (((((((((((((((Form.required_lawful "name" Reader.text_lawful).map Update.mk).seq
    (Form.optional_lawful "startOption" StartOption.lawful (fun _ => nofun))).seq
    (Form.optional_lawful "address" Reader.text_lawful (fun _ => nofun))).seq
    (Form.optional_lawful "agentVersion" Reader.text_lawful (fun _ => nofun))).seq
    (Form.optional_lawful "status" Status.lawful (fun _ => nofun))).seq
    (Form.optional_lawful "version" Version.lawful (fun _ => nofun))).seq
    (Form.optional_lawful "bestBlockId" Block.lawful (fun _ => nofun))).seq
    (Form.optional_lawful "pendingParcels" Reader.frees_lawful (fun _ => nofun))).seq
    (Form.optional_lawful "peers" Reader.texts_lawful (fun _ => nofun))).seq
    (Form.optional_lawful "whitelist" AccessList.lawful (fun _ => nofun))).seq
    (Form.optional_lawful "blacklist" AccessList.lawful (fun _ => nofun))).seq
    (Form.optional_lawful "hardware" Hardware.lawful (fun _ => nofun))).seq
    (Form.optional_lawful "events" Reader.texts_lawful (fun _ => nofun))).record
    Update.write (fun u => ((((((((((((u.name, u.startOption), u.address), u.agentVersion), u.status),
      u.version), u.bestBlock), u.pendingParcels), u.peers), u.whitelist), u.blacklist), u.hardware),
      u.events))
    (fun _ => rfl) (fun _ => rfl) (fun _ => rfl) (by decide)).congr _ fun _ => by
      simp [Update.Proper, and_assoc]

/-- An upgrade is read from what is written for it, its type among its members. -/
theorem Upgrade.read_write (u : Upgrade) :
    Wire.read depthLimit (Wire.write u).toSource = .ok u := by
  cases u with
  | git hash => rfl
  | binary url checksum => rfl

end HubConsole.Node
