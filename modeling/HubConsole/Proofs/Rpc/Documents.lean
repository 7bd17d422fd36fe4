import HubConsole.Proofs.Json.Forms
import HubConsole.Rpc.Frame

namespace HubConsole.Rpc

open HubConsole.Json

def Id.Proper : Id → Prop
  | .number n => n < twoTo 64
  | .text _ => True

theorem Id.write_number (n : Nat) : Wire.write (Id.number n) = Value.ofNat n := by
  have hwrite (id : Id) : Wire.write id = id.write := rfl
  rw [hwrite, Id.write]

theorem Id.depth_write (id : Id) : (Wire.write id).depth = 0 := by
  cases id with
  | text s => rfl
  | number n => rw [Id.write_number, Reader.depth_ofNat]

theorem Id.lawful : Reader.Lawful Wire.read (Wire.write (α := Id)) Id.Proper 0 where
  read_rendering {id w room} hid hw := by
    cases id with
    | text s =>
      rw [Value.Renders.string hw]
      rfl
    | number n =>
      rw [Id.write_number, Reader.ofNat_eq_number n hid] at hw
      rw [hw.number]
      have hread : Id.read room (Value.toSource (.number (.int n (Reader.fits_of_lt hid)))) =
          if (n : Int) < 0 then .error (.negativeId n) else .ok (.number n) := rfl
      exact hread.trans (if_neg (Int.not_lt.mpr (Int.natCast_nonneg n)))
  distinct _ := Value.distinct_of_depth_eq_zero _ (Id.depth_write _)
  proper {room s id} hread := by
    change Id.read room s = .ok id at hread
    unfold Id.read at hread
    split at hread
    · obtain rfl := Except.ok.inj hread
      trivial
    · next n fits =>
      split at hread
      · cases hread
      · next hn =>
        obtain rfl := Except.ok.inj hread
        exact (Int.toNat_lt (Int.not_lt.mp hn)).mpr fits.2
    · cases hread
  depth _ := (Id.depth_write _).trans_le (Nat.zero_le _)

theorem Request.lawful :
    Reader.Lawful Wire.read (Wire.write (α := Request)) (fun r => r.params.sorted = r.params ∧ r.id.Proper) 1 :=
  ((((((Form.required_lawful "jsonrpc" Reader.text_lawful).map Request.mk).seq
    (Form.required_lawful "method" Reader.text_lawful)).seq
    (Form.required_lawful "params" Reader.free_lawful)).seq
    (Form.required_lawful "id" Id.lawful)).record
    Request.write (fun r => (((r.version, r.method), r.params), r.id)) (fun _ => rfl) (fun _ => rfl)
    (fun _ => rfl) (by decide)).congr _ fun _ => by simp

/-- Null for the data of an error means that there are none. -/
def ErrorObject.Proper (e : ErrorObject) : Prop :=
  Reader.Int64 e.code ∧ ∀ v ∈ e.data, v.sorted = v ∧ v ≠ .null

theorem ErrorObject.lawful :
    Reader.Lawful Wire.read (Wire.write (α := ErrorObject)) ErrorObject.Proper 1 :=
  (((((Form.required_lawful "code" Reader.int64_lawful).map ErrorObject.mk).seq
    (Form.withDefault_lawful "message" "" Reader.text_lawful trivial (Nat.le_refl 0))).seq
    (Form.optional_lawful_of_read "data" Reader.free_lawful Reader.ne_null_of_free)).record
    ErrorObject.write (fun e => ((e.code, e.message), e.data)) (fun _ => rfl) (fun _ => rfl)
    (fun _ => rfl) (by decide)).congr _ fun _ => by simp [ErrorObject.Proper]

end HubConsole.Rpc
