import HubConsole.Json.Record
import HubConsole.Power
import HubConsole.Text.Blank

namespace HubConsole.Rpc

open HubConsole.Json

/-- A number, as this side makes ids, or a text, as a hub may send one back. -/
inductive Id where
  | number (n : Nat)
  | text (s : String)
  deriving DecidableEq

namespace Id

/-- The number that an id stands for, if 64 bits hold it. -/
def toNat? : Id → Option Nat
  | .number n => some n
  | .text s =>
    match Text.readNatural (Text.trim s) with
    | some n => if n < twoTo 64 then some n else none
    | none => none

theorem toNat?_number (n : Nat) : (Id.number n).toNat? = some n := rfl

/-- A text stands for the number whose digits it is made of, blanks around it and a plus sign in front left out. -/
theorem toNat?_text_eq_some_iff (s : String) (n : Nat) :
    (Id.text s).toNat? = some n ↔
      n < twoTo 64 ∧ ∃ ds, ((Text.trim s).toList = ds ∨ (Text.trim s).toList = '+' :: ds) ∧
        ds ≠ [] ∧ ds.all Char.isDigit ∧ Text.valueOf ds = n := by
  rw [← Text.readNatural_eq_some_iff, toNat?]
  split
  · next m hm =>
    rw [hm, Option.ite_none_right_eq_some, Option.some_inj]
    exact and_congr_left fun hsame => by rw [hsame]
  · next hnone =>
    rw [hnone]
    simp

def spelling : Id → String
  | .number n => Text.natText n
  | .text s => s

def read : Reader Id
  | _, .string (some s) => .ok (.text s)
  | _, .number (some (.int n _)) => if n < 0 then .error (.negativeId n) else .ok (.number n.toNat)
  | _, _ => .error .malformed

def write : Id → Value
  | .number n => .ofNat n
  | .text s => .string s

instance : Wire Id := ⟨read, write⟩

end Id
end HubConsole.Rpc
