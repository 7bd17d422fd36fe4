import HubConsole.Double.Scaling
import HubConsole.Json.Value
import HubConsole.Power
import HubConsole.Text.Digits

namespace HubConsole.Json

open HubConsole.Text

structure Numeral where
  negative : Bool
  whole : List Char
  fraction : List Char
  /-- The digits of the exponent and whether a minus stands before them. -/
  exponent : Option (Bool × List Char)

/-- Appends digits to a significand as long as it fits in 64 bits; also the digits left over. -/
def absorb (significand : Nat) : List Char → Nat × List Char
  | [] => (significand, [])
  | c :: cs =>
    if 10 * significand + digitValue c < twoTo 64 then absorb (10 * significand + digitValue c) cs
    else (significand, c :: cs)

namespace Numeral

def exponentValue (n : Numeral) : Int :=
  match n.exponent with
  | none => 0
  | some (true, ds) => -(valueOf ds)
  | some (false, ds) => valueOf ds

/-- The numeral read as a double, or none when that is infinite. The significand is the longest row of leading
digits that 64 bits hold; the digits after it only move the point. -/
def toDouble? (n : Numeral) : Option Double :=
  let whole := absorb 0 n.whole
  let all := absorb whole.1 n.fraction
  Double.ofDecimal n.negative all.1
    (n.exponentValue + whole.2.length - (n.fraction.length - all.2.length : Nat))

def isWhole (n : Numeral) : Bool := n.fraction.isEmpty && n.exponent.isNone

def intValue (n : Numeral) : Int :=
  if n.negative then -(valueOf n.whole) else valueOf n.whole

/-- Without a fraction or an exponent the number is an integer if 64 bits hold it, and it is not `-0`. -/
def toNumber? (n : Numeral) : Option Number :=
  if h : n.isWhole ∧ Fits n.intValue ∧ ¬(n.negative ∧ n.intValue = 0) then
    some (.int n.intValue h.2.1)
  else n.toDouble?.map .float

end Numeral
end HubConsole.Json
