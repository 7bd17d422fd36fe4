import HubConsole.Double.Rounding

namespace HubConsole.Double

/-- The greatest power of ten that one step scales by. -/
def powerLimit : Nat := 308

/-- The double nearest to a power of ten that one step may scale by. -/
def powerOfTen (n : Nat) : Double := (ofNat (tenTo n)).getD zero

/-- Divides by the greatest power a number of times, or until nothing is left. -/
def shrink : Nat → Double → Option Double
  | 0, x => some x
  | n + 1, x =>
    if x.rank = 0 then some x
    else match x.div (powerOfTen powerLimit) with
      | some y => shrink n y
      | none => none

/-- `x` times ten to the power `e`, or none when infinite. A number too small for one step is divided
by the greatest power first, as often as needed. -/
def scale (x : Double) (e : Int) : Option Double :=
  if 0 ≤ e then
    if e.natAbs ≤ powerLimit then x.mul (powerOfTen e.natAbs)
    else if x.rank = 0 then some x
    else none
  else
    let steps := (e.natAbs - 1) / powerLimit
    match shrink steps x with
    | some y => y.div (powerOfTen (e.natAbs - powerLimit * steps))
    | none => none

/-- The double that `significand * 10 ^ exponent` is read as. -/
def ofDecimal (negative : Bool) (significand : Nat) (exponent : Int) : Option Double :=
  match ofNat significand with
  | none => none
  | some x => (x.scale exponent).map fun y => { y with negative }

end HubConsole.Double
