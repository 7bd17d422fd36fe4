import HubConsole.Double.Basic

namespace HubConsole

/-- The whole number nearest to `num / den`; of two, the even one. -/
def roundHalfEven (num den : Nat) : Nat :=
  let q := num / den
  let twice := 2 * (num % den)
  if twice < den then q
  else if den < twice then q + 1
  else if q % 2 = 0 then q else q + 1

namespace Double

/-- The place in the count that is nearest to `num / den`, were the count to go on for ever. -/
def rankOfRatio (num den : Nat) : Nat :=
  let scaled := num * twoTo 1074
  let whole := scaled / den
  let shift := if whole < twoTo 53 then 0 else whole.log2 - 52
  shift * twoTo 52 + roundHalfEven scaled (den * twoTo shift)

/-- The double nearest to a ratio, or none when it lies beyond the last one. -/
def ofRatio (negative : Bool) (num den : Nat) : Option Double :=
  if h : rankOfRatio num den < count then some ⟨negative, rankOfRatio num den, h⟩ else none

def ofNat (n : Nat) : Option Double := ofRatio false n 1

/-- The product, or none when it is infinite. -/
def mul (x y : Double) : Option Double :=
  ofRatio (x.negative != y.negative) (x.units * y.units) (twoTo 2148)

/-- The quotient of a double by one that is not zero, or none when it is infinite. -/
def div (x y : Double) : Option Double :=
  ofRatio (x.negative != y.negative) x.units y.units

/-- The double of an integer with at most 64 bits. -/
def ofInt (n : Int) : Double :=
  match ofRatio (decide (n < 0)) n.natAbs 1 with
  | some x => x
  | none => zero

end Double
end HubConsole
