import HubConsole.Double.Rounding

namespace HubConsole.Double

/-- A decimal `digits * 10 ^ exponent`. -/
structure Decimal where
  digits : Nat
  exponent : Int
  deriving DecidableEq

/-- A natural number times a power of ten, as a ratio. -/
def Decimal.ratio (d : Decimal) : Nat × Nat :=
  (d.digits * tenTo d.exponent.toNat, tenTo (-d.exponent).toNat)

/-- Whether a decimal rounds to the double with this rank, which is not zero. -/
def Decimal.roundsTo (d : Decimal) (rank : Nat) : Bool :=
  let twice := 2 * d.ratio.1 * twoTo 1074
  let low := (unitsAt (rank - 1) + unitsAt rank) * d.ratio.2
  let high := (unitsAt rank + unitsAt (rank + 1)) * d.ratio.2
  if rank % 2 = 0 then low ≤ twice && twice ≤ high else low < twice && twice < high

/-- Of the two multiples of `10 ^ k` next to a double the one that rounds to it; of both the nearer
one, of equally near ones the even one. -/
def onGrid (rank : Nat) (k : Int) : Option Decimal :=
  let num := unitsAt rank * tenTo (-k).toNat
  let den := twoTo 1074 * tenTo k.toNat
  let below : Decimal := ⟨num / den, k⟩
  let above : Decimal := ⟨num / den + 1, k⟩
  match below.roundsTo rank, above.roundsTo rank with
  | true, true => some ⟨roundHalfEven num den, k⟩
  | true, false => some below
  | false, true => some above
  | false, false => none

/-- An exponent at which the double has no digit left of the point. -/
def topExponent (rank : Nat) : Int :=
  ((unitsAt rank).log2 + 1 - 1074 : Int) * 30103 / 100000 + 1

/-- Tries finer and finer grids; every double is a decimal with 1074 places. -/
def search (rank : Nat) : Nat → Int → Decimal
  | 0, _ => ⟨unitsAt rank * Nat.pow 5 1074, -1074⟩
  | steps + 1, k =>
    match onGrid rank k with
    | some d => d
    | none => search rank steps (k - 1)

/-- The shortest decimal of a double's size. -/
def shortest (x : Double) : Decimal :=
  if x.rank = 0 then ⟨0, 0⟩ else search x.rank 24 (topExponent x.rank)

end HubConsole.Double
