import HubConsole.Double.Shortest
import HubConsole.Text.Digits

namespace HubConsole.Double

open HubConsole.Text

/-- How a shortest decimal is laid out. -/
structure Layout where
  /-- Whether a number without a fraction still gets `.0`. -/
  pointZero : Bool
  /-- Whether a number whose first digit counts this power of ten is written without an exponent. -/
  plain : Int → Bool

/-- Documents: from `0.00001` to below `10 ^ 16` without an exponent, and always with a point. -/
def documentLayout : Layout := ⟨true, fun e => -5 ≤ e && e ≤ 15⟩

/-- Views: never an exponent, and no point without need. -/
def viewLayout : Layout := ⟨false, fun _ => true⟩

def zeros (n : Nat) : List Char := List.replicate n '0'

def plainText (layout : Layout) (ds : List Char) (k : Int) : List Char :=
  if 0 ≤ k then
    ds ++ zeros k.toNat ++ (if layout.pointZero then ['.', '0'] else [])
  else
    let places := (-k).toNat
    if places < ds.length then
      ds.take (ds.length - places) ++ '.' :: ds.drop (ds.length - places)
    else '0' :: '.' :: (zeros (places - ds.length) ++ ds)

def scientificText (ds : List Char) (e : Int) : List Char :=
  (match ds with
    | [] => []
    | [d] => [d]
    | d :: more => d :: '.' :: more) ++
  'e' :: (if e < 0 then '-' else '+') :: digits e.natAbs

def sizeText (layout : Layout) (d : Decimal) : List Char :=
  let ds := digits d.digits
  let e := d.exponent + ds.length - 1
  if layout.plain e then plainText layout ds d.exponent else scientificText ds e

def text (layout : Layout) (x : Double) : List Char :=
  (if x.negative then ['-'] else []) ++ sizeText layout x.shortest

/-- Digits of a whole number with a point before the last `places` of them. -/
def withPlaces (places n : Nat) : List Char :=
  let ds := digits n
  let padded := zeros (places + 1 - ds.length) ++ ds
  if places = 0 then padded
  else padded.take (padded.length - places) ++ '.' :: padded.drop (padded.length - places)

/-- The exact value rounded to a number of places, a half to the even neighbour. The sign stays, also
before a zero. -/
def fixed (places : Nat) (x : Double) : List Char :=
  (if x.negative then ['-'] else []) ++
    withPlaces places (roundHalfEven (x.units * tenTo places) (twoTo 1074))

/-- A share as a percentage: a hundred times the double, rounded to a double and then to `places`. -/
def percent (places : Nat) (x : Double) : List Char :=
  match x.mul (ofInt 100) with
  | some y => y.fixed places
  | none => (if x.negative then ['-'] else []) ++ ['i', 'n', 'f']

end HubConsole.Double
