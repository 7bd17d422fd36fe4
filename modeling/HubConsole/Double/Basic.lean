import HubConsole.Power

namespace HubConsole

/-- How many non-negative finite doubles there are. -/
def Double.count : Nat := 2047 * twoTo 52

/-- A double that is neither infinite nor undefined. -/
structure Double where
  negative : Bool
  rank : Nat
  finite : rank < Double.count

namespace Double

/-- The size at a place of the count, in units of `2 ^ -1074`. -/
def unitsAt (rank : Nat) : Nat :=
  if rank < twoTo 53 then rank
  else (twoTo 52 + rank % twoTo 52) * twoTo (rank / twoTo 52 - 1)

def units (x : Double) : Nat := unitsAt x.rank

theorem zero_lt_count : 0 < count := by decide

def zero : Double := ⟨false, 0, zero_lt_count⟩

instance : Inhabited Double := ⟨zero⟩

/-- Equality of the numbers: the two zeros are equal. -/
def same (x y : Double) : Bool :=
  x.rank == y.rank && (x.negative == y.negative || x.rank == 0)

instance : BEq Double := ⟨same⟩

def neg (x : Double) : Double := { x with negative := !x.negative }

theorem same_self (x : Double) : (x == x) = true := by
  simp [BEq.beq, same]

instance : ReflBEq Double := ⟨same_self _⟩

end Double
end HubConsole
