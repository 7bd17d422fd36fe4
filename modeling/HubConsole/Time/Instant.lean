namespace HubConsole.Time

/-- A point in time. Inside a leap second the nanoseconds run on past a whole second. -/
structure Instant where
  /-- Whole seconds since 1970-01-01T00:00:00Z. -/
  seconds : Int
  nanos : Nat
  deriving DecidableEq

namespace Instant

instance : Inhabited Instant := ⟨⟨0, 0⟩⟩

def before (a b : Instant) : Bool :=
  a.seconds < b.seconds || (a.seconds == b.seconds && a.nanos < b.nanos)

/-- Not later. -/
def atMost (a b : Instant) : Bool := !b.before a

def minusDays (a : Instant) (days : Nat) : Instant := { a with seconds := a.seconds - 86400 * days }

theorem atMost_iff (a b : Instant) :
    a.atMost b = true ↔ a.seconds < b.seconds ∨ (a.seconds = b.seconds ∧ a.nanos ≤ b.nanos) := by
  simp only [atMost, before, Bool.not_eq_true', Bool.or_eq_false_iff, Bool.and_eq_false_iff,
    decide_eq_false_iff_not, beq_eq_false_iff_ne]
  omega

end Instant
end HubConsole.Time
