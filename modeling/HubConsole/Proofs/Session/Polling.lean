import HubConsole.Session.Manager
import Mathlib.Data.List.Induction

namespace HubConsole.Session

/-- Looking comes to an end at a state that is neither disconnected nor connecting. -/
def State.settled : State → Bool
  | .open | .closed => true
  | .disconnected | .connecting => false

namespace Polling

variable {poll : Nat → State} {attempts : Nat}

theorem waitForOpen_succ {seen left : Nat} (h : (poll seen).settled = false) :
    waitForOpen poll seen (left + 1) = waitForOpen poll (seen + 1) left := by
  conv_lhs => unfold waitForOpen
  cases hstate : poll seen with
  | disconnected | connecting => rfl
  | «open» | closed => simp [State.settled, hstate] at h

/-- A settled state ends the looking at once. -/
theorem waitForOpen_settled {seen : Nat} (left : Nat) (h : (poll seen).settled) :
    waitForOpen poll seen left = if poll seen = .open then .ok () else .error .closed := by
  unfold waitForOpen
  cases hstate : poll seen with
  | «open» | closed => rfl
  | disconnected | connecting => simp [State.settled, hstate] at h

theorem waitForOpen_zero {seen : Nat} (h : (poll seen).settled = false) :
    waitForOpen poll seen 0 = .error .timeout := by
  unfold waitForOpen
  cases hstate : poll seen with
  | disconnected | connecting => rfl
  | «open» | closed => simp [State.settled, hstate] at h

theorem waitForOpen_add (n seen left : Nat) (h : ∀ i < n, (poll (seen + i)).settled = false) :
    waitForOpen poll seen (n + left) = waitForOpen poll (seen + n) left := by
  induction n generalizing seen with
  | zero => rw [Nat.zero_add, Nat.add_zero]
  | succ n ih =>
    have hfirst : (poll seen).settled = false := h 0 (Nat.zero_lt_succ n)
    have hrest : ∀ i < n, (poll (seen + 1 + i)).settled = false := fun i hi => by
      rw [Nat.add_assoc, Nat.add_comm 1 i]
      exact h (i + 1) (Nat.succ_lt_succ hi)
    rw [Nat.succ_add, waitForOpen_succ hfirst, ih (seen + 1) hrest, Nat.add_assoc, Nat.add_comm 1 n]

/-- The first of the states that ends the looking. -/
def firstSettled (poll : Nat → State) (attempts : Nat) : Option State :=
  ((List.range (attempts + 1)).map poll).find? State.settled

theorem waitForOpen_eq (seen left : Nat) :
    waitForOpen poll seen left =
      match ((List.range' seen (left + 1)).map poll).find? State.settled with
      | some s => if s = .open then .ok () else .error .closed
      | none => .error .timeout := by
  induction left generalizing seen with
  | zero =>
    rw [List.range'_one, List.map_singleton, List.find?_singleton]
    cases hsettled : (poll seen).settled with
    | false => exact waitForOpen_zero hsettled
    | true => exact waitForOpen_settled 0 hsettled
  | succ left ih =>
    rw [List.range'_succ, List.map_cons, List.find?_cons]
    cases hsettled : (poll seen).settled with
    | false => exact (waitForOpen_succ hsettled).trans (ih (seen + 1))
    | true => exact waitForOpen_settled (left + 1) hsettled

/-- Looking ends as the first settled state among the looks says, and not in time if there is none. -/
theorem waitForOpen_ends (poll : Nat → State) (attempts : Nat) :
    (waitForOpen poll 0 attempts = .ok () ↔ firstSettled poll attempts = some .open) ∧
      (waitForOpen poll 0 attempts = .error .closed ↔ firstSettled poll attempts = some .closed) ∧
      (waitForOpen poll 0 attempts = .error .timeout ↔ firstSettled poll attempts = none) := by
  rw [waitForOpen_eq, ← List.range_eq_range', ← firstSettled]
  cases hfirst : firstSettled poll attempts with
  | none => simp
  | some s =>
    have hsettled : s.settled := List.find?_some hfirst
    cases s <;> simp_all [State.settled]

/-- What a caller that sees these states, one after another, makes of them. -/
def Ends (attempts : Nat) (states : List State) (result : Except CallError Unit) : Prop :=
  ∀ poll : Nat → State, (∀ i (h : i < states.length), poll i = states[i]) →
    waitForOpen poll 0 attempts = result

/-- With no settled state so far, all is left to the next look. -/
theorem ends_snoc {states : List State} {left : Nat} {result : Except CallError Unit} (s : State)
    (hleft : states.length + left = attempts) (hunsettled : ∀ s ∈ states, s.settled = false)
    (hnext : ∀ poll, poll states.length = s → waitForOpen poll states.length left = result) :
    Ends attempts (states ++ [s]) result := by
  intro poll hpoll
  have hlength : (states ++ [s]).length = states.length + 1 := List.length_append
  have hbefore : ∀ i < states.length, (poll (0 + i)).settled = false := fun i hi => by
    rw [Nat.zero_add, hpoll i (by omega), List.getElem_append_left hi]
    exact hunsettled _ (List.getElem_mem hi)
  have hlast : poll states.length = s := by
    rw [hpoll states.length (by omega), List.getElem_concat_length rfl]
  rw [← hleft, waitForOpen_add states.length 0 left hbefore, Nat.zero_add]
  exact hnext poll hlast

end Polling
end HubConsole.Session
