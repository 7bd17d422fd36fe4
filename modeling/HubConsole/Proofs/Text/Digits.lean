import HubConsole.Power
import HubConsole.Text.Blank
import HubConsole.Text.Digits
import Mathlib.Data.List.Induction

namespace HubConsole.Text

theorem isDigit_iff (c : Char) : c.isDigit = true ↔ 48 ≤ c.toNat ∧ c.toNat ≤ 57 := by
  simp only [Char.isDigit, Bool.and_eq_true, decide_eq_true_eq]
  exact Iff.rfl

theorem isBlank_of_isDigit (c : Char) (h : c.isDigit) : isBlank c = false := by
  rw [isDigit_iff] at h
  simp only [isBlank, inRanges, blankRanges, List.any_cons, List.any_nil, Bool.or_false,
    Bool.or_eq_false_iff, Bool.and_eq_false_iff, decide_eq_false_iff_not]
  omega

theorem valueOf_zeros (n : Nat) (cs : List Char) :
    valueOf (List.replicate n '0' ++ cs) = valueOf cs := by
  induction n with
  | zero => rfl
  | succ n ih =>
    rw [← ih, List.replicate_succ]
    rfl

theorem valueOf_lt (cs : List Char) (h : cs.all Char.isDigit) : valueOf cs < tenTo cs.length := by
  induction cs using List.reverseRecOn with
  | nil => exact zero_lt_tenTo 0
  | append_singleton cs c ih =>
    rw [List.all_append, Bool.and_eq_true] at h
    have hc : c.isDigit := by simpa using h.2
    rw [isDigit_iff] at hc
    have hrest := ih h.1
    rw [valueOf_append, List.length_append, List.length_singleton, tenTo_succ, digitValue]
    omega

theorem length_digits_le (n k : Nat) (h : n < tenTo (k + 1)) : (digits n).length ≤ k + 1 := by
  induction k generalizing n with
  | zero =>
    have hlow : n < 10 := h
    rw [digits, if_pos hlow]
    exact Nat.le_refl 1
  | succ k ih =>
    rw [digits]
    split
    · exact Nat.succ_le_succ (Nat.zero_le _)
    · rw [tenTo_succ] at h
      have hrest := ih (n / 10) (by omega)
      rw [List.length_append, List.length_singleton]
      omega

/-- A row of digits ends before the first character that is none. -/
theorem takeWhile_isDigit_append (ds rest : List Char) (hds : ∀ c ∈ ds, c.isDigit)
    (hrest : ∀ c ∈ rest.head?, c.isDigit = false) : (ds ++ rest).takeWhile Char.isDigit = ds := by
  have hnone : rest.takeWhile Char.isDigit = [] := by
    cases rest with
    | nil => rfl
    | cons c rest =>
      have hc : c.isDigit = false := hrest c rfl
      simp [hc]
  rw [List.takeWhile_append_of_pos hds, hnone, List.append_nil]

/-- The text of a number ends in a digit. -/
theorem exists_digit_getLast?_intText (n : Int) : ∃ c, (intText n).toList.getLast? = some c ∧ c.isDigit := by
  have hdigits (front : List Char) (m : Nat) : ∃ c, (front ++ digits m).getLast? = some c ∧ c.isDigit := by
    have hlast := List.getLast?_eq_some_getLast (digits_ne_nil m)
    refine ⟨(digits m).getLast (digits_ne_nil m), ?_, ?_⟩
    · rw [List.getLast?_append, hlast, Option.some_or]
    · exact List.all_eq_true.mp (all_isDigit_digits m) _ (List.getLast_mem _)
  cases n with
  | ofNat m =>
    rw [intText, natText, String.toList_ofList]
    exact hdigits [] m
  | negSucc m =>
    rw [intText, String.toList_ofList]
    exact hdigits ['-'] (m + 1)

end HubConsole.Text
