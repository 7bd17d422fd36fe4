namespace HubConsole.Text

def digitChar (d : Nat) : Char := Char.ofNat (0x30 + d)

def digitValue (c : Char) : Nat := c.toNat - 0x30

/-- The digits of a number, none in front that could be left out. -/
def digits (n : Nat) : List Char :=
  if n < 10 then [digitChar n] else digits (n / 10) ++ [digitChar (n % 10)]

/-- The number that a row of digits stands for. -/
def valueOf (cs : List Char) : Nat := cs.foldl (fun n c => 10 * n + digitValue c) 0

def natText (n : Nat) : String := String.ofList (digits n)

def intText : Int → String
  | .ofNat n => natText n
  | .negSucc n => String.ofList ('-' :: digits (n + 1))

/-- Reads a row of digits that is not empty. -/
def readDigits (cs : List Char) : Option Nat :=
  if !cs.isEmpty && cs.all Char.isDigit then some (valueOf cs) else none

/-- Reads digits with an optional plus sign in front. -/
def readNatural (s : String) : Option Nat :=
  match s.toList with
  | '+' :: cs => readDigits cs
  | cs => readDigits cs

theorem digitValue_digitChar : ∀ {d : Nat}, d < 10 → digitValue (digitChar d) = d := by decide

theorem isDigit_digitChar : ∀ {d : Nat}, d < 10 → (digitChar d).isDigit = true := by decide

theorem valueOf_append (cs : List Char) (c : Char) :
    valueOf (cs ++ [c]) = 10 * valueOf cs + digitValue c := by
  simp [valueOf, List.foldl_append]

theorem valueOf_digits (n : Nat) : valueOf (digits n) = n := by
  induction n using digits.induct with
  | case1 n h =>
    rw [digits, if_pos h]
    simp [valueOf, digitValue_digitChar h]
  | case2 n h ih =>
    rw [digits, if_neg h, valueOf_append, ih, digitValue_digitChar (Nat.mod_lt _ (by decide))]
    omega

theorem digits_ne_nil (n : Nat) : digits n ≠ [] := by
  rw [digits]
  split <;> simp

theorem all_isDigit_digits (n : Nat) : (digits n).all Char.isDigit = true := by
  induction n using digits.induct with
  | case1 n h =>
    rw [digits, if_pos h]
    simp [isDigit_digitChar h]
  | case2 n h ih =>
    rw [digits, if_neg h, List.all_append, ih]
    simp [isDigit_digitChar (Nat.mod_lt n (show 0 < 10 by decide))]

theorem readDigits_eq_some_iff (cs : List Char) (n : Nat) :
    readDigits cs = some n ↔ cs ≠ [] ∧ cs.all Char.isDigit ∧ valueOf cs = n := by
  rw [readDigits, Option.ite_none_right_eq_some, Option.some_inj, Bool.and_eq_true, and_assoc]
  simp

/-- A natural number is read from its digits, with or without a plus sign. -/
theorem readNatural_eq_some_iff (s : String) (n : Nat) :
    readNatural s = some n ↔
      ∃ ds, (s.toList = ds ∨ s.toList = '+' :: ds) ∧ ds ≠ [] ∧ ds.all Char.isDigit ∧ valueOf ds = n := by
  rw [readNatural]
  split
  · next ds hds =>
    rw [readDigits_eq_some_iff, hds]
    constructor
    · exact fun h => ⟨ds, .inr rfl, h⟩
    · rintro ⟨_, rfl | hsame, h⟩
      · exact absurd (List.all_eq_true.mp h.2.1 '+' List.mem_cons_self) (by decide)
      · rw [(List.cons.inj hsame).2]
        exact h
  · next hplain =>
    rw [readDigits_eq_some_iff]
    constructor
    · exact fun h => ⟨_, .inl rfl, h⟩
    · rintro ⟨ds, hsame | hsame, h⟩
      · rw [hsame]
        exact h
      · exact absurd hsame (hplain ds)

end HubConsole.Text
