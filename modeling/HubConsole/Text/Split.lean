namespace HubConsole.Text

/-- The parts of a text between separators; there is always one more than separators. -/
def splitAt (separator : Char → Bool) : List Char → List (List Char)
  | [] => [[]]
  | c :: cs =>
    if separator c then [] :: splitAt separator cs
    else match splitAt separator cs with
      | part :: parts => (c :: part) :: parts
      | [] => [[c]]

/-- What comes before the first character that passes the test, and the rest from there. -/
def cutBefore (p : Char → Bool) (cs : List Char) : List Char × List Char :=
  cs.span fun c => !p c

theorem splitAt_ne_nil (separator : Char → Bool) (cs : List Char) : splitAt separator cs ≠ [] := by
  cases cs with
  | nil => simp [splitAt]
  | cons c cs =>
    rw [splitAt]
    split
    · simp
    · split <;> simp

end HubConsole.Text
