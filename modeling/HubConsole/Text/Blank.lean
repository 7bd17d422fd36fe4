namespace HubConsole.Text

/-- The characters with the property White_Space, as ranges of code points. -/
def blankRanges : List (Nat × Nat) :=
  [(0x09, 0x0D), (0x20, 0x20), (0x85, 0x85), (0xA0, 0xA0), (0x1680, 0x1680), (0x2000, 0x200A),
   (0x2028, 0x2029), (0x202F, 0x202F), (0x205F, 0x205F), (0x3000, 0x3000)]

/-- Whether a code point lies in one of the ranges. -/
def inRanges (ranges : List (Nat × Nat)) (c : Char) : Bool :=
  ranges.any fun r => r.1 ≤ c.toNat && c.toNat ≤ r.2

def isBlank (c : Char) : Bool := inRanges blankRanges c

/-- Cuts off the longest end whose members all satisfy the test. -/
def dropEnd {α : Type} (p : α → Bool) (l : List α) : List α :=
  (l.reverse.dropWhile p).reverse

def trimEnd (s : String) : String := String.ofList (dropEnd isBlank s.toList)

def trim (s : String) : String :=
  String.ofList (dropEnd isBlank (s.toList.dropWhile isBlank))

/-- A blank text has nothing but blanks. -/
def isBlankText (s : String) : Bool := s.toList.all isBlank

theorem dropEnd_append_of_all {α : Type} {p : α → Bool} {l r : List α} (h : r.all p) :
    dropEnd p (l ++ r) = dropEnd p l := by
  unfold dropEnd
  rw [List.reverse_append, List.dropWhile_append_of_pos]
  intro a ha
  exact List.all_eq_true.1 h a (List.mem_reverse.1 ha)

end HubConsole.Text
