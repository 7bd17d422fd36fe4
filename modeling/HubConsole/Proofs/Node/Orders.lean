import HubConsole.Node.Order

namespace HubConsole.Node

/-- A row of numbers without the zeros at its end. -/
def withoutEndZeros : List Nat → List Nat
  | [] => []
  | x :: xs => if x = 0 ∧ withoutEndZeros xs = [] then [] else x :: withoutEndZeros xs

/-- Nothing comes before a row that is more than zeros. -/
theorem zeros_lt_cons (y : Nat) (ys : List Nat) (h : ¬(y = 0 ∧ ys = [])) :
    (compare 0 y).then (compare [] ys) = .lt := by
  by_cases hy : y = 0
  · subst hy
    have hys : ys ≠ [] := fun hnil => h ⟨rfl, hnil⟩
    obtain ⟨z, zs, rfl⟩ := List.exists_cons_of_ne_nil hys
    rw [List.compare_nil_cons]
    rfl
  · have hlt : compare 0 y = .lt := Nat.compare_eq_lt.mpr (Nat.pos_of_ne_zero hy)
    rw [hlt]
    rfl

theorem cons_gt_zeros (x : Nat) (xs : List Nat) (h : ¬(x = 0 ∧ xs = [])) :
    (compare x 0).then (compare xs []) = .gt := by
  have hswap : (compare x 0).then (compare xs []) = ((compare 0 x).then (compare [] xs)).swap := by
    rw [Ordering.swap_then, ← Std.OrientedCmp.eq_swap, ← Std.OrientedCmp.eq_swap]
  rw [hswap, zeros_lt_cons x xs h]
  rfl

/-- Without the end zeros too, the first numbers decide, and then the rest. -/
theorem compare_withoutEndZeros_cons (x y : Nat) (xs ys : List Nat) :
    compare (withoutEndZeros (x :: xs)) (withoutEndZeros (y :: ys)) =
      (compare x y).then (compare (withoutEndZeros xs) (withoutEndZeros ys)) := by
  -- A row vanishes here if its first number and all after it are zero.
  by_cases hx : x = 0 ∧ withoutEndZeros xs = [] <;> by_cases hy : y = 0 ∧ withoutEndZeros ys = []
  · rw [withoutEndZeros, if_pos hx, withoutEndZeros, if_pos hy, hx.1, hx.2, hy.1, hy.2]
    rfl
  · rw [withoutEndZeros, if_pos hx, withoutEndZeros, if_neg hy, hx.1, hx.2, zeros_lt_cons y _ hy,
      List.compare_nil_cons]
  · rw [withoutEndZeros, if_neg hx, withoutEndZeros, if_pos hy, hy.1, hy.2, cons_gt_zeros x _ hx,
      List.compare_cons_nil]
  · rw [withoutEndZeros, if_neg hx, withoutEndZeros, if_neg hy, List.compare_cons_cons]

theorem compareNumbers_eq (xs ys : List Nat) :
    compareNumbers xs ys = compare (withoutEndZeros xs) (withoutEndZeros ys) := by
  induction xs, ys using compareNumbers.induct with
  | case1 => simp [compareNumbers, withoutEndZeros]
  | case2 x xs ih =>
    rw [compareNumbers, ih]
    exact (compare_withoutEndZeros_cons x 0 xs []).symm
  | case3 y ys ih =>
    rw [compareNumbers, ih]
    exact (compare_withoutEndZeros_cons 0 y [] ys).symm
  | case4 x xs y ys ih =>
    rw [compareNumbers, ih, compare_withoutEndZeros_cons]

/-- The numbers that the address of a node is compared by. -/
def addressKey (n : Summary) : List Nat :=
  withoutEndZeros ((n.address.map addressNumbers).getD [])

/-- The numbers that the version of a node is compared by. -/
def versionKey (n : Summary) : List Nat :=
  withoutEndZeros ((n.version.map (versionNumbers ·.version)).getD [])

theorem byAddress_eq : byAddress = compareOn addressKey := by
  funext a b
  exact compareNumbers_eq _ _

theorem byVersion_eq : byVersion = compareOn versionKey := by
  funext a b
  exact compareNumbers_eq _ _

/-- Each order of the table compares by what it takes from a node, so it is a total preorder. -/
instance SortKey.comparison_transCmp (key : SortKey) : Std.TransCmp key.comparison := by
  cases key with
  | name => exact inferInstanceAs (Std.TransCmp (compareOn Summary.name))
  | address =>
    have hcompare : SortKey.address.comparison = compareOn addressKey := byAddress_eq
    rw [hcompare]
    infer_instance
  | block =>
    exact inferInstanceAs
      (Std.TransCmp (compareOn fun n : Summary => (n.bestBlock.map (·.number)).getD 0))
  | version =>
    have hcompare : SortKey.version.comparison = compareOn versionKey := byVersion_eq
    rw [hcompare]
    infer_instance
  | status => exact inferInstanceAs (Std.TransCmp (compareOn fun n : Summary => n.status.rank))

end HubConsole.Node
