import Mathlib.Data.List.Pairwise

namespace HubConsole.Order

variable {α : Type} (cmp : α → α → Ordering)

/-- The members that compare equal to one, in order. -/
def ties (a : α) (l : List α) : List α := l.filter fun b => cmp a b = .eq

theorem ties_cons_of_eq {a b : α} (h : cmp a b = .eq) (l : List α) :
    ties cmp a (b :: l) = b :: ties cmp a l :=
  List.filter_cons_of_pos (by simpa using h)

theorem ties_cons_of_ne {a b : α} (h : cmp a b ≠ .eq) (l : List α) :
    ties cmp a (b :: l) = ties cmp a l :=
  List.filter_cons_of_neg (by simpa using h)

theorem ties_tail (a c : α) (l m : List α) (h : ties cmp c (a :: l) = ties cmp c (a :: m)) :
    ties cmp c l = ties cmp c m := by
  by_cases htied : cmp c a = .eq
  · rw [ties_cons_of_eq cmp htied, ties_cons_of_eq cmp htied] at h
    exact (List.cons.inj h).2
  · rwa [ties_cons_of_ne cmp htied, ties_cons_of_ne cmp htied] at h

theorem ties_reverse (a : α) (l : List α) : ties cmp a l.reverse = (ties cmp a l).reverse :=
  List.filter_reverse

variable [Std.TransCmp cmp]

theorem mem_ties_self (a : α) (l : List α) : a ∈ ties cmp a l ↔ a ∈ l := by
  simp [ties, Std.ReflCmp.compare_self]

theorem not_gt_trans (a b c : α) (hab : cmp a b ≠ .gt) (hbc : cmp b c ≠ .gt) : cmp a c ≠ .gt := by
  have hle : (cmp a c).isLE := Std.TransCmp.isLE_trans (Ordering.isLE_iff_ne_gt.mpr hab)
    (Ordering.isLE_iff_ne_gt.mpr hbc)
  exact Ordering.isLE_iff_ne_gt.mp hle

theorem not_gt_total (a b : α) : cmp a b ≠ .gt ∨ cmp b a ≠ .gt := by
  by_cases hab : cmp a b = .gt
  · right
    rw [Std.OrientedCmp.gt_iff_lt] at hab
    simp [hab]
  · exact .inl hab

theorem pairwise_mergeSort_cmp (l : List α) :
    (l.mergeSort fun a b => cmp a b != .gt).Pairwise fun a b => cmp a b ≠ .gt := by
  have hsorted : (l.mergeSort fun a b => cmp a b != .gt).Pairwise
      fun a b => (cmp a b != .gt) = true :=
    List.pairwise_mergeSort (by simpa using not_gt_trans cmp) (by simpa using not_gt_total cmp) l
  simpa using hsorted

/-- The sort is stable: what compares equal stays as it came. -/
theorem ties_mergeSort (a : α) (l : List α) :
    ties cmp a (l.mergeSort fun b c => cmp b c != .gt) = ties cmp a l := by
  have htied : (ties cmp a l).Pairwise fun b c => (cmp b c != .gt) = true := by
    refine List.pairwise_of_forall_mem_list fun b hb c hc => ?_
    have hab : cmp a b = .eq := by simpa [ties] using (List.mem_filter.mp hb).2
    have hac : cmp a c = .eq := by simpa [ties] using (List.mem_filter.mp hc).2
    have hbc : cmp b c = .eq := by rw [← Std.TransCmp.congr_left hab, hac]
    simp [hbc]
  have hsub : (ties cmp a l).Sublist (l.mergeSort fun b c => cmp b c != .gt) :=
    List.sublist_mergeSort (by simpa using not_gt_trans cmp) (by simpa using not_gt_total cmp) htied
      List.filter_sublist
  have hties : ties cmp a (ties cmp a l) = ties cmp a l := by
    simp [ties, List.filter_filter]
  have hsubties : (ties cmp a l).Sublist (ties cmp a (l.mergeSort fun b c => cmp b c != .gt)) := by
    have hfiltered : (ties cmp a (ties cmp a l)).Sublist
        (ties cmp a (l.mergeSort fun b c => cmp b c != .gt)) := hsub.filter _
    rwa [hties] at hfiltered
  have hlength : (ties cmp a l).length =
      (ties cmp a (l.mergeSort fun b c => cmp b c != .gt)).length :=
    ((List.mergeSort_perm l _).filter _).length_eq.symm
  exact (hsubties.eq_of_length hlength).symm

theorem mem_iff_of_ties_eq (l m : List α) (h : ∀ a, ties cmp a l = ties cmp a m) (a : α) :
    a ∈ l ↔ a ∈ m := by
  rw [← mem_ties_self cmp a l, h, mem_ties_self]

/-- The head of a sorted list is not greater than any member. -/
theorem head_not_gt {a b : α} {l : List α} (hsorted : (a :: l).Pairwise fun b c => cmp b c ≠ .gt)
    (hb : b ∈ a :: l) : cmp a b ≠ .gt := by
  rcases List.mem_cons.mp hb with rfl | hb
  · simp [Std.ReflCmp.compare_self]
  · exact (List.pairwise_cons.mp hsorted).1 b hb

/-- Sorted lists whose ties are the same in the same order are the same list. -/
theorem eq_of_ties_eq (l m : List α) (hl : l.Pairwise fun a b => cmp a b ≠ .gt)
    (hm : m.Pairwise fun a b => cmp a b ≠ .gt) (h : ∀ a, ties cmp a l = ties cmp a m) : l = m := by
  induction l generalizing m with
  | nil =>
    cases m with
    | nil => rfl
    | cons b m => cases (mem_iff_of_ties_eq cmp _ _ h b).mpr List.mem_cons_self
  | cons a l ih =>
    cases m with
    | nil => cases (mem_iff_of_ties_eq cmp _ _ h a).mp List.mem_cons_self
    | cons b m =>
      -- Each head is in the other list, so neither is the smaller one.
      have hmem := mem_iff_of_ties_eq cmp _ _ h
      have hab : cmp a b ≠ .gt := head_not_gt cmp hl ((hmem b).mpr List.mem_cons_self)
      have hba : cmp b a ≠ .gt := head_not_gt cmp hm ((hmem a).mp List.mem_cons_self)
      have htie : cmp a b = .eq := Std.OrientedCmp.isLE_antisymm
        (Ordering.isLE_iff_ne_gt.mpr hab) (Ordering.isLE_iff_ne_gt.mpr hba)
      -- So each is the first of the ties of `a`, and they are one.
      have hheads := h a
      rw [ties_cons_of_eq cmp Std.ReflCmp.compare_self, ties_cons_of_eq cmp htie] at hheads
      obtain rfl := (List.cons.inj hheads).1
      rw [ih m hl.tail hm.tail fun c => ties_tail cmp a c l m (h c)]

end HubConsole.Order
