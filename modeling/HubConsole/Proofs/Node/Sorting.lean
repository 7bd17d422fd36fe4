import HubConsole.Proofs.Node.Orders
import HubConsole.Proofs.Order.Ties

namespace HubConsole.Node

open HubConsole.Order

/-- A key's order, or its reverse. -/
def SortKey.directed (key : SortKey) (descending : Bool) (a b : Summary) : Ordering :=
  if descending then key.comparison b a else key.comparison a b

instance SortKey.directed_transCmp (key : SortKey) (descending : Bool) :
    Std.TransCmp (key.directed descending) := by
  cases descending with
  | false => exact inferInstanceAs (Std.TransCmp key.comparison)
  | true => exact inferInstanceAs (Std.TransCmp fun a b => key.comparison b a)

variable (key : SortKey) (descending : Bool) (nodes : List Summary)

theorem sortNodes_eq : sortNodes key descending nodes =
    nodes.mergeSort fun a b => key.directed descending a b != .gt := by
  cases descending <;> rfl

theorem pairwise_sortNodes :
    (sortNodes key descending nodes).Pairwise fun a b => key.directed descending a b ≠ .gt := by
  rw [sortNodes_eq]
  exact pairwise_mergeSort_cmp _ nodes

/-- Nodes compare equal in one direction just when they do in the other. -/
theorem ties_directed (m : Summary) :
    ties (key.directed descending) m nodes = ties key.comparison m nodes := by
  cases descending with
  | false => rfl
  | true =>
    refine List.filter_congr fun n _ => ?_
    rw [decide_eq_decide]
    exact Std.OrientedCmp.eq_comm

theorem ties_sortNodes (m : Summary) :
    ties key.comparison m (sortNodes key descending nodes) = ties key.comparison m nodes := by
  rw [← ties_directed key descending, ← ties_directed key descending, sortNodes_eq, ties_mergeSort]

theorem sortNodes_sortNodes :
    sortNodes key descending (sortNodes key descending nodes) = sortNodes key descending nodes := by
  have hsorted := pairwise_sortNodes key descending nodes
  rw [sortNodes_eq key descending (sortNodes key descending nodes)]
  exact List.mergeSort_of_pairwise (by simpa using hsorted)

/-- The descending table read from its end is the ascending one of the reversed nodes. -/
theorem sortNodes_descending :
    sortNodes key true nodes = (sortNodes key false nodes.reverse).reverse := by
  refine eq_of_ties_eq (key.directed true) _ _ (pairwise_sortNodes key true nodes) ?_ ?_
  · rw [List.pairwise_reverse]
    exact pairwise_sortNodes key false nodes.reverse
  · intro m
    rw [ties_directed, ties_directed, ties_reverse, ties_sortNodes, ties_sortNodes, ties_reverse,
      List.reverse_reverse]

/-- The sorted table is the nodes it was given in another order: each compares not greater than every later one
under the key, or not less if the order is descending, and those that compare equal to one another stand as
they came, in both directions. So sorting again changes nothing, and the descending table is the reverse of the
ascending one of the reversed nodes. -/
theorem sortNodes_sorted_stable :
    let sorted := sortNodes key descending nodes
    sorted.Perm nodes ∧
    sorted.Pairwise (fun a b =>
      if descending then key.comparison a b ≠ .lt else key.comparison a b ≠ .gt) ∧
    (∀ m, sorted.filter (fun n => key.comparison m n = .eq) =
      nodes.filter (fun n => key.comparison m n = .eq)) ∧
    sortNodes key descending sorted = sorted ∧
    sortNodes key true nodes = (sortNodes key false nodes.reverse).reverse := by
  intro sorted
  have hperm : sorted.Perm nodes := by
    change (sortNodes key descending nodes).Perm nodes
    rw [sortNodes_eq]
    exact List.mergeSort_perm nodes _
  have hpairwise : sorted.Pairwise (fun a b =>
      if descending then key.comparison a b ≠ .lt else key.comparison a b ≠ .gt) := by
    refine (pairwise_sortNodes key descending nodes).imp fun {a b} hab => ?_
    cases descending with
    | false => exact hab
    | true =>
      have hswap : key.comparison b a = .gt ↔ key.comparison a b = .lt := Std.OrientedCmp.gt_iff_lt
      exact fun hlt => hab (hswap.mpr hlt)
  exact ⟨hperm, hpairwise, ties_sortNodes key descending nodes,
    sortNodes_sortNodes key descending nodes, sortNodes_descending key nodes⟩

end HubConsole.Node
