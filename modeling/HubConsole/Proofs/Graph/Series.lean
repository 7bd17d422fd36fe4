import HubConsole.Graph.Series
import HubConsole.Proofs.Order.Ties
import HubConsole.Proofs.Text.Utf8
import Mathlib.Data.List.Induction
import Mathlib.Data.List.Nodup
import Mathlib.Data.List.Perm.Basic

namespace HubConsole.Graph

open HubConsole.Order HubConsole.Text HubConsole.Time

/-- The points of a name, as they came. -/
def pointsOf (name : String) (named : List (String × Point)) : List Point :=
  (named.filter (·.1 == name)).map (·.2)

/-- Points sorted by time, those of one time as they came. -/
structure StablySorted (points sorted : List Point) : Prop where
  perm : sorted.Perm points
  inOrder : sorted.Pairwise fun p q => p.1.atMost q.1
  ties : ∀ t, sorted.filter (·.1 = t) = points.filter (·.1 = t)

/-- Named points as one group a name. -/
structure Grouped (named : List (String × Point)) (groups : List (String × List Point)) : Prop where
  names : ∀ name, name ∈ groups.map (·.1) ↔ name ∈ named.map (·.1)
  inByteOrder : (groups.map (·.1)).Pairwise fun a b => utf8 a.toList < utf8 b.toList
  series : ∀ g ∈ groups, StablySorted (pointsOf g.1 named) g.2
  nothingMoved : (groups.flatMap fun g => g.2.map fun p => (g.1, p)).Perm named

theorem mem_insertName (name other : String) (names : List String) :
    other ∈ insertName name names ↔ other = name ∨ other ∈ names := by
  induction names with
  | nil => simp [insertName]
  | cons n ns ih =>
    rw [insertName]
    split_ifs with hlt heq
    · exact List.mem_cons
    · rw [heq, List.mem_cons]
      exact or_self_left.symm
    · rw [List.mem_cons, ih, List.mem_cons]
      exact or_left_comm

theorem pairwise_insertName (name : String) (names : List String) (h : names.Pairwise (· < ·)) :
    (insertName name names).Pairwise (· < ·) := by
  induction names with
  | nil => exact List.pairwise_singleton _ name
  | cons n ns ih =>
    obtain ⟨hhead, htail⟩ := List.pairwise_cons.mp h
    rw [insertName]
    split_ifs with hlt heq
    · refine List.pairwise_cons.mpr ⟨?_, h⟩
      exact List.forall_mem_cons.mpr ⟨hlt, fun m hm => String.lt_trans hlt (hhead m hm)⟩
    · exact h
    · refine List.pairwise_cons.mpr ⟨fun m hm => ?_, ih htail⟩
      rcases (mem_insertName name m ns).mp hm with rfl | hm
      · exact Std.lt_of_le_of_ne (String.not_lt.mp hlt) (Ne.symm heq)
      · exact hhead m hm

theorem mem_distinctNames (names : List String) (name : String) :
    name ∈ distinctNames names ↔ name ∈ names := by
  induction names using List.reverseRecOn with
  | nil => exact Iff.rfl
  | append_singleton names n ih =>
    rw [distinctNames, List.foldl_concat, mem_insertName, List.mem_append, List.mem_singleton, or_comm]
    exact or_congr_left ih

theorem pairwise_distinctNames (names : List String) : (distinctNames names).Pairwise (· < ·) := by
  induction names using List.reverseRecOn with
  | nil => exact .nil
  | append_singleton names n ih =>
    rw [distinctNames, List.foldl_concat]
    exact pairwise_insertName n _ ih

/-- The order of time, to the nanosecond. -/
def byTime : Point → Point → Ordering :=
  compareLex (compareOn fun p => p.1.seconds) (compareOn fun p => p.1.nanos)

instance : Std.TransCmp byTime :=
  inferInstanceAs (Std.TransCmp (compareLex (compareOn fun p : Point => p.1.seconds)
    (compareOn fun p : Point => p.1.nanos)))

theorem byTime_eq_iff (p q : Point) : byTime p q = .eq ↔ q.1 = p.1 := by
  have hseconds : compare p.1.seconds q.1.seconds = .eq ↔ p.1.seconds = q.1.seconds := Std.compare_eq_iff_eq
  have hnanos : compare p.1.nanos q.1.nanos = .eq ↔ p.1.nanos = q.1.nanos := Std.compare_eq_iff_eq
  rw [byTime, compareLex_eq_eq, compareOn, compareOn, hseconds, hnanos, eq_comm (a := q.1)]
  exact (Instant.mk.injEq ..).to_iff.symm

theorem atMost_eq (p q : Point) : p.1.atMost q.1 = (byTime p q != .gt) := by
  rw [Bool.eq_iff_iff, Instant.atMost_iff, bne_iff_ne, byTime, compareLex, compareOn, compareOn]
  rcases Int.lt_trichotomy p.1.seconds q.1.seconds with hlt | heq | hgt
  · rw [Int.compare_eq_lt.mpr hlt]
    simp [hlt]
  · rw [Int.compare_eq_eq.mpr heq]
    simp [heq, Nat.compare_ne_gt]
  · rw [Int.compare_eq_gt.mpr hgt]
    simp
    omega

theorem stablySorted_inTimeOrder (points : List Point) : StablySorted points (inTimeOrder points) := by
  have hsort : inTimeOrder points = points.mergeSort fun p q => byTime p q != .gt := by
    simp only [inTimeOrder, atMost_eq]
  refine ⟨List.mergeSort_perm points _, ?_, fun t => ?_⟩
  · rw [hsort]
    refine (pairwise_mergeSort_cmp byTime points).imp fun {p q} hpq => ?_
    rw [atMost_eq]
    exact bne_iff_ne.mpr hpq
  · -- Points of one time are those that compare equal to any of that time.
    have hties (l : List Point) : l.filter (·.1 = t) = ties byTime (t, .zero) l := by
      simp only [ties, byTime_eq_iff]
    rw [hties, hties, hsort, ties_mergeSort]

/-- The members with one of some keys are those of each key, one key after the other. -/
theorem flatMap_filter_perm {α : Type} (keys : List String) (hkeys : keys.Nodup) (l : List (String × α)) :
    (keys.flatMap fun k => l.filter (·.1 == k)).Perm (l.filter (·.1 ∈ keys)) := by
  induction keys with
  | nil => simp
  | cons k keys ih =>
    obtain ⟨hk, hkeys⟩ := List.nodup_cons.mp hkeys
    have hfirst : (l.filter (·.1 ∈ k :: keys)).filter (·.1 == k) = l.filter (·.1 == k) := by
      rw [List.filter_filter]
      refine List.filter_congr fun a _ => ?_
      by_cases ha : a.1 = k <;> simp [ha]
    have hrest : (l.filter (·.1 ∈ k :: keys)).filter (fun a => !(a.1 == k)) = l.filter (·.1 ∈ keys) := by
      rw [List.filter_filter]
      refine List.filter_congr fun a _ => ?_
      by_cases ha : a.1 = k
      · simp [ha, hk]
      · simp [ha]
    have hparts : (l.filter (·.1 == k) ++ l.filter (·.1 ∈ keys)).Perm (l.filter (·.1 ∈ k :: keys)) := by
      conv_lhs => rw [← hfirst, ← hrest]
      exact List.filter_append_perm _ _
    rw [List.flatMap_cons]
    exact ((ih hkeys).append_left _).trans hparts

theorem map_pointsOf (name : String) (named : List (String × Point)) :
    (pointsOf name named).map (fun p => (name, p)) = named.filter (·.1 == name) := by
  have hname : ∀ a ∈ named.filter (·.1 == name), (name, a.2) = a := by
    intro a ha
    have heq : a.1 = name := by simpa using (List.mem_filter.mp ha).2
    rw [← heq]
  rw [pointsOf, List.map_map]
  exact (List.map_congr_left hname).trans (List.map_id _)

theorem grouped_group (named : List (String × Point)) : Grouped named (group named) := by
  have hnames : (group named).map (·.1) = distinctNames (named.map (·.1)) := by
    rw [group, List.map_map]
    exact List.map_id _
  have hpairwise := pairwise_distinctNames (named.map (·.1))
  refine ⟨fun name => ?_, ?_, ?_, ?_⟩
  · rw [hnames, mem_distinctNames]
  · rw [hnames]
    exact hpairwise.imp fun hlt => utf8_lt_utf8 _ _ hlt
  · refine List.forall_mem_map.mpr fun name _ => ?_
    exact stablySorted_inTimeOrder _
  · have hall : named.filter (·.1 ∈ distinctNames (named.map (·.1))) = named := by
      refine List.filter_eq_self.mpr fun a ha => ?_
      exact decide_eq_true ((mem_distinctNames _ _).mpr (List.mem_map_of_mem ha))
    have hdistinct : (distinctNames (named.map (·.1))).Nodup := hpairwise.imp String.ne_of_lt
    have hparts := flatMap_filter_perm _ hdistinct named
    rw [hall] at hparts
    rw [group, List.flatMap_map]
    refine List.Perm.trans (List.Perm.flatMap_left _ fun name _ => ?_) hparts
    have hpart := (stablySorted_inTimeOrder (pointsOf name named)).perm.map fun p => (name, p)
    rwa [map_pointsOf] at hpart

namespace Grouped

variable {named : List (String × Point)} {groups : List (String × List Point)}

theorem groups_ne_nil (h : Grouped named groups) (hnamed : named ≠ []) : groups ≠ [] := by
  rintro rfl
  exact hnamed h.nothingMoved.nil_eq.symm

/-- No group is without points. -/
theorem points_ne_nil (h : Grouped named groups) {g : String × List Point} (hg : g ∈ groups) : g.2 ≠ [] := by
  obtain ⟨a, ha, hname⟩ := List.mem_map.mp ((h.names g.1).mp (List.mem_map_of_mem hg))
  have hpoint : a.2 ∈ pointsOf g.1 named :=
    List.mem_map_of_mem (List.mem_filter.mpr ⟨ha, beq_iff_eq.mpr hname⟩)
  exact List.ne_nil_of_mem ((h.series g hg).perm.mem_iff.mpr hpoint)

end Grouped

end HubConsole.Graph
