import HubConsole.Proofs.Dashboard.NetworkRun

namespace HubConsole.Dashboard

theorem foldl_addLink (links added : List Link) :
    added.foldl addLink links = links ++ newcomers links added := by
  induction added using List.reverseRecOn with
  | nil => exact (List.append_nil links).symm
  | append_singleton added l ih =>
    rw [List.foldl_concat, ih, addLink]
    have hmem : l ∈ links ++ newcomers links added ↔ l ∈ links ∨ l ∈ added := by
      rw [List.mem_append, mem_newcomers]
      tauto
    split
    · next h => rw [newcomers_snoc_of_mem links added l (hmem.mp h)]
    · next h =>
      obtain ⟨hlinks, hadded⟩ := not_or.mp (hmem.not.mp h)
      rw [newcomers_snoc_of_not_mem links added l hlinks hadded, List.append_assoc]

theorem links_applyDelta (n : Network) (d : Network.Delta) :
    (applyDelta n d).1.links =
      n.links.filter (· ∉ d.linksRemoved.getD []) ++
        (newcomers n.links (d.linksAdded.getD [])).filter (· ∉ d.linksRemoved.getD []) := by
  unfold applyDelta
  dsimp only
  rw [foldl_addLink, List.filter_append]

theorem mem_links_applyDelta (n : Network) (d : Network.Delta) (l : Link) :
    l ∈ (applyDelta n d).1.links ↔
      (l ∈ n.links ∨ l ∈ d.linksAdded.getD []) ∧ l ∉ d.linksRemoved.getD [] := by
  rw [links_applyDelta, ← List.filter_append, List.mem_filter, List.mem_append, mem_newcomers,
    decide_eq_true_iff]
  tauto

theorem nodup_links_applyDelta (n : Network) (d : Network.Delta) (h : n.links.Nodup) :
    (applyDelta n d).1.links.Nodup := by
  rw [links_applyDelta, ← List.filter_append]
  exact (nodup_append_newcomers _ _ h).filter _

/-- How often a link is there after a delta, from how often it was. -/
def copiesAfter (l : Link) (copies : Nat) (d : Network.Delta) : Nat :=
  if l ∈ d.linksRemoved.getD [] then 0
  else if l ∈ d.linksAdded.getD [] then max copies 1
  else copies

theorem count_newcomers (links added : List Link) (l : Link) :
    (newcomers links added).count l = if l ∉ links ∧ l ∈ added then 1 else 0 := by
  split
  · next h =>
    exact List.count_eq_one_of_mem (nodup_newcomers links added) ((mem_newcomers ..).mpr h.symm)
  · next h => exact List.count_eq_zero.mpr fun hmem => h ((mem_newcomers ..).mp hmem).symm

theorem count_links_applyDelta (n : Network) (d : Network.Delta) (l : Link) :
    (applyDelta n d).1.links.count l = copiesAfter l (n.links.count l) d := by
  unfold copiesAfter
  by_cases hremoved : l ∈ d.linksRemoved.getD []
  · rw [if_pos hremoved, List.count_eq_zero, mem_links_applyDelta]
    exact fun h => h.2 hremoved
  · rw [if_neg hremoved, links_applyDelta, ← List.filter_append,
      List.count_filter (by simpa using hremoved), List.count_append, count_newcomers]
    by_cases hlinks : l ∈ n.links
    · have hpos := List.count_pos_iff.mpr hlinks
      simp only [hlinks, not_true_eq_false, false_and, if_false]
      split <;> omega
    · rw [List.count_eq_zero.mpr hlinks]
      simp only [hlinks, not_false_eq_true, true_and, Nat.zero_add, Nat.max_eq_right (Nat.zero_le 1)]

theorem nodup_links_withDeltas (n : Network) (ds : List Network.Delta) (h : n.links.Nodup) :
    (NetworkStore.withDeltas n ds).links.Nodup := by
  induction ds using List.reverseRecOn with
  | nil => exact h
  | append_singleton ds d ih =>
    rw [NetworkStore.withDeltas_snoc]
    exact nodup_links_applyDelta _ d ih

theorem count_links_withDeltas (n : Network) (ds : List Network.Delta) (l : Link) :
    (NetworkStore.withDeltas n ds).links.count l = ds.foldl (copiesAfter l) (n.links.count l) := by
  induction ds using List.reverseRecOn with
  | nil => rfl
  | append_singleton ds d ih =>
    rw [NetworkStore.withDeltas_snoc, count_links_applyDelta, ih, List.foldl_concat]

/-- A link that no delta names is there as often as before. -/
theorem foldl_copiesAfter_of_unnamed (l : Link) (copies : Nat) (ds : List Network.Delta)
    (h : ∀ d ∈ ds, l ∉ d.linksAdded.getD [] ∧ l ∉ d.linksRemoved.getD []) :
    ds.foldl (copiesAfter l) copies = copies := by
  induction ds with
  | nil => rfl
  | cons d ds ih =>
    obtain ⟨hadded, hremoved⟩ := h d List.mem_cons_self
    rw [List.foldl_cons, copiesAfter, if_neg hremoved, if_neg hadded]
    exact ih fun e he => h e (List.mem_cons_of_mem d he)

/-- The links follow the deltas. After one delta the old links that are not removed are there, in order and as
often as before, and then the added ones that are new and not removed, once each, in the order in which they
first come up. Over a run of deltas, links that are all different stay so, how often a link is there is
settled by what the deltas say of it alone, and one that they do not name, though they may name its reverse,
is there as often as before. -/
theorem links_follow_deltas (s : NetworkStore) (n : Network) (h : s.network = some n) :
    (∀ d, ∃ n', (s.apply d).1.network = some n' ∧
      n'.links = n.links.filter (· ∉ d.linksRemoved.getD []) ++
        (newcomers n.links (d.linksAdded.getD [])).filter (· ∉ d.linksRemoved.getD []) ∧
      ∀ l, l ∈ n'.links ↔
        (l ∈ n.links ∨ l ∈ d.linksAdded.getD []) ∧ l ∉ d.linksRemoved.getD []) ∧
    ∀ as, (∀ a ∈ as, a.snapshot? = none) → ∃ n', (s.run as).network = some n' ∧
      (n.links.Nodup → n'.links.Nodup) ∧
      ∀ l, n'.links.count l = (NetworkStore.deltas as).foldl (copiesAfter l) (n.links.count l) ∧
        ((∀ d ∈ NetworkStore.deltas as, l ∉ d.linksAdded.getD [] ∧ l ∉ d.linksRemoved.getD []) →
          n'.links.count l = n.links.count l) := by
  constructor
  · intro d
    exact ⟨_, NetworkStore.apply_of_some s n d h, links_applyDelta n d, mem_links_applyDelta n d⟩
  · intro as hnone
    refine ⟨_, NetworkStore.run_of_some s n h hnone, nodup_links_withDeltas n _, fun l => ?_⟩
    have hcount := count_links_withDeltas n (NetworkStore.deltas as) l
    refine ⟨hcount, fun hunnamed => ?_⟩
    rw [hcount, foldl_copiesAfter_of_unnamed l _ _ hunnamed]

/-- A reverse is added and removed again, with repeats and links that are already there. -/
theorem links_beside_reverse :
    let ab : Link := ⟨"a", "b"⟩
    let ba : Link := ⟨"b", "a"⟩
    let bc : Link := ⟨"b", "c"⟩
    let cd : Link := ⟨"c", "d"⟩
    let s : NetworkStore := ⟨some ⟨[], [ab, bc]⟩, false⟩
    (∃ n', (s.apply ⟨none, some [ba, cd, cd, ab], some [bc]⟩).1.network = some n' ∧
        n'.links = [ab, ba, cd]) ∧
      ∃ n', (s.run [.apply ⟨none, some [ba], none⟩, .fetchFailed,
          .apply ⟨none, none, some [ba]⟩]).network = some n' ∧
        n'.links.Nodup ∧ n'.links.count ab = 1 := by
  intro ab ba bc cd s
  obtain ⟨hdelta, hrun⟩ := links_follow_deltas s ⟨[], [ab, bc]⟩ rfl
  obtain ⟨n, hn, hlinks, -⟩ := hdelta ⟨none, some [ba, cd, cd, ab], some [bc]⟩
  refine ⟨⟨n, hn, hlinks⟩, ?_⟩
  obtain ⟨n, hn, hnodup, hcount⟩ := hrun [.apply ⟨none, some [ba], none⟩, .fetchFailed,
    .apply ⟨none, none, some [ba]⟩] (by simp [NetworkStore.Action.snapshot?])
  refine ⟨n, hn, hnodup (by decide), ?_⟩
  exact (hcount ab).2 (by simp [NetworkStore.deltas, NetworkStore.Action.delta?, ab, ba])

end HubConsole.Dashboard
