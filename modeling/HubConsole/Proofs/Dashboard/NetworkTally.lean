import HubConsole.Proofs.Dashboard.NetworkLinks
import HubConsole.Proofs.Dashboard.NetworkNodes

namespace HubConsole.Dashboard

open HubConsole.Node

/-- How often a delta has added or changed a node. -/
def Tally.total (t : Tally) : Nat := t.added + t.updated

/-- A patch that finds its node changes that one and leaves those around it. -/
theorem exists_of_mergeFirst? (p : Patch) (ns ms : List Summary) (changed : Bool)
    (h : mergeFirst? p ns = some (ms, changed)) :
    ∃ before n after, ns = before ++ n :: after ∧ ms = before ++ (n.merge p).1 :: after ∧
      changed = !(n.merge p).2.isEmpty := by
  induction ns generalizing ms changed with
  | nil => cases h
  | cons n ns ih =>
    unfold mergeFirst? at h
    split at h
    · obtain ⟨rfl, rfl⟩ := Prod.mk.inj (Option.some.inj h)
      exact ⟨[], n, ns, rfl, rfl, rfl⟩
    · obtain ⟨⟨rest, changedRest⟩, hrest, heq⟩ := Option.map_eq_some_iff.mp h
      obtain ⟨rfl, rfl⟩ := Prod.mk.inj heq
      obtain ⟨before, m, after, hns, hms, hchanged⟩ := ih rest changedRest hrest
      refine ⟨n :: before, m, after, ?_, ?_, hchanged⟩
      · rw [hns, List.cons_append]
      · rw [hms, List.cons_append]

/-- What a patch can do: its node stays as it is, or is changed and counted, or comes up and is counted. -/
theorem applyPatch_cases (s : List Summary × Tally) (p : Patch) :
    applyPatch s p = s ∨
    (∃ before n after, s.1 = before ++ n :: after ∧
      applyPatch s p =
        (before ++ (n.merge p).1 :: after, { s.2 with updated := s.2.updated + 1 })) ∨
    applyPatch s p = (s.1 ++ [.ofPatch p], { s.2 with added := s.2.added + 1 }) := by
  unfold applyPatch
  split
  · next nodes changed hmerge =>
    obtain ⟨before, n, after, hns, rfl, rfl⟩ := exists_of_mergeFirst? p s.1 nodes changed hmerge
    by_cases hfields : (n.merge p).2 = []
    · left
      rw [Summary.merge_of_unchanged hfields, ← hns, hfields]
      rfl
    · right
      left
      refine ⟨before, n, after, hns, ?_⟩
      simp [hfields]
  · right
    right
    rfl

/-- A patch changes nothing or is counted. -/
theorem applyPatch_same_or_counted (s : List Summary × Tally) (p : Patch) :
    applyPatch s p = s ∨ s.2.total < (applyPatch s p).2.total := by
  obtain hsame | ⟨before, n, after, -, hstep⟩ | hstep := applyPatch_cases s p
  · exact .inl hsame
  · right
    simp only [hstep, Tally.total]
    omega
  · right
    simp only [hstep, Tally.total]
    omega

theorem foldl_applyPatch_same_or_counted (ps : List Patch) (s : List Summary × Tally) :
    ps.foldl applyPatch s = s ∨ s.2.total < (ps.foldl applyPatch s).2.total := by
  induction ps generalizing s with
  | nil => exact .inl rfl
  | cons p ps ih =>
    rw [List.foldl_cons]
    rcases applyPatch_same_or_counted s p with hsame | hcounted
    · rw [hsame]
      exact ih s
    · right
      rcases ih (applyPatch s p) with hsame | hmore
      · rw [hsame]
        exact hcounted
      · omega

/-- A delta that counts nothing leaves the nodes as they are. -/
theorem nodes_applyDelta_of_total_eq_zero (n : Network) (d : Network.Delta)
    (h : (applyDelta n d).2.total = 0) : (applyDelta n d).1.nodes = n.nodes := by
  unfold applyDelta at h ⊢
  rcases foldl_applyPatch_same_or_counted (d.nodes.getD []) (n.nodes, .zero) with hsame | hcounted
  · simp only [hsame]
  · simp only [h] at hcounted
    omega

/-- The nodes grow by one just when one is counted as added. -/
theorem length_applyPatch (s : List Summary × Tally) (p : Patch) :
    (applyPatch s p).1.length + s.2.added = s.1.length + (applyPatch s p).2.added := by
  obtain hsame | ⟨before, n, after, hns, hstep⟩ | hstep := applyPatch_cases s p
  · rw [hsame]
  · simp only [hstep, hns, List.length_append, List.length_cons]
  · simp only [hstep, List.length_append, List.length_singleton]
    omega

theorem length_foldl_applyPatch (ps : List Patch) (s : List Summary × Tally) :
    (ps.foldl applyPatch s).1.length + s.2.added = s.1.length + (ps.foldl applyPatch s).2.added := by
  induction ps generalizing s with
  | nil => rfl
  | cons p ps ih =>
    have hstep := length_applyPatch s p
    have hrest := ih (applyPatch s p)
    rw [List.foldl_cons]
    omega

/-- The list of nodes grows by what is counted as added. -/
theorem length_nodes_applyDelta (n : Network) (d : Network.Delta) :
    (applyDelta n d).1.nodes.length = n.nodes.length + (applyDelta n d).2.added :=
  length_foldl_applyPatch (d.nodes.getD []) (n.nodes, .zero)

theorem nodes_applyDelta (n : Network) (d : Network.Delta) :
    (applyDelta n d).1.nodes = replay n.nodes (d.nodes.getD []) :=
  foldl_applyPatch n.nodes (d.nodes.getD []) .zero

theorem nodes_redelivered (n : Network) (d : Network.Delta) :
    (applyDelta (applyDelta n d).1 d).1.nodes = (applyDelta n d).1.nodes := by
  rw [nodes_applyDelta, nodes_applyDelta, ← replay_append, replay_append_self]

/-- What was added is there, and what is not there was removed again. -/
theorem links_redelivered (n : Network) (d : Network.Delta) :
    (applyDelta (applyDelta n d).1 d).1.links = (applyDelta n d).1.links := by
  have hkept : (applyDelta n d).1.links.filter (· ∉ d.linksRemoved.getD []) =
      (applyDelta n d).1.links := by
    apply List.filter_eq_self.mpr
    intro l hl
    simpa using ((mem_links_applyDelta n d l).mp hl).2
  have hnone : (newcomers (applyDelta n d).1.links (d.linksAdded.getD [])).filter
      (· ∉ d.linksRemoved.getD []) = [] := by
    apply List.filter_eq_nil_iff.mpr
    intro l hl hstays
    obtain ⟨hadded, hnew⟩ := (mem_newcomers _ _ l).mp hl
    rw [decide_eq_true_iff] at hstays
    exact hnew ((mem_links_applyDelta n d l).mpr ⟨.inr hadded, hstays⟩)
  rw [links_applyDelta, hkept, hnone, List.append_nil]

theorem applyDelta_redelivered (n : Network) (d : Network.Delta) :
    (applyDelta (applyDelta n d).1 d).1 = (applyDelta n d).1 := by
  have hnodes := nodes_redelivered n d
  have hlinks := links_redelivered n d
  exact Network.mk.injEq .. ▸ ⟨hnodes, hlinks⟩

/-- Redelivery is harmless. A delta that is applied twice in a row leaves the network that it leaves when
applied once, with the same nodes and links in the same order and as often, and the second time no node is
added. Each time the list of nodes grows by what is counted as added, and when nothing is counted the nodes are
as they were. -/
theorem redelivery_changes_nothing (n : Network) (fetching : Bool) (d : Network.Delta) :
    ∃ after first second,
      NetworkStore.apply ⟨some n, fetching⟩ d = (⟨some after, fetching⟩, some first) ∧
      NetworkStore.apply ⟨some after, fetching⟩ d = (⟨some after, fetching⟩, some second) ∧
      second.added = 0 ∧ after.nodes.length = n.nodes.length + first.added ∧
      (first.added = 0 ∧ first.updated = 0 → after.nodes = n.nodes) := by
  refine ⟨(applyDelta n d).1, (applyDelta n d).2, (applyDelta (applyDelta n d).1 d).2, rfl, ?_, ?_,
    length_nodes_applyDelta n d, ?_⟩
  · have hafter := applyDelta_redelivered n d
    simp only [NetworkStore.apply, hafter]
  · have hgrowth := length_nodes_applyDelta (applyDelta n d).1 d
    rw [nodes_redelivered] at hgrowth
    omega
  · rintro ⟨hadded, hupdated⟩
    apply nodes_applyDelta_of_total_eq_zero
    rw [Tally.total, hadded, hupdated]

/-- Patches that contradict each other are counted again, and leave what they left before. -/
example :
    let d : Network.Delta :=
      ⟨some [⟨"a", some "x", none, none, none⟩, ⟨"a", some "y", none, none, none⟩], none, none⟩
    let once := (applyDelta ⟨[.blank "a"], []⟩ d).1
    applyDelta once d = (once, ⟨0, 2⟩) := by
  decide

end HubConsole.Dashboard
