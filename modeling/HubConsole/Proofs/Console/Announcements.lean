import HubConsole.Proofs.Console.BoardRun
import HubConsole.Proofs.Dashboard.NetworkTally

namespace HubConsole.Dashboard

open HubConsole.Node

theorem DetailStore.mergeFirst?_of_unchanged (u : Update) (ds es : List Detail)
    (h : mergeFirst? u ds = some (es, [])) : es = ds := by
  induction ds generalizing es with
  | nil => cases h
  | cons d ds ih =>
    unfold mergeFirst? at h
    split at h
    · obtain ⟨rfl, hnone⟩ := Prod.mk.inj (Option.some.inj h)
      rw [Detail.merge_of_unchanged hnone]
    · obtain ⟨⟨rest, changed⟩, hrest, heq⟩ := Option.map_eq_some_iff.mp h
      obtain ⟨rfl, rfl⟩ := Prod.mk.inj heq
      rw [ih rest hrest]

/-- An update that reports no field leaves the records as they are. -/
theorem DetailStore.apply_of_unchanged (s : DetailStore) (u : Update)
    (h : ∀ changed, (s.apply u).2 = some changed → changed = []) : (s.apply u).1 = s := by
  unfold apply at h ⊢
  split
  · next records changed hmerge =>
    rw [hmerge] at h
    obtain rfl := h changed rfl
    rw [mergeFirst?_of_unchanged u s.records records hmerge]
  · rfl

end HubConsole.Dashboard

namespace HubConsole.Console.Board

open HubConsole.Dashboard HubConsole.Time

def nodes (b : Board) : Option (List Node.Summary) := b.store.network.network.map (·.nodes)

def links (b : Board) : Option (List Link) := b.store.network.network.map (·.links)

variable (b : Board)

/-- A delta that nothing is said of leaves the nodes as they are. -/
theorem nodes_of_quiet (d : Network.Delta) (h : (b.apply (.push (.network d))).2 = []) :
    (b.apply (.push (.network d))).1.nodes = b.nodes := by
  cases hknown : b.store.network.network with
  | none => simp [apply, Store.applyPush, NetworkStore.apply, nodes, hknown]
  | some n =>
    have htotal : (applyDelta n d).2.total = 0 := by
      simpa [apply, Store.applyPush, NetworkStore.apply, hknown, pushLines, Tally.total] using h
    have hnodes := nodes_applyDelta_of_total_eq_zero n d htotal
    simp [apply, Store.applyPush, NetworkStore.apply, nodes, hknown, hnodes]

/-- An update that nothing is said of leaves the board as it is. -/
theorem apply_of_quiet_update (u : Node.Update) (h : (b.apply (.push (.node u))).2 = []) :
    (b.apply (.push (.node u))).1 = b := by
  have hnone : ∀ changed, (b.store.details.apply u).2 = some changed → changed = [] := by
    intro changed hchanged
    simpa [apply, Store.applyPush, hchanged, pushLines] using h
  have hsame := DetailStore.apply_of_unchanged b.store.details u hnone
  simp only [apply, Store.applyPush, hsame]

/-- A delta changes the nodes and the links, and nothing else. -/
theorem apply_network_eq_self (d : Network.Delta)
    (hnodes : (b.apply (.push (.network d))).1.nodes = b.nodes)
    (hlinks : (b.apply (.push (.network d))).1.links = b.links) :
    (b.apply (.push (.network d))).1 = b := by
  obtain ⟨⟨⟨known, fetching⟩, details, logs, graph⟩, printed⟩ := b
  cases known with
  | none => rfl
  | some n =>
    have hsame : (applyDelta n d).1 = n := by
      obtain ⟨nodes, links⟩ := n
      exact Network.mk.injEq .. ▸ ⟨Option.some.inj hnodes, Option.some.inj hlinks⟩
    simp only [apply, Store.applyPush, NetworkStore.apply, hsame]

/-- A delta that is about links alone is not said to have done anything. -/
theorem quiet_of_no_nodes (d : Network.Delta) (h : d.nodes.getD [] = []) :
    (b.apply (.push (.network d))).2 = [] := by
  cases hknown : b.store.network.network with
  | none => simp [apply, Store.applyPush, NetworkStore.apply, pushLines, hknown]
  | some n =>
    have htally : (applyDelta n d).2 = .zero := by simp only [applyDelta, h, List.foldl_nil]
    simp [apply, Store.applyPush, NetworkStore.apply, pushLines, hknown, htally, Tally.zero]

/-- All changes are announced save those of the links. When a push changes the nodes or the full records there
is a line to print; one that prints nothing leaves the whole board as it is, unless it changes the links.
For that alone there is never a line. -/
theorem changes_announced_save_links (push : Rpc.Push) :
    let r := b.apply (.push push)
    (r.1.nodes ≠ b.nodes ∨ r.1.store.details ≠ b.store.details → r.2 ≠ []) ∧
    (r.2 = [] → r.1.links = b.links → r.1 = b) ∧
    (∀ d, push = .network d → d.nodes.getD [] = [] → r.2 = []) := by
  cases push with
  | network d =>
    refine ⟨?_, ?_, ?_⟩
    · intro hchanged hquiet
      rcases hchanged with hnodes | hdetails
      · exact hnodes (nodes_of_quiet b d hquiet)
      · exact hdetails rfl
    · intro hquiet hlinks
      exact apply_network_eq_self b d (nodes_of_quiet b d hquiet) hlinks
    · rintro d' ⟨⟩ hnodes
      exact quiet_of_no_nodes b d hnodes
  | node u =>
    refine ⟨?_, ?_, ?_⟩
    · intro hchanged hquiet
      have hsame := apply_of_quiet_update b u hquiet
      rw [hsame] at hchanged
      exact hchanged.elim (absurd rfl) (absurd rfl)
    · intro hquiet _
      exact apply_of_quiet_update b u hquiet
    · intro d hpush
      cases hpush

/-- Two nodes become linked, and nothing is said. -/
theorem new_link_not_announced :
    let b := after ⟨0, 0⟩ [.setNetwork ⟨[.blank "a", .blank "b"], []⟩]
    let r := b.apply (.push (.network ⟨none, some [⟨"a", "b"⟩], none⟩))
    b.links = some [] ∧ r.1.links = some [⟨"a", "b"⟩] ∧ r.2 = [] := by
  decide

end HubConsole.Console.Board
