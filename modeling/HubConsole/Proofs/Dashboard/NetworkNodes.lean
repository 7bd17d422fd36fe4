import HubConsole.Proofs.Dashboard.NetworkRun
import HubConsole.Proofs.Node.Overwrite

namespace HubConsole.Dashboard

open HubConsole.Node

/-- Changes the first node of each name, save the names in `seen`. -/
def mapFirsts (f : Summary → Summary) (seen : List String) : List Summary → List Summary
  | [] => []
  | n :: ns => (if n.name ∈ seen then n else f n) :: mapFirsts f (n.name :: seen) ns

section MapFirsts

variable (f : Summary → Summary)

theorem names_mapFirsts (hf : ∀ n, (f n).name = n.name) (seen : List String) (ns : List Summary) :
    (mapFirsts f seen ns).map (·.name) = ns.map (·.name) := by
  induction ns generalizing seen with
  | nil => rfl
  | cons n ns ih =>
    simp only [mapFirsts, List.map_cons, ih]
    split
    · rfl
    · rw [hf]

theorem mapFirsts_snoc (seen : List String) (ns : List Summary) (m : Summary)
    (hseen : m.name ∉ seen) (hnew : m.name ∉ ns.map (·.name)) :
    mapFirsts f seen (ns ++ [m]) = mapFirsts f seen ns ++ [f m] := by
  induction ns generalizing seen with
  | nil => simp only [List.nil_append, mapFirsts, if_neg hseen]
  | cons n ns ih =>
    rw [List.map_cons, List.mem_cons, not_or] at hnew
    have hrest : m.name ∉ n.name :: seen := by
      rw [List.mem_cons, not_or]
      exact ⟨hnew.1, hseen⟩
    simp only [List.cons_append, mapFirsts, ih _ hrest hnew.2]

/-- Only what becomes of the nodes whose names are not seen matters. -/
theorem mapFirsts_congr (g : Summary → Summary) (seen : List String) (ns : List Summary)
    (h : ∀ n ∈ ns, n.name ∉ seen → f n = g n) : mapFirsts f seen ns = mapFirsts g seen ns := by
  induction ns generalizing seen with
  | nil => rfl
  | cons n ns ih =>
    have hrest : mapFirsts f (n.name :: seen) ns = mapFirsts g (n.name :: seen) ns := by
      refine ih _ fun m hm hseen => h m (List.mem_cons_of_mem n hm) ?_
      exact fun hmem => hseen (List.mem_cons_of_mem _ hmem)
    simp only [mapFirsts, hrest]
    split
    · rfl
    · next hseen => rw [h n List.mem_cons_self hseen]

/-- The first node of a name that is not seen is the changed one. -/
theorem find?_mapFirsts (hf : ∀ n, (f n).name = n.name) (seen : List String) (ns : List Summary)
    (name : String) (hseen : name ∉ seen) :
    (mapFirsts f seen ns).find? (·.name == name) = (ns.find? (·.name == name)).map f := by
  induction ns generalizing seen with
  | nil => rfl
  | cons n ns ih =>
    by_cases hname : n.name = name
    · subst hname
      simp only [mapFirsts, if_neg hseen, List.find?_cons, hf, beq_self_eq_true, Option.map_some]
    · have hother : ((if n.name ∈ seen then n else f n).name == name) = false := by
        split
        · simpa using hname
        · simpa [hf] using hname
      have hrest : name ∉ n.name :: seen := by
        rw [List.mem_cons, not_or]
        exact ⟨fun h => hname h.symm, hseen⟩
      simp only [mapFirsts, List.find?_cons, hother, beq_eq_false_iff_ne.mpr hname, ih _ hrest]

/-- A node with a name that was used before it stays as it is. -/
theorem getElem?_mapFirsts (seen : List String) (ns : List Summary) (i : Nat) (m : Summary)
    (hi : ns[i]? = some m) (hused : m.name ∈ seen ∨ m.name ∈ (ns.map (·.name)).take i) :
    (mapFirsts f seen ns)[i]? = some m := by
  induction ns generalizing seen i with
  | nil => cases hi
  | cons n ns ih =>
    cases i with
    | zero =>
      obtain rfl := Option.some.inj hi
      have hseen : n.name ∈ seen := by simpa using hused
      simp only [mapFirsts, if_pos hseen, List.getElem?_cons_zero]
    | succ i =>
      simp only [mapFirsts, List.getElem?_cons_succ]
      refine ih _ i hi ?_
      rw [List.map_cons, List.take_succ_cons, List.mem_cons] at hused
      rw [List.mem_cons]
      tauto

end MapFirsts

theorem mergeFirst?_cons (p : Patch) (n : Summary) (ns : List Summary) :
    (mergeFirst? p (n :: ns)).map Prod.fst =
      if n.name = p.name then some ((n.merge p).1 :: ns)
      else ((mergeFirst? p ns).map Prod.fst).map (n :: ·) := by
  simp only [mergeFirst?]
  split
  · rfl
  · rw [Option.map_map, Option.map_map]
    rfl

theorem mergeFirst?_of_not_mem (p : Patch) (ns : List Summary) (h : p.name ∉ ns.map (·.name)) :
    mergeFirst? p ns = none := by
  induction ns with
  | nil => rfl
  | cons n ns ih =>
    rw [List.map_cons, List.mem_cons, not_or] at h
    simp only [mergeFirst?, if_neg (Ne.symm h.1), ih h.2, Option.map_none]

/-- A patch meets the first node of its name. -/
theorem mergeFirst?_mapFirsts (p : Patch) (f : Summary → Summary) (hf : ∀ n, (f n).name = n.name)
    (seen : List String) (ns : List Summary) (hseen : p.name ∉ seen)
    (hmem : p.name ∈ ns.map (·.name)) :
    (mergeFirst? p (mapFirsts f seen ns)).map Prod.fst =
      some (mapFirsts (fun n => if n.name = p.name then ((f n).merge p).1 else f n) seen ns) := by
  induction ns generalizing seen with
  | nil => cases hmem
  | cons n ns ih =>
    by_cases hname : n.name = p.name
    · have hfirst : n.name ∉ seen := hname ▸ hseen
      -- The nodes after it see its name, so nothing changes in them.
      have hrest : mapFirsts (fun n => if n.name = p.name then ((f n).merge p).1 else f n)
          (n.name :: seen) ns = mapFirsts f (n.name :: seen) ns := by
        refine mapFirsts_congr _ _ _ _ fun m _ hm => ?_
        have hother : m.name ≠ p.name := fun h => hm (by simp [h, hname])
        exact if_neg hother
      simp only [mapFirsts, mergeFirst?_cons, if_neg hfirst, hf, if_pos hname, hrest]
    · have hother : (if n.name ∈ seen then n else f n).name ≠ p.name := by
        split
        · exact hname
        · rw [hf]
          exact hname
      have hnext : p.name ∉ n.name :: seen := by
        rw [List.mem_cons, not_or]
        exact ⟨Ne.symm hname, hseen⟩
      have hlater : p.name ∈ ns.map (·.name) := by
        rcases List.mem_cons.mp hmem with h | h
        · exact absurd h.symm hname
        · exact h
      simp only [mapFirsts, mergeFirst?_cons, if_neg hother, ih _ hnext hlater, Option.map_some,
        if_neg hname]

/-- The patches of one node. -/
def patchesOf (name : String) (ps : List Patch) : List Patch := ps.filter (·.name == name)

theorem patchesOf_snoc (name : String) (ps : List Patch) (p : Patch) :
    patchesOf name (ps ++ [p]) =
      if p.name = name then patchesOf name ps ++ [p] else patchesOf name ps := by
  simp only [patchesOf, List.filter_append, List.filter_cons, List.filter_nil, beq_iff_eq]
  split
  · rfl
  · exact List.append_nil _

theorem patchesOf_append (name : String) (ps qs : List Patch) :
    patchesOf name (ps ++ qs) = patchesOf name ps ++ patchesOf name qs :=
  List.filter_append ..

/-- A node with the values that the patches of its name carry last. -/
def patched (ps : List Patch) (n : Summary) : Summary := n.overwritten (patchesOf n.name ps)

/-- The names that the patches bring up. -/
def newNames (ns : List Summary) (ps : List Patch) : List String :=
  newcomers (ns.map (·.name)) (ps.map (·.name))

/-- The nodes after some patches: the first of each name is patched, and a name that comes up starts from a
blank node. -/
def replay (ns : List Summary) (ps : List Patch) : List Summary :=
  mapFirsts (patched ps) [] (ns ++ (newNames ns ps).map .blank)

theorem patched_name (ps : List Patch) (n : Summary) : (patched ps n).name = n.name := rfl

theorem names_blanks (ns : List Summary) (names : List String) :
    (ns ++ names.map Summary.blank).map (·.name) = ns.map (·.name) ++ names := by
  rw [List.map_append, List.map_map]
  congr 1
  exact List.map_id names

theorem names_replay (ns : List Summary) (ps : List Patch) :
    (replay ns ps).map (·.name) = ns.map (·.name) ++ newNames ns ps := by
  unfold replay
  rw [names_mapFirsts _ (patched_name ps), names_blanks]

theorem mem_names_replay (ns : List Summary) (ps : List Patch) (name : String) :
    name ∈ ns.map (·.name) ++ newNames ns ps ↔
      name ∈ ns.map (·.name) ∨ name ∈ ps.map (·.name) := by
  rw [List.mem_append, newNames, mem_newcomers]
  tauto

theorem applyPatch_of_some (ns ms : List Summary) (t : Tally) (p : Patch)
    (h : (mergeFirst? p ns).map Prod.fst = some ms) : (applyPatch (ns, t) p).1 = ms := by
  obtain ⟨r, hr, rfl⟩ := Option.map_eq_some_iff.mp h
  simp only [applyPatch, hr]

theorem applyPatch_of_none (ns : List Summary) (t : Tally) (p : Patch)
    (h : p.name ∉ ns.map (·.name)) : (applyPatch (ns, t) p).1 = ns ++ [.ofPatch p] := by
  simp only [applyPatch, mergeFirst?_of_not_mem p ns h]

theorem patched_snoc_of_ne (ps : List Patch) (p : Patch) (n : Summary) (h : n.name ≠ p.name) :
    patched (ps ++ [p]) n = patched ps n := by
  unfold patched
  rw [patchesOf_snoc, if_neg (Ne.symm h)]

theorem patched_snoc_of_eq (ps : List Patch) (p : Patch) (n : Summary) (h : n.name = p.name) :
    patched (ps ++ [p]) n = ((patched ps n).merge p).1 := by
  unfold patched
  rw [patchesOf_snoc, if_pos h.symm, Summary.merge_overwritten]

/-- A node that comes up with a patch holds what the patch carries. -/
theorem patched_blank (ps : List Patch) (p : Patch) (h : p.name ∉ ps.map (·.name)) :
    patched (ps ++ [p]) (.blank p.name) = .ofPatch p := by
  have hnone : patchesOf p.name ps = [] := by
    refine List.filter_eq_nil_iff.mpr fun q hq hsame => h ?_
    exact List.mem_map.mpr ⟨q, hq, eq_of_beq hsame⟩
  have hbase : patched ps (.blank p.name) = .blank p.name := by
    change (Summary.blank p.name).overwritten (patchesOf p.name ps) = _
    rw [hnone, Summary.overwritten_nil]
  rw [patched_snoc_of_eq ps p _ rfl, hbase, Summary.merge_eq_overwrite, Summary.ofPatch_eq_overwrite]

/-- A patch for a known name changes the first node of that name. -/
theorem applyPatch_replay_of_mem (ns : List Summary) (ps : List Patch) (t : Tally) (p : Patch)
    (hmem : p.name ∈ ns.map (·.name) ∨ p.name ∈ ps.map (·.name)) :
    (applyPatch (replay ns ps, t) p).1 = replay ns (ps ++ [p]) := by
  have hnames : newNames ns (ps ++ [p]) = newNames ns ps := by
    unfold newNames
    rw [List.map_append]
    exact newcomers_snoc_of_mem _ _ _ hmem
  have hknown : p.name ∈ (ns ++ (newNames ns ps).map Summary.blank).map (·.name) := by
    rw [names_blanks]
    exact (mem_names_replay ns ps p.name).mpr hmem
  apply applyPatch_of_some
  unfold replay
  rw [hnames, mergeFirst?_mapFirsts p _ (patched_name ps) [] _ List.not_mem_nil hknown]
  congr 1
  refine mapFirsts_congr _ _ _ _ fun n _ _ => ?_
  split
  · next hname => rw [patched_snoc_of_eq ps p n hname]
  · next hname => rw [patched_snoc_of_ne ps p n hname]

/-- A patch for another name brings up a node. -/
theorem applyPatch_replay_of_not_mem (ns : List Summary) (ps : List Patch) (t : Tally) (p : Patch)
    (hns : p.name ∉ ns.map (·.name)) (hps : p.name ∉ ps.map (·.name)) :
    (applyPatch (replay ns ps, t) p).1 = replay ns (ps ++ [p]) := by
  have hnames : newNames ns (ps ++ [p]) = newNames ns ps ++ [p.name] := by
    unfold newNames
    rw [List.map_append]
    exact newcomers_snoc_of_not_mem _ _ _ hns hps
  have hnew : p.name ∉ ns.map (·.name) ++ newNames ns ps := by
    rw [mem_names_replay, not_or]
    exact ⟨hns, hps⟩
  have hold : replay ns ps = mapFirsts (patched (ps ++ [p])) []
      (ns ++ (newNames ns ps).map Summary.blank) := by
    refine mapFirsts_congr _ _ _ _ fun n hn _ => (patched_snoc_of_ne ps p n ?_).symm
    intro hname
    rw [← hname, ← names_blanks] at hnew
    exact hnew (List.mem_map_of_mem hn)
  rw [applyPatch_of_none _ t p (names_replay ns ps ▸ hnew), hold, ← patched_blank ps p hps]
  unfold replay
  rw [hnames, List.map_append, ← List.append_assoc]
  refine (mapFirsts_snoc _ _ _ _ List.not_mem_nil ?_).symm
  rw [names_blanks]
  exact hnew

theorem foldl_applyPatch_replay (ns : List Summary) (ps qs : List Patch) (t : Tally) :
    (qs.foldl applyPatch (replay ns ps, t)).1 = replay ns (ps ++ qs) := by
  induction qs generalizing ps t with
  | nil => rw [List.append_nil, List.foldl_nil]
  | cons q qs ih =>
    have hstep : (applyPatch (replay ns ps, t) q).1 = replay ns (ps ++ [q]) := by
      by_cases hmem : q.name ∈ ns.map (·.name) ∨ q.name ∈ ps.map (·.name)
      · exact applyPatch_replay_of_mem ns ps t q hmem
      · obtain ⟨hns, hps⟩ := not_or.mp hmem
        exact applyPatch_replay_of_not_mem ns ps t q hns hps
    have hrest := ih (ps ++ [q]) (applyPatch (replay ns ps, t) q).2
    rw [← hstep, List.append_assoc] at hrest
    exact hrest

theorem replay_nil (ns : List Summary) : replay ns [] = ns := by
  have hsame : ∀ seen, mapFirsts id seen ns = ns := by
    induction ns with
    | nil => exact fun seen => rfl
    | cons n ns ih =>
      intro seen
      simp only [mapFirsts, id_eq, ite_self, ih]
  calc replay ns [] = mapFirsts (patched []) [] ns := by
        unfold replay
        rw [newNames, List.map_nil, newcomers, List.filter_nil, List.eraseDups_nil, List.map_nil,
          List.append_nil]
    _ = ns := hsame []

theorem foldl_applyPatch (ns : List Summary) (ps : List Patch) (t : Tally) :
    (ps.foldl applyPatch (ns, t)).1 = replay ns ps := by
  have hfold := foldl_applyPatch_replay ns [] ps t
  rw [replay_nil, List.nil_append] at hfold
  exact hfold

/-- Later patches are replayed on what the earlier ones left. -/
theorem replay_append (ns : List Summary) (ps qs : List Patch) :
    replay ns (ps ++ qs) = replay (replay ns ps) qs := by
  rw [← foldl_applyPatch (replay ns ps) qs .zero, foldl_applyPatch_replay]

/-- Patches that are replayed again leave what they left the first time. -/
theorem replay_append_self (ns : List Summary) (ps : List Patch) :
    replay ns (ps ++ ps) = replay ns ps := by
  have hnames : newNames ns (ps ++ ps) = newNames ns ps := by
    unfold newNames
    rw [List.map_append, newcomers_append_self]
  have hpatched : patched (ps ++ ps) = patched ps := by
    funext n
    unfold patched
    rw [patchesOf_append, Summary.overwritten_append_self]
  unfold replay
  rw [hnames, hpatched]

/-- The patches of some deltas, in order. -/
def patches (ds : List Network.Delta) : List Patch := ds.flatMap (·.nodes.getD [])

theorem nodes_withDeltas (n : Network) (ds : List Network.Delta) :
    (NetworkStore.withDeltas n ds).nodes = replay n.nodes (patches ds) := by
  induction ds using List.reverseRecOn with
  | nil => exact (replay_nil n.nodes).symm
  | append_singleton ds d ih =>
    rw [NetworkStore.withDeltas_snoc, patches, List.flatMap_append, List.flatMap_singleton]
    unfold applyDelta
    dsimp only
    rw [ih]
    exact foldl_applyPatch_replay n.nodes (patches ds) _ _

theorem find?_blanks (names : List String) (name : String) :
    (names.map Summary.blank).find? (·.name == name) =
      if name ∈ names then some (.blank name) else none := by
  induction names with
  | nil => rfl
  | cons first names ih =>
    by_cases hname : first = name
    · subst hname
      simp [Summary.blank]
    · have hmem : name ∈ first :: names ↔ name ∈ names := by simp [Ne.symm hname]
      simp only [List.map_cons, List.find?_cons, Summary.blank, beq_eq_false_iff_ne.mpr hname, hmem] at ih ⊢
      exact ih

theorem find?_replay (ns : List Summary) (ps : List Patch) (name : String) :
    (replay ns ps).find? (·.name == name) =
      ((ns.find? (·.name == name)).or
        (if name ∈ newNames ns ps then some (.blank name) else none)).map
          (·.overwritten (patchesOf name ps)) := by
  have hpatched (ms : List Summary) : (ms.find? (·.name == name)).map (patched ps) =
      (ms.find? (·.name == name)).map (·.overwritten (patchesOf name ps)) := by
    refine Option.map_congr fun n hn => ?_
    have hname : n.name = name := by simpa using List.find?_some hn
    rw [patched, hname]
  unfold replay
  rw [find?_mapFirsts _ (patched_name ps) _ _ _ List.not_mem_nil, hpatched, List.find?_append,
    find?_blanks]

theorem getElem?_replay (ns : List Summary) (ps : List Patch) (i : Nat) (m : Summary)
    (hi : ns[i]? = some m) (hused : m.name ∈ (ns.map (·.name)).take i) :
    (replay ns ps)[i]? = some m := by
  obtain ⟨hlt, -⟩ := List.getElem?_eq_some_iff.mp hi
  refine getElem?_mapFirsts _ _ _ i m ?_ (.inr ?_)
  · rw [List.getElem?_append_left hlt]
    exact hi
  · have hle : i ≤ (ns.map (·.name)).length := by
      rw [List.length_map]
      exact Nat.le_of_lt hlt
    rw [names_blanks, List.take_append_of_le_length hle]
    exact hused

/-- The nodes are a replay of the patches. Without a snapshot there are none, and deltas change nothing.
After a snapshot the names are those of the snapshot and then those that patches brought up, once each and in
that order; the first node of a name holds what the patches of that name carried last, over the snapshot's
record or a blank one; and a node whose name was used before it is as it was. -/
theorem nodes_replay_patches (as : List NetworkStore.Action) :
    ((∀ a ∈ as, a.snapshot? = none) →
      (NetworkStore.empty.run as).network = none ∧
        ∀ d, (NetworkStore.empty.run as).apply d = (NetworkStore.empty.run as, none)) ∧
    ∀ before snapshot since, as = before ++ .setSnapshot snapshot :: since →
      (∀ a ∈ since, a.snapshot? = none) →
        ∃ n, (NetworkStore.empty.run as).network = some n ∧
          let ps := patches (NetworkStore.deltas since)
          let new := newcomers snapshot.names (ps.map (·.name))
          n.names = snapshot.names ++ new ∧ (snapshot.names.Nodup → n.names.Nodup) ∧
          (∀ name, n.nodes.find? (·.name == name) =
            ((snapshot.nodes.find? (·.name == name)).or
              (if name ∈ new then some (.blank name) else none)).map
                (·.overwritten (ps.filter (·.name == name)))) ∧
          ∀ i m, snapshot.nodes[i]? = some m → m.name ∈ snapshot.names.take i →
            n.nodes[i]? = some m := by
  constructor
  · intro hnone
    have hnetwork := NetworkStore.run_of_none NetworkStore.empty rfl hnone
    exact ⟨hnetwork, fun d => NetworkStore.apply_of_none _ d hnetwork⟩
  · intro before snapshot since hsplit hnone
    subst hsplit
    refine ⟨_, NetworkStore.run_snapshot _ before since snapshot hnone, ?_⟩
    have hnodes := nodes_withDeltas snapshot (NetworkStore.deltas since)
    have hnames : (NetworkStore.withDeltas snapshot (NetworkStore.deltas since)).names =
        snapshot.names ++ newNames snapshot.nodes (patches (NetworkStore.deltas since)) := by
      rw [Network.names, hnodes, names_replay]
      rfl
    refine ⟨hnames, ?_, ?_, ?_⟩
    · intro hnodup
      rw [hnames]
      exact nodup_append_newcomers _ _ hnodup
    · intro name
      rw [hnodes]
      exact find?_replay _ _ name
    · intro i m hi hused
      rw [hnodes]
      exact getElem?_replay _ _ i m hi hused

/-- A name is used twice, and patches come before the snapshot, twice for one node, and for a new one. -/
theorem replay_with_repeated_name :
    let first : Summary := ⟨"a", none, .run, none, none⟩
    let second : Summary := ⟨"a", none, .error, none, none⟩
    let early : Network.Delta := ⟨some [⟨"c", none, none, none, none⟩], none, none⟩
    let late : Network.Delta :=
      ⟨some [⟨"b", none, some .run, none, none⟩, ⟨"a", some "x", some .stop, none, none⟩], none, none⟩
    let last : Network.Delta :=
      ⟨some [⟨"a", none, some .updating, none, none⟩, ⟨"b", some "y", none, none, none⟩], none, none⟩
    (NetworkStore.empty.run [.apply early]).network = none ∧
      ∃ n, (NetworkStore.empty.run [.apply early, .setSnapshot ⟨[first, second], []⟩, .apply late,
          .beginFetch, .apply last]).network = some n ∧
        n.names = ["a", "a", "b"] ∧
        n.nodes.find? (·.name == "a") = some ⟨"a", some "x", .updating, none, none⟩ ∧
        n.nodes.find? (·.name == "b") = some ⟨"b", some "y", .run, none, none⟩ ∧
        n.nodes[1]? = some second := by
  intro first second early late last
  have hearly : ∀ a ∈ [NetworkStore.Action.apply early], a.snapshot? = none := by
    simp [NetworkStore.Action.snapshot?]
  have hsince : ∀ a ∈ [NetworkStore.Action.apply late, .beginFetch, .apply last],
      a.snapshot? = none := by
    simp [NetworkStore.Action.snapshot?]
  refine ⟨((nodes_replay_patches [.apply early]).1 hearly).1, ?_⟩
  obtain ⟨n, hn, hnames, -, hfind, hkept⟩ :=
    (nodes_replay_patches _).2 [.apply early] ⟨[first, second], []⟩ _ rfl hsince
  refine ⟨n, hn, hnames, ?_, ?_, ?_⟩
  · exact hfind "a"
  · exact hfind "b"
  · exact hkept 1 second rfl (by decide)

end HubConsole.Dashboard
