import HubConsole.Dashboard.DetailStore
import HubConsole.Proofs.Node.Overwrite
import Mathlib.Data.List.Induction
import Mathlib.Data.String.Basic

namespace HubConsole.Dashboard.DetailStore

open HubConsole.Node

theorem find?_cons (d : Detail) (ds : List Detail) (name : String) :
    (d :: ds).find? (·.name == name) =
      if d.name = name then some d else ds.find? (·.name == name) := by
  rw [List.find?_cons]
  split <;> simp_all

theorem find?_insert (d : Detail) (ds : List Detail) (name : String) :
    (insert d ds).find? (·.name == name) =
      if d.name = name then some d else ds.find? (·.name == name) := by
  induction ds with
  | nil => exact find?_cons d [] name
  | cons e es ih =>
    unfold insert
    split
    · exact find?_cons d (e :: es) name
    · split
      · next hsame =>
        rw [find?_cons, find?_cons e, ← hsame]
        split <;> rfl
      · next hother =>
        rw [find?_cons, find?_cons e, ih]
        by_cases hname : e.name = name
        · rw [if_pos hname, if_neg fun h => hother (h.trans hname.symm), if_pos hname]
        · rw [if_neg hname, if_neg hname]

theorem mergeFirst?_eq_none_iff (u : Update) (ds : List Detail) :
    mergeFirst? u ds = none ↔ ds.find? (·.name == u.name) = none := by
  induction ds with
  | nil => exact iff_of_true rfl rfl
  | cons d ds ih =>
    rw [find?_cons]
    simp only [mergeFirst?]
    split
    · exact iff_of_false (Option.some_ne_none _) (Option.some_ne_none _)
    · rw [Option.map_eq_none_iff, ih]

theorem find?_mergeFirst? (u : Update) (ds : List Detail) (name : String)
    (r : List Detail × List Field) (h : mergeFirst? u ds = some r) :
    r.1.find? (·.name == name) =
      if u.name = name then (ds.find? (·.name == name)).map fun d => (d.merge u).1
      else ds.find? (·.name == name) := by
  induction ds generalizing r with
  | nil => cases h
  | cons d ds ih =>
    simp only [mergeFirst?] at h
    split at h
    · next hname =>
      obtain rfl := Option.some.inj h
      rw [find?_cons, find?_cons, Detail.merge_name, hname]
      split <;> rfl
    · next hname =>
      obtain ⟨r, hr, rfl⟩ := Option.map_eq_some_iff.mp h
      rw [find?_cons, find?_cons, ih r hr]
      by_cases hhead : d.name = name
      · have hother : u.name ≠ name := fun hu => hname (hhead.trans hu.symm)
        rw [if_pos hhead, if_neg hother, if_pos hhead]
      · rw [if_neg hhead, if_neg hhead]

/-- The names under which there are records, in order. -/
def keys (s : DetailStore) : List String := s.records.map (·.name)

theorem names_mergeFirst? (u : Update) (ds : List Detail) (r : List Detail × List Field)
    (h : mergeFirst? u ds = some r) : r.1.map (·.name) = ds.map (·.name) := by
  induction ds generalizing r with
  | nil => cases h
  | cons d ds ih =>
    simp only [mergeFirst?] at h
    split at h
    · obtain rfl := Option.some.inj h
      rfl
    · obtain ⟨r, hr, rfl⟩ := Option.map_eq_some_iff.mp h
      simp only [List.map_cons, ih r hr]

theorem mem_names_insert (d : Detail) (ds : List Detail) (name : String)
    (h : name ∈ (insert d ds).map (·.name)) : name = d.name ∨ name ∈ ds.map (·.name) := by
  induction ds with
  | nil => exact .inl (by simpa [insert] using h)
  | cons e es ih =>
    unfold insert at h
    split at h
    · simpa using h
    · split at h
      · rcases List.mem_cons.mp h with h | h
        · exact .inl h
        · exact .inr (List.mem_cons_of_mem _ h)
      · rcases List.mem_cons.mp h with h | h
        · exact .inr (h ▸ List.mem_cons_self)
        · exact (ih h).imp_right (List.mem_cons_of_mem _)

theorem sorted_insert (d : Detail) (ds : List Detail)
    (h : (ds.map (·.name)).Pairwise (· < ·)) : ((insert d ds).map (·.name)).Pairwise (· < ·) := by
  induction ds with
  | nil => exact List.pairwise_singleton _ _
  | cons e es ih =>
    obtain ⟨hfirst, hrest⟩ := List.pairwise_cons.mp h
    unfold insert
    split
    · next hless =>
      refine List.pairwise_cons.mpr ⟨fun name hname => ?_, h⟩
      rcases List.mem_cons.mp hname with rfl | hname
      · exact hless
      · exact lt_trans hless (hfirst name hname)
    · next hless =>
      split
      · next hsame =>
        refine List.pairwise_cons.mpr ⟨fun name hname => ?_, hrest⟩
        exact lt_of_eq_of_lt hsame (hfirst name hname)
      · next hother =>
        refine List.pairwise_cons.mpr ⟨fun name hname => ?_, ih hrest⟩
        rcases mem_names_insert d es name hname with rfl | hname
        · exact lt_of_le_of_ne (not_lt.mp hless) (Ne.symm hother)
        · exact hfirst name hname

variable (s : DetailStore)

theorem get?_set (d : Detail) (name : String) :
    (s.set d).get? name = if d.name = name then some d else s.get? name :=
  find?_insert d s.records name

theorem apply_eq_none_iff (u : Update) : (s.apply u).2 = none ↔ s.get? u.name = none := by
  rw [get?, ← mergeFirst?_eq_none_iff]
  unfold apply
  split
  · next h => simp [h]
  · next h => simp [h]

/-- An update for a node that is not there is dropped. -/
theorem apply_of_absent (u : Update) (h : s.get? u.name = none) : s.apply u = (s, none) := by
  unfold apply
  rw [(mergeFirst?_eq_none_iff u s.records).mpr h]

theorem get?_apply (u : Update) (name : String) :
    (s.apply u).1.get? name =
      if u.name = name then (s.get? name).map fun d => (d.merge u).1 else s.get? name := by
  unfold apply
  split
  · next records changed h => exact find?_mergeFirst? u s.records name (records, changed) h
  · next h =>
    split
    · next hname =>
      have hnone := (mergeFirst?_eq_none_iff u s.records).mp h
      rw [hname] at hnone
      rw [get?, hnone, Option.map_none]
    · rfl

theorem keys_apply (u : Update) : (s.apply u).1.keys = s.keys := by
  unfold apply
  split
  · next records changed h => exact names_mergeFirst? u s.records (records, changed) h
  · rfl

theorem name_of_get? (name : String) (d : Detail) (h : s.get? name = some d) : d.name = name := by
  simpa using List.find?_some h

/-- With one record a name, each is found under its name. -/
theorem get?_name_of_mem (hsorted : s.keys.Pairwise (· < ·)) (d : Detail) (h : d ∈ s.records) :
    s.get? d.name = some d := by
  obtain ⟨records⟩ := s
  induction records with
  | nil => cases h
  | cons e es ih =>
    obtain ⟨hfirst, hrest⟩ := List.pairwise_cons.mp hsorted
    rw [get?, find?_cons]
    rcases List.mem_cons.mp h with rfl | h
    · exact if_pos rfl
    · have hless : e.name < d.name := hfirst d.name (List.mem_map_of_mem h)
      rw [if_neg hless.ne]
      exact ih hrest h

inductive Action where
  | set (d : Detail)
  | apply (u : Update)

def Action.update? : Action → Option Update
  | .set _ => none
  | .apply u => some u

def act (s : DetailStore) : Action → DetailStore
  | .set d => s.set d
  | .apply u => (s.apply u).1

def run (s : DetailStore) (as : List Action) : DetailStore := as.foldl act s

/-- The updates for one node, in order. -/
def updatesOf (name : String) (as : List Action) : List Update :=
  (as.filterMap Action.update?).filter (·.name == name)

theorem run_snoc (as : List Action) (a : Action) : s.run (as ++ [a]) = (s.run as).act a :=
  List.foldl_concat ..

theorem sorted_keys_run (h : s.keys.Pairwise (· < ·)) (as : List Action) :
    (s.run as).keys.Pairwise (· < ·) := by
  induction as using List.reverseRecOn with
  | nil => exact h
  | append_singleton as a ih =>
    rw [run_snoc]
    cases a with
    | set d => exact sorted_insert d _ ih
    | apply u =>
      rw [act, keys_apply]
      exact ih

/-- There is a record just when one was fetched. -/
theorem get?_run_eq_none_iff (as : List Action) (name : String) :
    (empty.run as).get? name = none ↔ ∀ d, .set d ∈ as → d.name ≠ name := by
  induction as using List.reverseRecOn with
  | nil => exact iff_of_true rfl fun d h => nomatch h
  | append_singleton as a ih =>
    rw [run_snoc]
    cases a with
    | set d =>
      have hmem (e : Detail) : .set e ∈ as ++ [.set d] ↔ .set e ∈ as ∨ e = d := by simp
      rw [act, get?_set]
      by_cases hname : d.name = name
      · rw [if_pos hname]
        exact iff_of_false (Option.some_ne_none d) fun h => h d ((hmem d).mpr (.inr rfl)) hname
      · rw [if_neg hname, ih]
        constructor
        · intro h e he
          rcases (hmem e).mp he with he | rfl
          · exact h e he
          · exact hname
        · exact fun h e he => h e ((hmem e).mpr (.inl he))
    | apply u =>
      have hmem (e : Detail) : .set e ∈ as ++ [.apply u] ↔ .set e ∈ as := by simp
      simp only [act, get?_apply, hmem, ← ih]
      split
      · exact Option.map_eq_none_iff
      · exact Iff.rfl

/-- Since a record was fetched, the updates for it count. -/
theorem get?_run_same (as : List Action) (base d : Detail) (us : List Update)
    (hget : s.get? base.name = some d) (hsame : d == base.overwritten us)
    (hnone : ∀ e, .set e ∈ as → e.name ≠ base.name) :
    ∃ d', (s.run as).get? base.name = some d' ∧
      d' == base.overwritten (us ++ updatesOf base.name as) := by
  induction as generalizing s d us with
  | nil =>
    refine ⟨d, hget, ?_⟩
    rw [updatesOf, List.filterMap_nil, List.filter_nil, List.append_nil]
    exact hsame
  | cons a as ih =>
    have hrest : ∀ e, .set e ∈ as → e.name ≠ base.name :=
      fun e he => hnone e (List.mem_cons_of_mem a he)
    cases a with
    | set e =>
      have hother := hnone e List.mem_cons_self
      refine ih (s.set e) d us ?_ hsame hrest
      rw [get?_set, if_neg hother]
      exact hget
    | apply u =>
      by_cases hname : u.name = base.name
      · have hupdates : updatesOf base.name (.apply u :: as) = u :: updatesOf base.name as := by
          simp [updatesOf, Action.update?, hname]
        rw [hupdates, List.append_cons]
        refine ih (s.apply u).1 (d.merge u).1 (us ++ [u]) ?_ ?_ hrest
        · rw [get?_apply, if_pos hname, hget, Option.map_some]
        · rw [Detail.overwritten_snoc]
          exact Detail.merge_same_overwrite hsame u
      · have hupdates : updatesOf base.name (.apply u :: as) = updatesOf base.name as := by
          simp [updatesOf, Action.update?, hname]
        rw [hupdates]
        refine ih (s.apply u).1 d us ?_ hsame hrest
        rw [get?_apply, if_neg hname]
        exact hget

/-- The records are a replay of what was fetched and of the updates. There is one for a node just when one was
fetched, and it is the last one fetched, with the values that the updates for the node have carried last
since, up to equal values. An update is dropped just when there is no record for it, and then nothing
changes; in any case the other records stay. Every record is found under its own name. -/
theorem details_replay_updates (as : List Action) :
    let s := empty.run as
    (∀ name, s.get? name = none ↔ ∀ d, .set d ∈ as → d.name ≠ name) ∧
    (∀ before base since, as = before ++ .set base :: since →
      (∀ d, .set d ∈ since → d.name ≠ base.name) →
        ∃ d, s.get? base.name = some d ∧ d == base.overwritten (updatesOf base.name since)) ∧
    (∀ u, ((s.apply u).2 = none ↔ s.get? u.name = none) ∧
      (s.get? u.name = none → (s.apply u).1 = s) ∧
      ∀ name, name ≠ u.name → (s.apply u).1.get? name = s.get? name) ∧
    (∀ name d, s.get? name = some d → d.name = name) ∧ ∀ d ∈ s.records, s.get? d.name = some d := by
  intro s
  refine ⟨get?_run_eq_none_iff as, ?_, ?_, name_of_get? s, ?_⟩
  · intro before base since hsplit hlast
    have hrun : s = ((empty.run before).set base).run since := by
      change run empty as = _
      rw [hsplit]
      exact List.foldl_append
    rw [hrun]
    refine get?_run_same _ since base base [] ?_ base.same_self hlast
    rw [get?_set, if_pos rfl]
  · intro u
    refine ⟨apply_eq_none_iff s u, ?_, ?_⟩
    · intro habsent
      rw [apply_of_absent s u habsent]
    · intro name hname
      rw [get?_apply, if_neg hname.symm]
  · exact get?_name_of_mem s (sorted_keys_run empty .nil as)

/-- Two nodes are fetched, one of them twice; of its updates the early one is lost, one brings another zero, and
the last list of peers takes the place of the one before. -/
theorem replay_with_refetch :
    let base : Detail := ⟨"a", none, some "x", none, .run, none, none, none, some ["p"], none, none,
      some ⟨[.zero], .zero, .zero⟩, none⟩
    let blank : Update :=
      ⟨"a", none, none, none, none, none, none, none, none, none, none, none, none⟩
    let other : Hardware := ⟨[Double.zero.neg], .zero, .zero⟩
    let as : List Action := [.apply { blank with address := some "lost" },
      .set { base with address := some "old", status := .error }, .set base,
      .apply { blank with hardware := some other, peers := some ["q"] },
      .set { base with name := "b" }, .apply { blank with status := some .stop },
      .apply { blank with name := "b", address := some "y" }, .apply { blank with peers := some ["r"] }]
    (empty.run as).get? "c" = none ∧
      (∃ d, (empty.run as).get? "a" = some d ∧
        d == { base with status := .stop, peers := some ["r"], hardware := some other }) ∧
      ((empty.run as).apply { blank with name := "c" }).1 = empty.run as := by
  intro base blank other as
  obtain ⟨habsent, hreplay, hupdate, -⟩ := details_replay_updates as
  have hnone : (empty.run as).get? "c" = none := by
    rw [habsent]
    simp [as, base]
  refine ⟨hnone, ?_, (hupdate { blank with name := "c" }).2.1 hnone⟩
  exact hreplay (as.take 2) base (as.drop 3) rfl (by simp [as, base])

end HubConsole.Dashboard.DetailStore
