import HubConsole.Dashboard.NetworkStore
import Mathlib.Data.List.Induction
import Mathlib.Data.List.Nodup

namespace HubConsole.Dashboard

/-- What is not known yet, once each, in the order in which it comes up. -/
def newcomers {α : Type} [DecidableEq α] (known xs : List α) : List α :=
  (xs.filter (· ∉ known)).eraseDups

section Newcomers

variable {α : Type} [DecidableEq α] (known xs : List α) (x : α)

theorem mem_newcomers : x ∈ newcomers known xs ↔ x ∈ xs ∧ x ∉ known := by
  unfold newcomers
  rw [List.mem_eraseDups, List.mem_filter, decide_eq_true_iff]

theorem eraseDups_snoc (x : α) :
    (xs ++ [x]).eraseDups = if x ∈ xs then xs.eraseDups else xs.eraseDups ++ [x] := by
  rw [List.eraseDups_append, List.removeAll, List.filter_cons, List.filter_nil]
  by_cases h : x ∈ xs <;> simp [h, List.eraseDups_cons]

/-- What was met before is nothing new. -/
theorem newcomers_snoc_of_mem (h : x ∈ known ∨ x ∈ xs) :
    newcomers known (xs ++ [x]) = newcomers known xs := by
  unfold newcomers
  rw [List.filter_append]
  by_cases hx : x ∈ known
  · rw [List.filter_cons_of_neg (by simpa using hx), List.filter_nil, List.append_nil]
  · have hmem : x ∈ xs.filter (· ∉ known) := by simpa [hx] using h
    rw [List.filter_cons_of_pos (by simpa using hx), List.filter_nil, eraseDups_snoc, if_pos hmem]

theorem newcomers_snoc_of_not_mem (hx : x ∉ known) (h : x ∉ xs) :
    newcomers known (xs ++ [x]) = newcomers known xs ++ [x] := by
  have hmem : x ∉ xs.filter (· ∉ known) := fun hin => h (List.mem_of_mem_filter hin)
  unfold newcomers
  rw [List.filter_append, List.filter_cons_of_pos (by simpa using hx), List.filter_nil,
    eraseDups_snoc, if_neg hmem]

/-- What comes up a second time is nothing new. -/
theorem newcomers_append_self : newcomers known (xs ++ xs) = newcomers known xs := by
  have hnone (ys : List α) : ys.removeAll ys = [] := by
    unfold List.removeAll
    rw [List.filter_eq_nil_iff]
    intro y hy
    simpa using hy
  unfold newcomers
  rw [List.filter_append, List.eraseDups_append, hnone, List.eraseDups_nil, List.append_nil]

theorem nodup_newcomers : (newcomers known xs).Nodup := by
  induction xs using List.reverseRecOn with
  | nil => exact .nil
  | append_singleton xs x ih =>
    by_cases h : x ∈ known ∨ x ∈ xs
    · rw [newcomers_snoc_of_mem known xs x h]
      exact ih
    · obtain ⟨hknown, hxs⟩ := not_or.mp h
      rw [newcomers_snoc_of_not_mem known xs x hknown hxs]
      refine List.nodup_append.mpr ⟨ih, List.nodup_singleton x, ?_⟩
      intro y hy z hz hsame
      rw [hsame, List.mem_singleton.mp hz] at hy
      exact hxs ((mem_newcomers known xs x).mp hy).1

theorem nodup_append_newcomers (h : known.Nodup) : (known ++ newcomers known xs).Nodup := by
  refine List.nodup_append.mpr ⟨h, nodup_newcomers known xs, ?_⟩
  intro x hx y hy hsame
  exact ((mem_newcomers known xs y).mp hy).2 (hsame ▸ hx)

end Newcomers

namespace NetworkStore

inductive Action where
  | setSnapshot (n : Network)
  | apply (d : Network.Delta)
  | beginFetch
  | fetchFailed

namespace Action

def snapshot? : Action → Option Network
  | .setSnapshot n => some n
  | _ => none

def delta? : Action → Option Network.Delta
  | .apply d => some d
  | _ => none

end Action

def act (s : NetworkStore) : Action → NetworkStore
  | .setSnapshot n => s.setSnapshot n
  | .apply d => (s.apply d).1
  | .beginFetch => s.beginFetch.1
  | .fetchFailed => s.fetchFailed

def run (s : NetworkStore) (as : List Action) : NetworkStore := as.foldl act s

/-- The deltas of a run, in order. -/
def deltas (as : List Action) : List Network.Delta := as.filterMap Action.delta?

/-- The network after some deltas. -/
def withDeltas (n : Network) (ds : List Network.Delta) : Network :=
  ds.foldl (fun n d => (applyDelta n d).1) n

theorem run_append (s : NetworkStore) (as bs : List Action) :
    s.run (as ++ bs) = (s.run as).run bs :=
  List.foldl_append

theorem withDeltas_snoc (n : Network) (ds : List Network.Delta) (d : Network.Delta) :
    withDeltas n (ds ++ [d]) = (applyDelta (withDeltas n ds) d).1 :=
  List.foldl_concat ..

theorem apply_of_none (s : NetworkStore) (d : Network.Delta) (h : s.network = none) :
    s.apply d = (s, none) := by
  unfold apply
  rw [h]

theorem apply_of_some (s : NetworkStore) (n : Network) (d : Network.Delta) (h : s.network = some n) :
    (s.apply d).1.network = some (applyDelta n d).1 := by
  unfold apply
  rw [h]

variable {as : List Action}

/-- Without a snapshot the network stays unknown. -/
theorem run_of_none (s : NetworkStore) (h : s.network = none)
    (hnone : ∀ a ∈ as, a.snapshot? = none) : (s.run as).network = none := by
  induction as generalizing s with
  | nil => exact h
  | cons a as ih =>
    refine ih (s.act a) ?_ fun b hb => hnone b (List.mem_cons_of_mem a hb)
    cases a with
    | setSnapshot n => cases hnone _ List.mem_cons_self
    | apply d =>
      rw [act, apply_of_none s d h]
      exact h
    | beginFetch | fetchFailed => exact h

/-- Without another snapshot only the deltas change the network. -/
theorem run_of_some (s : NetworkStore) (n : Network) (h : s.network = some n)
    (hnone : ∀ a ∈ as, a.snapshot? = none) :
    (s.run as).network = some (withDeltas n (deltas as)) := by
  induction as generalizing s n with
  | nil => exact h
  | cons a as ih =>
    have hrest : ∀ b ∈ as, b.snapshot? = none := fun b hb => hnone b (List.mem_cons_of_mem a hb)
    cases a with
    | setSnapshot n => cases hnone _ List.mem_cons_self
    | apply d => exact ih _ _ (apply_of_some s n d h) hrest
    | beginFetch | fetchFailed => exact ih _ n h hrest

/-- After a snapshot the earlier ones do not count. -/
theorem run_snapshot (s : NetworkStore) (before since : List Action) (n : Network)
    (hnone : ∀ a ∈ since, a.snapshot? = none) :
    (s.run (before ++ .setSnapshot n :: since)).network = some (withDeltas n (deltas since)) := by
  rw [run_append]
  exact run_of_some ((s.run before).setSnapshot n) n rfl hnone

end NetworkStore
end HubConsole.Dashboard
