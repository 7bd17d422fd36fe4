import HubConsole.Dashboard.Store
import HubConsole.Proofs.Node.Overwrite

namespace HubConsole.Dashboard

open HubConsole.Node HubConsole.Rpc

namespace DetailStore

theorem apply_cons (d : Detail) (ds : List Detail) (u : Update) :
    (DetailStore.mk (d :: ds)).apply u =
      if d.name = u.name then (⟨(d.merge u).1 :: ds⟩, some (d.merge u).2)
      else (⟨d :: ((DetailStore.mk ds).apply u).1.records⟩, ((DetailStore.mk ds).apply u).2) := by
  by_cases hname : d.name = u.name
  · simp only [apply, mergeFirst?, if_pos hname]
  · simp only [apply, mergeFirst?, if_neg hname]
    cases mergeFirst? u ds <;> rfl

/-- An update does to a store what it does without an update of another node before it. -/
theorem apply_apply_of_ne (s : DetailStore) (u v : Update) (h : u.name ≠ v.name) :
    (s.apply u).1.apply v = (((s.apply v).1.apply u).1, (s.apply v).2) := by
  obtain ⟨ds⟩ := s
  induction ds with
  | nil => rfl
  | cons d ds ih =>
    by_cases hu : d.name = u.name
    · have hv : d.name ≠ v.name := hu ▸ h
      have hmerged : (d.merge u).1.name ≠ v.name := hv
      simp only [apply_cons, if_pos hu, if_neg hv, if_neg hmerged]
    · by_cases hv : d.name = v.name
      · have hmerged : (d.merge v).1.name ≠ u.name := hu
        simp only [apply_cons, if_neg hu, if_pos hv, if_neg hmerged]
      · simp only [apply_cons, if_neg hu, if_neg hv, ih]

end DetailStore

/-- What a push is about. -/
inductive Subject where
  | network
  | node (name : String)
  deriving DecidableEq

def subject : Push → Subject
  | .network _ => .network
  | .node u => .node u.name

/-- The pushes about one thing, in order. -/
def about (x : Subject) (ps : List Push) : List Push := ps.filter (subject · = x)

namespace Store

/-- The store after pushes in the order in which they come. -/
def applyPushes (s : Store) (ps : List Push) : Store := ps.foldl (fun s p => (s.applyPush p).1) s

/-- The pushes of a run, each with what became of it. -/
def transcript (s : Store) : List Push → List (Push × PushOutcome)
  | [] => []
  | p :: ps => (p, (s.applyPush p).2) :: (s.applyPush p).1.transcript ps

theorem applyPushes_cons (s : Store) (p : Push) (ps : List Push) :
    s.applyPushes (p :: ps) = (s.applyPush p).1.applyPushes ps := rfl

/-- A push does to a store what it does without a push about something else before it. -/
theorem applyPush_applyPush_of_ne (s : Store) (p q : Push) (h : subject p ≠ subject q) :
    (s.applyPush p).1.applyPush q = (((s.applyPush q).1.applyPush p).1, (s.applyPush q).2) := by
  cases p with
  | network d =>
    cases q with
    | network e => exact absurd rfl h
    | node v => rfl
  | node u =>
    cases q with
    | network e => rfl
    | node v =>
      have hname : u.name ≠ v.name := fun hsame => h (congrArg Subject.node hsame)
      simp only [applyPush, DetailStore.apply_apply_of_ne s.details u v hname]

/-- A push can as well come before all pushes about other things. -/
theorem applyPushes_move_front (s : Store) (p : Push) (before after : List Push)
    (h : ∀ q ∈ before, subject q ≠ subject p) :
    s.applyPushes (before ++ p :: after) = s.applyPushes (p :: (before ++ after)) := by
  induction before generalizing s with
  | nil => rfl
  | cons q before ih =>
    have hq : subject q ≠ subject p := h q List.mem_cons_self
    have hrest := fun r hr => h r (List.mem_cons_of_mem q hr)
    calc s.applyPushes (q :: before ++ p :: after)
        = ((s.applyPush q).1.applyPush p).1.applyPushes (before ++ after) := ih _ hrest
      _ = ((s.applyPush p).1.applyPush q).1.applyPushes (before ++ after) := by
          rw [applyPush_applyPush_of_ne s q p hq]

theorem transcript_of_ne (s : Store) (p : Push) (qs : List Push)
    (h : ∀ q ∈ qs, subject p ≠ subject q) : (s.applyPush p).1.transcript qs = s.transcript qs := by
  induction qs generalizing s with
  | nil => rfl
  | cons q qs ih =>
    have hq : subject p ≠ subject q := h q List.mem_cons_self
    have hrest := fun r hr => h r (List.mem_cons_of_mem q hr)
    rw [transcript, transcript, applyPush_applyPush_of_ne s p q hq, ih (s.applyPush q).1 hrest]

/-- What becomes of the pushes about one thing is what would become of them alone. -/
theorem transcript_about (s : Store) (x : Subject) (ps : List Push) :
    (s.transcript ps).filter (subject ·.1 = x) = s.transcript (about x ps) := by
  induction ps generalizing s with
  | nil => rfl
  | cons p ps ih =>
    rw [transcript, about]
    by_cases hp : subject p = x
    · rw [List.filter_cons_of_pos (by simpa using hp), List.filter_cons_of_pos (by simpa using hp),
        ih, transcript, about]
    · rw [List.filter_cons_of_neg (by simpa using hp), List.filter_cons_of_neg (by simpa using hp), ih]
      refine transcript_of_ne s p _ fun q hq hsame => hp ?_
      rw [hsame]
      simpa using (List.mem_filter.mp hq).2

/-- Two orders with the same pushes about each thing: the first push of the one stands in the other behind pushes
about other things only. -/
theorem exists_first_about (p : Push) (ps qs : List Push)
    (h : ∀ x, about x (p :: ps) = about x qs) :
    ∃ before after, qs = before ++ p :: after ∧ (∀ q ∈ before, subject q ≠ subject p) ∧
      ∀ x, about x ps = about x (before ++ after) := by
  have hfirst : about (subject p) qs = p :: about (subject p) ps := by
    rw [← h, about, List.filter_cons_of_pos (by simp), about]
  obtain ⟨before, after, rfl, hbefore, -, -⟩ := List.filter_eq_cons_iff.mp hfirst
  have hother : ∀ q ∈ before, subject q ≠ subject p := fun q hq => by simpa using hbefore q hq
  refine ⟨before, after, rfl, hother, fun x => ?_⟩
  have hx := h x
  simp only [about, List.filter_append, List.filter_cons] at hx ⊢
  by_cases hp : subject p = x
  · have hnone : before.filter (subject · = x) = [] :=
      List.filter_eq_nil_iff.mpr fun q hq => by simpa [← hp] using hother q hq
    simpa [hp, hnone] using hx
  · simpa [hp] using hx

theorem applyPushes_eq_of_about_eq (s : Store) (ps qs : List Push)
    (h : ∀ x, about x ps = about x qs) : s.applyPushes ps = s.applyPushes qs := by
  induction ps generalizing s qs with
  | nil =>
    cases qs with
    | nil => rfl
    | cons q qs => simpa [about] using h (subject q)
  | cons p ps ih =>
    -- The first push of the one order can be moved to the front of the other.
    obtain ⟨before, after, rfl, hother, hrest⟩ := exists_first_about p ps qs h
    rw [applyPushes_move_front s p before after hother, applyPushes_cons, applyPushes_cons]
    exact ih (s.applyPush p).1 (before ++ after) hrest

/-- What pushes leave as it is. -/
theorem applyPushes_keeps (s : Store) (ps : List Push) :
    (s.applyPushes ps).logs = s.logs ∧ (s.applyPushes ps).graph = s.graph ∧
      (s.applyPushes ps).network.fetching = s.network.fetching := by
  induction ps generalizing s with
  | nil => exact ⟨rfl, rfl, rfl⟩
  | cons p ps ih =>
    obtain ⟨hlogs, hgraph, hfetching⟩ := ih (s.applyPush p).1
    cases p with
    | network d =>
      refine ⟨hlogs, hgraph, hfetching.trans ?_⟩
      simp only [applyPush, NetworkStore.apply]
      split <;> rfl
    | node u => exact ⟨hlogs, hgraph, hfetching⟩

/-- Only the order of pushes about the same thing counts. Two runs of pushes that say the same about the network
and about each node, in the same order, leave the same network and the same records, and each push has the same
outcome in both. No push touches the logs, the window of the graph or the mark of a fetch. -/
theorem push_order_within_subject (s : Store) (ps qs : List Push)
    (h : ∀ x, about x ps = about x qs) :
    s.applyPushes ps = s.applyPushes qs ∧
      (∀ x, (s.transcript ps).filter (subject ·.1 = x) =
        (s.transcript qs).filter (subject ·.1 = x)) ∧
      (s.applyPushes ps).logs = s.logs ∧ (s.applyPushes ps).graph = s.graph ∧
      (s.applyPushes ps).network.fetching = s.network.fetching := by
  refine ⟨applyPushes_eq_of_about_eq s ps qs h, fun x => ?_, applyPushes_keeps s ps⟩
  rw [transcript_about, transcript_about, h x]

/-- A node joins, one with a record stops, and an update finds no record; the other way round all is the same. -/
theorem order_of_unrelated_pushes :
    let record : Detail := ⟨"a", none, some "x", none, .run, none, none, none, some ["p"], none, none,
      none, none⟩
    let blank : Update :=
      ⟨"a", none, none, none, none, none, none, none, none, none, none, none, none⟩
    let joined : Push := .network ⟨some [⟨"c", none, some .run, none, none⟩], none, none⟩
    let stopped : Push := .node { blank with status := some .stop }
    let moved : Push := .node { blank with address := some "y" }
    let unknown : Push := .node { blank with name := "b" }
    let s : Store := ⟨⟨some ⟨[], []⟩, true⟩, ⟨[record]⟩, .start ⟨0, 0⟩, .start ⟨0, 0⟩⟩
    s.applyPushes [joined, stopped, unknown, moved] = s.applyPushes [unknown, stopped, moved, joined] ∧
      (s.transcript [unknown, stopped, moved, joined]).map (·.2) =
        [.node none, .node (some [.status]), .node (some [.address]), .network (some ⟨1, 0⟩)] ∧
      (s.applyPushes [unknown, stopped, moved, joined]).network.fetching = true := by
  intro record blank joined stopped moved unknown s
  have hsame (x : Subject) : about x [joined, stopped, unknown, moved] =
      about x [unknown, stopped, moved, joined] := by
    cases x with
    | network => rfl
    | node name =>
      by_cases ha : name = "a"
      · rw [ha]
        rfl
      · by_cases hb : name = "b"
        · rw [hb]
          rfl
        · simp [about, subject, joined, stopped, moved, unknown, blank, Ne.symm ha, Ne.symm hb]
  obtain ⟨hstore, -, -, -, hfetching⟩ := push_order_within_subject s _ _ hsame
  exact ⟨hstore, rfl, hstore ▸ hfetching⟩

end Store
end HubConsole.Dashboard
