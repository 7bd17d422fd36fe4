import HubConsole.Proofs.Dashboard.LogEdits
import HubConsole.Proofs.Dashboard.LogRefresh

namespace HubConsole.Dashboard.LogQuery

open HubConsole.Log HubConsole.Time

/-- All that an action can do to the size of a page and to what is known of the end. -/
inductive Mark (q : LogQuery) : Action → LogQuery → Prop
  | cleared (a : Action) (hedit : q.refilters a) (q' : LogQuery) (hflag : q'.noMoreData = false)
      (hsize : 1 ≤ q.perPage → 1 ≤ q'.perPage) : Mark q a q'
  | answered (p : Pending) (records : List Record) (hout : q.outstanding = some p) (q' : LogQuery)
      (hflag : q'.noMoreData = (q.noMoreData || records.length < p.perPage))
      (hsize : q'.perPage = q.perPage) : Mark q (.respond p.token records) q'
  /-- Requests, answers that do not count, failures, and all else. -/
  | kept (a : Action) (hedit : q.refilters a = false)
      (hstale : ∀ token records, a = .respond token records → q.current? token = none)
      (q' : LogQuery) (hflag : q'.noMoreData = q.noMoreData) (hsize : q'.perPage = q.perPage) :
      Mark q a q'

theorem one_le_perPage_change (q : LogQuery) (c : FilterChange) (h : 1 ≤ q.perPage) :
    1 ≤ (q.change c).perPage := by
  show 1 ≤ (c.perPage.map (max · 1)).getD q.perPage
  cases c.perPage with
  | none => exact h
  | some n => exact Nat.le_max_right n 1

theorem rollBack_flag (q : LogQuery) (p : Pending) :
    (q.rollBack p).noMoreData = q.noMoreData ∧ (q.rollBack p).perPage = q.perPage := by
  unfold rollBack
  split <;> exact ⟨rfl, rfl⟩

theorem beginFetch_flag (q : LogQuery) (append : Bool) :
    (q.beginFetch append).noMoreData = q.noMoreData ∧ (q.beginFetch append).perPage = q.perPage := by
  unfold beginFetch issue
  rw [abandon_eq]
  exact ⟨rfl, rfl⟩

theorem loadMore_flag (q : LogQuery) :
    q.loadMore.noMoreData = q.noMoreData ∧ q.loadMore.perPage = q.perPage := by
  unfold loadMore issue
  rw [abandon_eq]
  exact ⟨rfl, rfl⟩

theorem fetchFailed_flag (q : LogQuery) (token : Nat) :
    (q.fetchFailed token).noMoreData = q.noMoreData ∧ (q.fetchFailed token).perPage = q.perPage := by
  unfold fetchFailed
  split
  · exact ⟨rfl, rfl⟩
  · next p _ => exact rollBack_flag _ p

private theorem respond_mark (q : LogQuery) (token : Nat) (records : List Record) :
    Mark q (.respond token records) (q.respond token records).1 := by
  cases hcurrent : q.current? token with
  | none =>
    rw [respond_of_stale q token records hcurrent]
    refine .kept (.respond token records) rfl ?_ q rfl rfl
    intro token' records' hsame
    obtain ⟨rfl, rfl⟩ := Action.respond.inj hsame
    exact hcurrent
  | some p =>
    obtain ⟨hout, rfl⟩ := (current?_eq_some_iff q token p).mp hcurrent
    rw [respond_of_current q p records hout]
    exact .answered p records hout _ rfl rfl

/-- Every action is one of the marks. -/
theorem act_mark (q : LogQuery) (a : Action) : Mark q a (q.act a).1 := by
  have hkept (a : Action) (hedit : q.refilters a = false)
      (hother : ∀ token records, a ≠ .respond token records) (q' : LogQuery)
      (h : q'.noMoreData = q.noMoreData ∧ q'.perPage = q.perPage) : Mark q a q' :=
    .kept a hedit (fun token records hsame => absurd hsame (hother token records)) q' h.1 h.2
  cases a with
  | changeFilters c =>
    have hsize : 1 ≤ q.perPage → 1 ≤ (q.changeFilters c).perPage := one_le_perPage_change _ c
    exact .cleared (.changeFilters c) rfl (q.changeFilters c) rfl hsize
  | beginFetch append =>
    exact hkept (.beginFetch append) rfl (by simp) (q.beginFetch append) (beginFetch_flag q append)
  | loadMore => exact hkept .loadMore rfl (by simp) q.loadMore (loadMore_flag q)
  | respond token records => exact respond_mark q token records
  | fetchFailed token =>
    exact hkept (.fetchFailed token) rfl (by simp) (q.fetchFailed token) (fetchFailed_flag q token)
  | beginTargets => exact hkept .beginTargets rfl (by simp) q.beginTargets.1 ⟨rfl, rfl⟩
  | targetsFailed => exact hkept .targetsFailed rfl (by simp) q.targetsFailed ⟨rfl, rfl⟩
  | setTargets targets =>
    have hsize : 1 ≤ q.perPage → 1 ≤ (q.setTargets targets).perPage := one_le_perPage_change _ _
    exact .cleared (.setTargets targets) rfl (q.setTargets targets) rfl hsize
  | setAutoRefresh on now =>
    cases on with
    | false =>
      let q' : LogQuery := { q with autoRefresh := false }
      exact hkept (.setAutoRefresh false now) rfl (by simp) q' ⟨rfl, rfl⟩
    | true =>
      let q' := (q.setAutoRefresh true now).1
      have hsize : 1 ≤ q.perPage → 1 ≤ q'.perPage := one_le_perPage_change _ _
      exact .cleared (.setAutoRefresh true now) rfl q' rfl hsize
  | tick now =>
    show Mark q (.tick now) (q.tick now).1
    cases hrefresh : q.autoRefresh with
    | false =>
      rw [tick_of_off q now hrefresh]
      exact hkept (.tick now) hrefresh (by simp) q ⟨rfl, rfl⟩
    | true =>
      rw [tick_of_on q now hrefresh]
      have hsize : 1 ≤ q.perPage → 1 ≤ (q.advance now).perPage := one_le_perPage_change _ _
      exact .cleared (.tick now) hrefresh (q.advance now) rfl hsize

variable {q q' : LogQuery} {a : Action}

theorem Mark.one_le_perPage (h : Mark q a q') (hq : 1 ≤ q.perPage) : 1 ≤ q'.perPage := by
  cases h with
  | cleared _ _ _ _ hsize => exact hsize hq
  | answered _ _ _ _ _ hsize | kept _ _ _ _ _ hsize =>
    rw [hsize]
    exact hq

/-- A page never becomes empty. -/
theorem one_le_perPage_after (now : Instant) (as : List Action) : 1 ≤ (after now as).perPage := by
  induction as using List.reverseRecOn with
  | nil => show 1 ≤ defaultPerPage; decide
  | append_singleton as a ih =>
    rw [after_snoc]
    exact (act_mark _ a).one_le_perPage ih

theorem Turn.lt_of_issued {r : LogQuery × List Effect} (h : Turn q a r) (token : Nat)
    (hissued : token ∈ issuedTokens r.2) : q.lastToken < token := by
  cases h with
  | fetched _ q' _ htoken | extended q' _ htoken =>
    have hnew : token = q'.lastToken := List.mem_singleton.mp hissued
    omega
  | answered | failed | stale | missed | other => cases hissued

/-- A request that has no answer yet has just been issued, or was there before. -/
theorem Turn.outstanding_cases {r : LogQuery × List Effect} (h : Turn q a r) (p : Pending)
    (hp : r.1.outstanding = some p) :
    (p.token ∈ issuedTokens r.2 ∧ p.perPage = q.perPage) ∨ q.outstanding = some p := by
  cases h with
  | fetched _ q' _ htoken _ hout | extended q' _ htoken _ hout =>
    obtain rfl := Option.some.inj (hout.symm.trans hp)
    have hissued : q.lastToken + 1 ∈ [q'.lastToken] := by simp [htoken]
    exact .inl ⟨hissued, rfl⟩
  | answered => cases hp
  | failed p' =>
    rw [rollBack_outstanding] at hp
    cases hp
  | stale | missed => exact .inr hp
  | other _ _ _ _ _ _ hout => exact .inr (hout.symm.trans hp)

/-- As long as a request waits for its answer, it knows how large a page was when it was issued. -/
theorem perPage_of_outstanding (now : Instant) (before : List Action) (issue : Action)
    (meanwhile : List Action) (p : Pending)
    (hissued : p.token ∈ issuedTokens ((after now before).act issue).2)
    (hout : (after now (before ++ issue :: meanwhile)).outstanding = some p) :
    p.perPage = (after now before).perPage := by
  have hfirst := act_turn (after now before) issue
  induction meanwhile using List.reverseRecOn with
  | nil =>
    rw [after_snoc] at hout
    rcases hfirst.outstanding_cases p hout with ⟨-, hsize⟩ | hold
    · exact hsize
    · have hlast := (tokens_after now before).last p hold
      have hless := hfirst.lt_of_issued p.token hissued
      omega
  | append_singleton meanwhile b ih =>
    rw [← List.cons_append, ← List.append_assoc, after_snoc] at hout
    have hnext := act_turn (after now (before ++ issue :: meanwhile)) b
    rcases hnext.outstanding_cases p hout with ⟨hnew, -⟩ | hold
    · -- Its token was given out before, so it cannot be issued again.
      have hgiven : p.token ∈ issuedTokens (LogQuery.effects now (before ++ issue :: meanwhile)) := by
        simp only [effects_append, run, issuedTokens_append, List.mem_append]
        exact .inr (.inl hissued)
      have hle := (tokens_after now (before ++ issue :: meanwhile)).given p.token hgiven
      have hless := hnext.lt_of_issued p.token hnew
      omega
    · exact ih hold

/-- This action is an answer that counts, and it is shorter than a page was when its own request was issued. -/
def IsShortAnswer (now : Instant) (as : List Action) (a : Action) : Prop :=
  ∃ before issue meanwhile token records, as = before ++ issue :: meanwhile ∧
    token ∈ issuedTokens ((after now before).act issue).2 ∧ a = .respond token records ∧
    ((after now as).respond token records).2 = true ∧ records.length < (after now before).perPage

/-- A short answer has come, and the query has not changed since. -/
def Ended (now : Instant) (as : List Action) : Prop :=
  ∃ before answer since, as = before ++ answer :: since ∧ IsShortAnswer now before answer ∧
    ¬Edited now (before ++ [answer]) since

theorem isShortAnswer_iff (now : Instant) (as : List Action) (p : Pending) (records : List Record)
    (hout : (after now as).outstanding = some p) :
    IsShortAnswer now as (.respond p.token records) ↔ records.length < p.perPage := by
  constructor
  · intro h
    obtain ⟨before, issue, meanwhile, token, records', rfl, hissued, hsame, -, hshort⟩ := h
    obtain ⟨rfl, rfl⟩ := Action.respond.inj hsame
    rw [perPage_of_outstanding now before issue meanwhile p hissued hout]
    exact hshort
  · intro hshort
    obtain ⟨before, issue, meanwhile, rfl, hissued, -, -⟩ :=
      (awaited_iff now as p.token).mpr ⟨p, hout, rfl⟩
    have hsize := perPage_of_outstanding now before issue meanwhile p hissued hout
    have hcounts := congrArg Prod.snd (respond_of_current _ p records hout)
    refine ⟨before, issue, meanwhile, p.token, records, rfl, hissued, rfl, hcounts, ?_⟩
    omega

/-- An answer that does not count is no short answer, and neither is anything else. -/
theorem not_isShortAnswer (now : Instant) (as : List Action) (a : Action)
    (h : ∀ token records, a = .respond token records → (after now as).current? token = none) :
    ¬IsShortAnswer now as a := by
  intro hshort
  obtain ⟨before, issue, meanwhile, token, records, -, -, hanswer, hcounts, -⟩ := hshort
  rw [respond_of_stale _ token records (h token records hanswer)] at hcounts
  cases hcounts

theorem edited_snoc (now : Instant) (before since : List Action) (a : Action) :
    Edited now before (since ++ [a]) ↔
      Edited now before since ∨ (after now (before ++ since)).refilters a := by
  constructor
  · intro h
    obtain ⟨part, b, rest, hsplit, hb⟩ := h
    rcases List.eq_nil_or_concat rest with rfl | ⟨rest, last, rfl⟩
    · obtain ⟨rfl, rfl⟩ := List.append_singleton_inj.mp hsplit
      exact .inr hb
    · rw [List.concat_eq_append, ← List.cons_append, ← List.append_assoc] at hsplit
      obtain ⟨rfl, rfl⟩ := List.append_singleton_inj.mp hsplit
      exact .inl ⟨part, b, rest, rfl, hb⟩
  · intro h
    rcases h with ⟨part, b, rest, rfl, hb⟩ | hlast
    · exact ⟨part, b, rest ++ [a], by simp, hb⟩
    · exact ⟨since, a, [], rfl, hlast⟩

theorem ended_snoc (now : Instant) (as : List Action) (a : Action) :
    Ended now (as ++ [a]) ↔
      IsShortAnswer now as a ∨ (Ended now as ∧ ¬(after now as).refilters a) := by
  constructor
  · intro h
    obtain ⟨before, answer, since, hsplit, hshort, hkept⟩ := h
    rcases List.eq_nil_or_concat since with rfl | ⟨since, last, rfl⟩
    · obtain ⟨rfl, rfl⟩ := List.append_singleton_inj.mp hsplit
      exact .inl hshort
    · rw [List.concat_eq_append, ← List.cons_append, ← List.append_assoc] at hsplit
      obtain ⟨rfl, rfl⟩ := List.append_singleton_inj.mp hsplit
      rw [List.concat_eq_append, edited_snoc, not_or, List.append_assoc, List.singleton_append] at hkept
      exact .inr ⟨⟨before, answer, since, rfl, hshort, hkept.1⟩, hkept.2⟩
  · intro h
    rcases h with hshort | ⟨⟨before, answer, since, rfl, hshort, hkept⟩, hlast⟩
    · refine ⟨as, a, [], rfl, hshort, ?_⟩
      intro hedited
      obtain ⟨part, b, rest, hsplit, -⟩ := hedited
      simp at hsplit
    · refine ⟨before, answer, since ++ [a], by simp, hshort, ?_⟩
      rw [edited_snoc, not_or, List.append_assoc, List.singleton_append]
      exact ⟨hkept, hlast⟩

/-- What the query knows of the end is what the run tells. -/
theorem noMoreData_iff (now : Instant) (as : List Action) :
    (after now as).noMoreData = true ↔ Ended now as := by
  induction as using List.reverseRecOn with
  | nil =>
    constructor
    · intro h
      cases h
    · intro h
      obtain ⟨before, answer, since, hsplit, -⟩ := h
      simp at hsplit
  | append_singleton as a ih =>
    rw [ended_snoc, after_snoc, ← ih]
    have hmark := act_mark (after now as) a
    generalize ((after now as).act a).1 = q' at hmark
    cases hmark with
    | cleared _ hedit _ hflag _ =>
      have hnone : ¬IsShortAnswer now as a := by
        apply not_isShortAnswer
        intro token records hanswer
        subst hanswer
        cases hedit
      simp [hflag, hnone, hedit]
    | answered p records hout _ hflag _ =>
      have hedit : (after now as).refilters (.respond p.token records) = false := rfl
      simp [hflag, isShortAnswer_iff now as p records hout, hedit, or_comm]
    | kept _ hedit hstale _ hflag _ =>
      have hnone := not_isShortAnswer now as a hstale
      simp [hflag, hnone, hedit]

/-- An empty page is the end, whatever the size of a page was. -/
theorem noMoreData_of_empty (now : Instant) (as : List Action) (token : Nat)
    (hcounts : ((after now as).respond token []).2 = true) :
    ((after now as).respond token []).1.noMoreData = true := by
  obtain ⟨before, issue, meanwhile, hsplit, hissued, -, -⟩ := (respond_iff now as token []).mp hcounts
  have hshort : IsShortAnswer now as (.respond token []) :=
    ⟨before, issue, meanwhile, token, [], hsplit, hissued, rfl, hcounts, one_le_perPage_after now before⟩
  have hended := (ended_snoc now as (.respond token [])).mpr (.inl hshort)
  rw [← noMoreData_iff, after_snoc] at hended
  exact hended

/-- The end of the records, after any run. A page holds at least one record. The query takes it that there are
no more just when an answer was applied, since the last change of the query or since the start, that is shorter
than a page was when its own request was issued. So an empty page that is applied is always the end; answers that
do not count and failures say nothing of it. -/
theorem end_found_by_short_answer (now : Instant) (as : List Action) :
    let q := after now as
    1 ≤ q.perPage ∧
    (q.noMoreData = true ↔ ∃ before answer since, as = before ++ answer :: since ∧
      IsShortAnswer now before answer ∧ ¬Edited now (before ++ [answer]) since) ∧
    (∀ token, (q.respond token []).2 = true → (q.respond token []).1.noMoreData = true) ∧
    (∀ token records, (q.respond token records).2 = false →
      (q.respond token records).1.noMoreData = q.noMoreData) ∧
    ∀ token, (q.fetchFailed token).noMoreData = q.noMoreData := by
  intro q
  refine ⟨one_le_perPage_after now as, noMoreData_iff now as, noMoreData_of_empty now as, ?_, ?_⟩
  · intro token records hstale
    cases hcurrent : q.current? token with
    | none => rw [respond_of_stale q token records hcurrent]
    | some p =>
      obtain ⟨hout, rfl⟩ := (current?_eq_some_iff q token p).mp hcurrent
      rw [respond_of_current q p records hout] at hstale
      cases hstale
  · intro token
    exact (fetchFailed_flag q token).1

/-- Pages become smaller while a request is on its way; its answer is measured by the size they had. -/
example : (after ⟨0, 0⟩ [.beginFetch false, .changeFilters { perPage := some 0 },
    .respond 1 [⟨"7", "a", "info", "miner", "2018-10-01T12:00:00Z", "sealed"⟩]]).noMoreData = true :=
  rfl

end HubConsole.Dashboard.LogQuery
