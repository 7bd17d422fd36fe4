import HubConsole.Proofs.Dashboard.LogRun
import Mathlib.Data.List.Nodup

namespace HubConsole.Dashboard.LogQuery

open HubConsole.Log HubConsole.Time

def issuedTokens (effects : List Effect) : List Nat := (issued effects).map Prod.fst

def appliedTokens (effects : List Effect) : List Nat := (applied effects).map Prod.fst

@[simp] theorem issuedTokens_append (es fs : List Effect) :
    issuedTokens (es ++ fs) = issuedTokens es ++ issuedTokens fs := by
  simp [issuedTokens]

@[simp] theorem appliedTokens_append (es fs : List Effect) :
    appliedTokens (es ++ fs) = appliedTokens es ++ appliedTokens fs := by
  simp [appliedTokens]

/-- What the tokens of a run tell about the query after it. -/
structure Tokens (effects : List Effect) (q : LogQuery) : Prop where
  increasing : (issuedTokens effects).Pairwise (· < ·)
  given : ∀ token ∈ issuedTokens effects, token ≤ q.lastToken
  once : (appliedTokens effects).Nodup
  past : ∀ token ∈ appliedTokens effects, token ≤ q.lastToken
  last : ∀ p, q.outstanding = some p → p.token = q.lastToken
  unanswered : ∀ p, q.outstanding = some p → p.token ∉ appliedTokens effects

variable {effects : List Effect} {q : LogQuery}

theorem Tokens.issue (h : Tokens effects q) (q' : LogQuery) (p : Pending) (request : PageRequest)
    (htoken : q'.lastToken = q.lastToken + 1) (hout : q'.outstanding = some p)
    (hp : p.token = q.lastToken + 1) : Tokens (effects ++ [.issued q'.lastToken request]) q' := by
  have hissued : issuedTokens (effects ++ [.issued q'.lastToken request]) =
      issuedTokens effects ++ [q.lastToken + 1] := by
    rw [issuedTokens, issued_snoc_issued, List.map_append, htoken]
    rfl
  have happlied : appliedTokens (effects ++ [.issued q'.lastToken request]) =
      appliedTokens effects := by
    rw [appliedTokens, applied_snoc_issued]
    rfl
  constructor
  · rw [hissued]
    refine List.pairwise_append.mpr ⟨h.increasing, List.pairwise_singleton _ _, ?_⟩
    intro token hmem next hnext
    rw [List.mem_singleton.mp hnext]
    exact Nat.lt_succ_of_le (h.given token hmem)
  · intro token hmem
    rw [hissued, List.mem_append, List.mem_singleton] at hmem
    rw [htoken]
    rcases hmem with hmem | rfl
    · exact Nat.le_succ_of_le (h.given token hmem)
    · exact Nat.le_refl _
  · rw [happlied]
    exact h.once
  · intro token hmem
    rw [happlied] at hmem
    rw [htoken]
    exact Nat.le_succ_of_le (h.past token hmem)
  · intro p' hp'
    obtain rfl := Option.some.inj (hout.symm.trans hp')
    rw [hp, htoken]
  · intro p' hp' hmem
    obtain rfl := Option.some.inj (hout.symm.trans hp')
    rw [happlied] at hmem
    have hle := h.past p.token hmem
    omega

theorem Tokens.answer (h : Tokens effects q) (q' : LogQuery) (p : Pending) (records : List Record)
    (hout : q.outstanding = some p) (htoken : q'.lastToken = q.lastToken)
    (hnone : q'.outstanding = none) : Tokens (effects ++ [.applied p.token records]) q' := by
  have hissued : issuedTokens (effects ++ [.applied p.token records]) = issuedTokens effects := by
    rw [issuedTokens, issued_snoc_applied]
    rfl
  have happlied : appliedTokens (effects ++ [.applied p.token records]) =
      appliedTokens effects ++ [p.token] := by
    rw [appliedTokens, applied_snoc_applied, List.map_append]
    rfl
  constructor
  · rw [hissued]
    exact h.increasing
  · rw [hissued, htoken]
    exact h.given
  · rw [happlied]
    refine List.nodup_append.mpr ⟨h.once, List.nodup_singleton _, ?_⟩
    intro token hmem last hlast hsame
    subst hsame
    rw [List.mem_singleton.mp hlast] at hmem
    exact h.unanswered p hout hmem
  · intro token hmem
    rw [happlied, List.mem_append, List.mem_singleton] at hmem
    rw [htoken]
    rcases hmem with hmem | rfl
    · exact h.past token hmem
    · exact Nat.le_of_eq (h.last p hout)
  · intro p' hp'
    rw [hnone] at hp'
    cases hp'
  · intro p' hp'
    rw [hnone] at hp'
    cases hp'

/-- Nothing is issued or applied, and no request is added. -/
theorem Tokens.quiet (h : Tokens effects q) (q' : LogQuery) (htoken : q'.lastToken = q.lastToken)
    (hout : ∀ p, q'.outstanding = some p → q.outstanding = some p) : Tokens (effects ++ []) q' := by
  rw [List.append_nil]
  constructor
  · exact h.increasing
  · rw [htoken]
    exact h.given
  · exact h.once
  · rw [htoken]
    exact h.past
  · intro p hp
    rw [htoken]
    exact h.last p (hout p hp)
  · intro p hp
    exact h.unanswered p (hout p hp)

theorem Turn.tokens {a : Action} {r : LogQuery × List Effect} (h : Turn q a r)
    (ht : Tokens effects q) : Tokens (effects ++ r.2) r.1 := by
  cases h with
  | fetched append q' hpage htoken hbuffer hout => exact ht.issue q' _ _ htoken hout rfl
  | extended q' hpage htoken hbuffer hout => exact ht.issue q' _ _ htoken hout rfl
  | answered p records hout => exact ht.answer _ p records hout rfl rfl
  | failed p hout =>
    refine ht.quiet _ (rollBack_lastToken _ p) ?_
    intro p' hp'
    rw [rollBack_outstanding] at hp'
    cases hp'
  | stale | missed => exact ht.quiet q rfl (fun _ hp => hp)
  | other _ _ q' _ htoken _ hout =>
    refine ht.quiet q' htoken ?_
    intro p hp
    rw [← hout]
    exact hp

theorem tokens_after (now : Instant) (as : List Action) :
    Tokens (LogQuery.effects now as) (after now as) := by
  induction as using List.reverseRecOn with
  | nil =>
    constructor
    · exact .nil
    · intro token hmem
      cases hmem
    · exact .nil
    · intro token hmem
      cases hmem
    · intro p hp
      cases hp
    · intro p hp
      cases hp
  | append_singleton as a ih =>
    rw [effects_snoc, after_snoc]
    exact (act_turn _ a).tokens ih

/-- The last request was issued under this token, and it has neither been answered nor failed. -/
def Awaited (now : Instant) (as : List Action) (token : Nat) : Prop :=
  ∃ before a since, as = before ++ a :: since ∧ token ∈ issuedTokens ((after now before).act a).2 ∧
    (∀ b ∈ since, ¬b.issues ∧ b ≠ .fetchFailed token) ∧
      token ∉ appliedTokens (LogQuery.effects now as)

/-- A request is kept from when it is issued until another is, its answer comes or it fails. -/
theorem Turn.outstanding_iff {a : Action} {r : LogQuery × List Effect} (h : Turn q a r)
    (token : Nat) :
    (∃ p, r.1.outstanding = some p ∧ p.token = token) ↔
      token ∈ issuedTokens r.2 ∨
        ((∃ p, q.outstanding = some p ∧ p.token = token) ∧ ¬a.issues ∧ a ≠ .fetchFailed token ∧
          token ∉ appliedTokens r.2) := by
  cases h with
  | fetched append q' hpage htoken hbuffer hout =>
    simp [hout, htoken, issuedTokens, issued, Action.issues, eq_comm]
  | extended q' hpage htoken hbuffer hout =>
    simp [hout, htoken, issuedTokens, issued, Action.issues, eq_comm]
  | answered p records hout =>
    constructor
    · intro h
      obtain ⟨p', hp', -⟩ := h
      cases hp'
    · intro h
      rcases h with hmem | ⟨⟨p', hp', rfl⟩, -, -, hnew⟩
      · cases hmem
      · obtain rfl := Option.some.inj (hout.symm.trans hp')
        exact absurd (List.mem_singleton_self _) hnew
  | failed p hout =>
    constructor
    · intro h
      obtain ⟨p', hp', -⟩ := h
      rw [rollBack_outstanding] at hp'
      cases hp'
    · intro h
      rcases h with hmem | ⟨⟨p', hp', rfl⟩, -, hfailed, -⟩
      · cases hmem
      · obtain rfl := Option.some.inj (hout.symm.trans hp')
        exact absurd rfl hfailed
  | stale token' records hcurrent =>
    simp [issuedTokens, issued, appliedTokens, applied, Action.issues]
  | missed token' hcurrent =>
    have hother := (current?_eq_none_iff q token').mp hcurrent
    simp only [issuedTokens, issued, appliedTokens, applied, Action.issues]
    constructor
    · intro h
      obtain ⟨p, hout, rfl⟩ := h
      refine .inr ⟨⟨p, hout, rfl⟩, by simp, ?_, by simp⟩
      intro hsame
      exact hother p hout (Action.fetchFailed.inj hsame).symm
    · intro h
      rcases h with hmem | ⟨hkept, -⟩
      · cases hmem
      · exact hkept
  | other _ haside q' hpage htoken hbuffer hout =>
    have hissues : ¬a.issues ∧ a ≠ .fetchFailed token := by
      cases a <;> simp [Action.isAside, Action.issues] at haside ⊢
    simp [hout, hissues, issuedTokens, issued, appliedTokens, applied]

theorem awaited_snoc (now : Instant) (as : List Action) (a : Action) (token : Nat) :
    Awaited now (as ++ [a]) token ↔
      token ∈ issuedTokens ((after now as).act a).2 ∨
        (Awaited now as token ∧ ¬a.issues ∧ a ≠ .fetchFailed token ∧
          token ∉ appliedTokens ((after now as).act a).2) := by
  constructor
  · intro h
    obtain ⟨before, b, since, hsplit, hissued, hnone, hnew⟩ := h
    rcases List.eq_nil_or_concat since with rfl | ⟨since, last, rfl⟩
    · obtain ⟨rfl, rfl⟩ := List.append_singleton_inj.mp hsplit
      exact .inl hissued
    · rw [List.concat_eq_append, ← List.cons_append, ← List.append_assoc] at hsplit
      obtain ⟨rfl, rfl⟩ := List.append_singleton_inj.mp hsplit
      rw [effects_snoc, appliedTokens_append, List.mem_append, not_or] at hnew
      obtain ⟨hissues, hfailed⟩ := hnone a (by simp)
      refine .inr ⟨⟨before, b, since, rfl, hissued, ?_, hnew.1⟩, hissues, hfailed, hnew.2⟩
      intro c hmem
      exact hnone c (by simp [hmem])
  · intro h
    rcases h with hissued | ⟨⟨before, b, since, rfl, hissued, hnone, hnew⟩, hissues, hfailed, hlast⟩
    · refine ⟨as, a, [], rfl, hissued, ?_, ?_⟩
      · intro b hmem
        cases hmem
      · have hturn := act_turn (after now as) a
        obtain ⟨p, hout, rfl⟩ := (hturn.outstanding_iff token).mpr (.inl hissued)
        rw [← after_snoc] at hout
        exact (tokens_after now (as ++ [a])).unanswered p hout
    · refine ⟨before, b, since ++ [a], by simp, hissued, ?_, ?_⟩
      · intro c hmem
        rcases List.mem_append.mp hmem with hmem | hmem
        · exact hnone c hmem
        · rw [List.mem_singleton.mp hmem]
          exact ⟨hissues, hfailed⟩
      · rw [effects_snoc, appliedTokens_append, List.mem_append, not_or]
        exact ⟨hnew, hlast⟩

/-- The request that is awaited is the one that the query keeps. -/
theorem awaited_iff (now : Instant) (as : List Action) (token : Nat) :
    Awaited now as token ↔ ∃ p, (after now as).outstanding = some p ∧ p.token = token := by
  induction as using List.reverseRecOn with
  | nil =>
    constructor
    · intro h
      obtain ⟨before, a, since, hsplit, -⟩ := h
      simp at hsplit
    · intro h
      obtain ⟨p, hout, -⟩ := h
      cases hout
  | append_singleton as a ih =>
    rw [awaited_snoc, ih, after_snoc]
    exact ((act_turn _ a).outstanding_iff token).symm

theorem current?_eq_none_of_not_awaited (now : Instant) (as : List Action) (token : Nat)
    (h : ¬Awaited now as token) : (after now as).current? token = none := by
  rw [current?_eq_none_iff]
  intro p hout hsame
  exact h ((awaited_iff now as token).mpr ⟨p, hout, hsame⟩)

/-- An answer counts just when its request is awaited. -/
theorem respond_iff (now : Instant) (as : List Action) (token : Nat) (records : List Record) :
    ((after now as).respond token records).2 = true ↔ Awaited now as token := by
  constructor
  · intro hcounts
    by_contra hnone
    have hcurrent := current?_eq_none_of_not_awaited now as token hnone
    rw [respond_of_stale _ token records hcurrent] at hcounts
    cases hcounts
  · intro hawaited
    obtain ⟨p, hout, rfl⟩ := (awaited_iff now as token).mp hawaited
    rw [respond_of_current _ p records hout]

/-- Once another request is issued, no request from before is awaited. -/
theorem not_awaited_of_superseded (now : Instant) (before since : List Action) (token : Nat)
    (hold : token ∈ issuedTokens (LogQuery.effects now before)) (hnew : ∃ a ∈ since, a.issues) :
    ¬Awaited now (before ++ since) token := by
  induction since using List.reverseRecOn with
  | nil =>
    obtain ⟨a, hmem, -⟩ := hnew
    cases hmem
  | append_singleton since a ih =>
    have hincreasing := (tokens_after now (before ++ since ++ [a])).increasing
    rw [effects_snoc, issuedTokens_append, List.pairwise_append] at hincreasing
    have holder : token ∈ issuedTokens (LogQuery.effects now (before ++ since)) := by
      rw [effects_append, issuedTokens_append]
      exact List.mem_append_left _ hold
    rw [← List.append_assoc, awaited_snoc]
    intro h
    rcases h with hissued | ⟨hawaited, hissues, -⟩
    · exact absurd (hincreasing.2.2 token holder token hissued) (Nat.lt_irrefl token)
    · obtain ⟨b, hmem, hb⟩ := hnew
      rcases List.mem_append.mp hmem with hmem | hmem
      · exact ih ⟨b, hmem, hb⟩ hawaited
      · rw [List.mem_singleton.mp hmem] at hb
        exact hissues hb

/-- The last request wins. Tokens grow; an answer counts just when its request is the last one and has
neither been answered nor failed, so none counts twice and none counts once a later request is issued; all
other answers and failures change nothing. -/
theorem last_request_wins (now : Instant) (as : List Action) :
    (issuedTokens (LogQuery.effects now as)).Pairwise (· < ·) ∧
    (∀ token records, ((after now as).respond token records).2 = true ↔ Awaited now as token) ∧
    (appliedTokens (LogQuery.effects now as)).Nodup ∧
    (∀ before since token, as = before ++ since →
      token ∈ issuedTokens (LogQuery.effects now before) → (∃ a ∈ since, a.issues) →
        ∀ records, ((after now as).respond token records).2 = false) ∧
    (∀ token, ¬Awaited now as token →
      (after now as).fetchFailed token = after now as ∧
        ∀ records, (after now as).respond token records = (after now as, false)) := by
  have htokens := tokens_after now as
  refine ⟨htokens.increasing, respond_iff now as, htokens.once, ?_, ?_⟩
  · intro before since token hsplit hold hnew records
    subst hsplit
    have hnone := not_awaited_of_superseded now before since token hold hnew
    have hstale := current?_eq_none_of_not_awaited now _ token hnone
    rw [respond_of_stale _ token records hstale]
  · intro token hnone
    have hstale := current?_eq_none_of_not_awaited now as token hnone
    refine ⟨fetchFailed_of_stale _ token hstale, ?_⟩
    intro records
    exact respond_of_stale _ token records hstale

end HubConsole.Dashboard.LogQuery
