import HubConsole.Proofs.Dashboard.LogPaging
import HubConsole.Proofs.Dashboard.LogToken

namespace HubConsole.Dashboard.LogQuery

open HubConsole.Log HubConsole.Time

/-- What a request asks, whichever page of the answer it wants. -/
def question (request : PageRequest) : PageRequest := { request with page := 1 }

/-- Only a change of the query makes the question another. -/
theorem question_act (q : LogQuery) (a : Action) (h : ¬q.refilters a) :
    question (q.act a).1.request = question q.request := by
  cases a with
  | changeFilters | setTargets => exact absurd rfl h
  | beginTargets | targetsFailed => rfl
  | beginFetch append =>
    simp only [act, announce, beginFetch, issue, question, request]
    rw [abandon_eq]
  | loadMore =>
    simp only [act, announce, loadMore, issue, question, request]
    rw [abandon_eq]
  | respond token records =>
    simp only [act, respond]
    split <;> rfl
  | fetchFailed token =>
    simp only [act, fetchFailed, rollBack]
    split
    · rfl
    · split <;> rfl
  | setAutoRefresh on now =>
    have hoff : on = false := Bool.not_eq_true on ▸ h
    subst hoff
    rfl
  | tick now =>
    have hoff : q.autoRefresh = false := Bool.not_eq_true _ ▸ h
    simp only [act, tick, hoff]
    rfl

/-- Some action after the first ones changes the query. -/
def Edited (now : Instant) (before since : List Action) : Prop :=
  ∃ part a rest, since = part ++ a :: rest ∧ (after now (before ++ part)).refilters a

theorem question_of_not_edited (now : Instant) (before since : List Action)
    (h : ¬Edited now before since) :
    question (after now (before ++ since)).request = question (after now before).request := by
  induction since using List.reverseRecOn with
  | nil => rw [List.append_nil]
  | append_singleton since a ih =>
    have hearlier : ¬Edited now before since := by
      intro hedited
      obtain ⟨part, b, rest, rfl, hb⟩ := hedited
      exact h ⟨part, b, rest ++ [a], by simp, hb⟩
    have hlast : ¬(after now (before ++ since)).refilters a := fun ha => h ⟨since, a, [], rfl, ha⟩
    rw [← List.append_assoc, after_snoc, question_act _ a hlast, ih hearlier]

/-- The request of an effect is the one that the query stands for when it is issued. -/
theorem Turn.request_eq {q : LogQuery} {a : Action} {r : LogQuery × List Effect} (h : Turn q a r)
    (token : Nat) (hissued : token ∈ issuedTokens r.2) :
    (token, r.1.request) ∈ issued r.2 := by
  cases h with
  | fetched | extended =>
    obtain rfl := List.mem_singleton.mp hissued
    exact List.mem_singleton_self _
  | answered | failed | stale | missed | other => cases hissued

/-- Where the pages of the query stand after a change, until more is asked for. -/
structure Rewound (q : LogQuery) : Prop where
  page : q.page = 1
  back : ∀ p, q.outstanding = some p → p.append → p.page = 1 → p.pageBefore = 1

theorem Rewound.rollBack {q : LogQuery} (h : Rewound q) (p : Pending)
    (hout : q.outstanding = some p) : ({ q with outstanding := none }.rollBack p).page = 1 := by
  unfold LogQuery.rollBack
  split
  · next hback =>
    obtain ⟨happend, hsame⟩ := hback
    exact h.back p hout happend (hsame.symm.trans h.page)
  · exact h.page

theorem Rewound.abandon {q : LogQuery} (h : Rewound q) : q.abandon.page = 1 := by
  cases hout : q.outstanding with
  | none =>
    rw [abandon_of_none q hout]
    exact h.page
  | some p =>
    rw [abandon_of_some q p hout]
    exact h.rollBack p hout

theorem Turn.rewound {q : LogQuery} {a : Action} {r : LogQuery × List Effect} (h : Turn q a r)
    (hq : Rewound q) (hmore : a ≠ .loadMore) : Rewound r.1 := by
  cases h with
  | fetched append q' hpage htoken hbuffer hout =>
    constructor
    · rw [hpage]
      exact hq.abandon
    · intro p hp _ _
      obtain rfl := Option.some.inj (hout.symm.trans hp)
      exact hq.abandon
  | extended => exact absurd rfl hmore
  | answered p records hout => exact ⟨hq.page, fun p' hp' => by cases hp'⟩
  | failed p hout =>
    refine ⟨hq.rollBack p hout, ?_⟩
    intro p' hp'
    rw [rollBack_outstanding] at hp'
    cases hp'
  | stale | missed => exact hq
  | other _ _ q' hpage htoken hbuffer hout =>
    constructor
    · rcases hpage with hpage | hpage
      · exact hpage.trans hq.page
      · exact hpage
    · rw [hout]
      exact hq.back

/-- A change goes back to the first page; the request on its way was for that page or a later one. -/
theorem rewound_of_refilters (now : Instant) (as : List Action) (a : Action)
    (h : (after now as).refilters a) : Rewound (after now (as ++ [a])) := by
  have hcounted := counted_after now (as ++ [a])
  constructor
  · rw [after_snoc]
    exact page_of_refilters _ a h
  · intro p hout _ hfirst
    obtain ⟨hone, hle⟩ := hcounted.back p hout
    omega

theorem rewound_after (now : Instant) (before since : List Action) (a : Action)
    (h : (after now before).refilters a) (hmore : .loadMore ∉ since) :
    Rewound (after now (before ++ a :: since)) := by
  induction since using List.reverseRecOn with
  | nil => exact rewound_of_refilters now before a h
  | append_singleton since b ih =>
    rw [List.mem_append, List.mem_singleton, not_or] at hmore
    rw [← List.cons_append, ← List.append_assoc, after_snoc]
    exact (act_turn _ b).rewound (ih hmore.1) (fun hb => hmore.2 hb.symm)

/-- The request on its way stays on its way: its answer counts as it did before, and brings the same in. -/
theorem respond_of_refilters (q : LogQuery) (a : Action) (h : q.refilters a) (token : Nat)
    (records : List Record) :
    ((q.act a).1.respond token records).2 = (q.respond token records).2 ∧
      ((q.act a).1.respond token records).1.buffer = (q.respond token records).1.buffer := by
  have hturn := act_turn q a
  generalize q.act a = r at hturn ⊢
  cases hturn with
  | fetched | extended | answered | failed | stale | missed => cases h
  | other _ _ q' _ _ hbuffer hout =>
    have hcurrent : q'.current? token = q.current? token := by rw [current?, hout, current?]
    unfold respond LogQuery.records
    rw [hcurrent, hbuffer]
    cases q.current? token with
    | none => exact ⟨rfl, hbuffer⟩
    | some p => exact ⟨rfl, rfl⟩

/-- Changes of the query and answers in flight. An answer that counts is one to the request issued last, and
its question is the current one unless the query has changed since that request was issued. A change gives up
no request: an answer counts after it if it counted before, and brings in the same. Once a request is issued
after a change, an answer to a request from before the change, or its failure, changes nothing. And until more
is asked for after a change the page stays the first, whatever is asked, answered or fails. -/
theorem changes_hold_from_next_request (now : Instant) (as : List Action) :
    (∀ token records, ((after now as).respond token records).2 = true →
      ∃ before a since request, as = before ++ a :: since ∧
        (token, request) ∈ issued ((after now before).act a).2 ∧ (∀ b ∈ since, ¬b.issues) ∧
        (¬Edited now (before ++ [a]) since →
          question request = question (after now as).request)) ∧
    (∀ edit token records, (after now as).refilters edit →
      ((after now (as ++ [edit])).respond token records).2 = ((after now as).respond token records).2 ∧
        ((after now (as ++ [edit])).respond token records).1.buffer =
          ((after now as).respond token records).1.buffer) ∧
    (∀ before edit since token records, as = before ++ edit :: since →
      (after now before).refilters edit → (∃ a ∈ since, a.issues) →
        token ∈ issuedTokens (LogQuery.effects now before) →
          (after now as).respond token records = (after now as, false) ∧
            (after now as).fetchFailed token = after now as) ∧
    (∀ before edit since, as = before ++ edit :: since → (after now before).refilters edit →
      .loadMore ∉ since → (after now as).page = 1) := by
  refine ⟨?_, ?_, ?_, ?_⟩
  · intro token records hcounts
    obtain ⟨before, a, since, rfl, hissued, hnone, -⟩ :=
      (respond_iff now as token records).mp hcounts
    have hrequest := (act_turn (after now before) a).request_eq token hissued
    refine ⟨before, a, since, _, rfl, hrequest, fun b hmem => (hnone b hmem).1, ?_⟩
    intro hedited
    have hsame := question_of_not_edited now (before ++ [a]) since hedited
    rw [List.append_assoc, List.singleton_append, after_snoc] at hsame
    exact hsame.symm
  · intro edit token records hedit
    rw [after_snoc]
    exact respond_of_refilters _ edit hedit token records
  · intro before edit since token records hsplit _ hnew hold
    subst hsplit
    obtain ⟨a, hmem, ha⟩ := hnew
    have hissues : ∃ b ∈ edit :: since, b.issues := ⟨a, List.mem_cons_of_mem _ hmem, ha⟩
    have hnone := not_awaited_of_superseded now before (edit :: since) token hold hissues
    have hstale := current?_eq_none_of_not_awaited now _ token hnone
    exact ⟨respond_of_stale _ token records hstale, fetchFailed_of_stale _ token hstale⟩
  · intro before edit since hsplit hedit hmore
    subst hsplit
    exact (rewound_after now before since edit hedit hmore).page

/-- While no request has been issued since a change, the answer to the last one still counts: records that
do not fit the query come in, and its short page is taken for the end of the data. -/
theorem answer_counts_after_change :
    let as : List Action := [.beginFetch false, .changeFilters { search := some "sealed" }]
    let q := after ⟨0, 0⟩ as
    let r : Record := ⟨"7", "a", "info", "miner", "2018-10-01T12:00:00Z", "unrelated"⟩
    ∃ request, (1, request) ∈ issued (LogQuery.effects ⟨0, 0⟩ as) ∧ (q.respond 1 [r]).2 = true ∧
      request.search = "" ∧ q.request.search = "sealed" ∧ question request ≠ question q.request ∧
      (q.respond 1 [r]).1.buffer = some [r] ∧ q.noMoreData = false ∧
      (q.respond 1 [r]).1.noMoreData = true := by
  refine ⟨(start ⟨0, 0⟩).request, List.mem_singleton_self _, rfl, rfl, rfl, ?_, rfl, rfl, rfl⟩
  intro hsame
  have hsearch : "" = "sealed" := congrArg PageRequest.search hsame
  revert hsearch
  decide

end HubConsole.Dashboard.LogQuery
