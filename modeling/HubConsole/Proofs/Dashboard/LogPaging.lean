import HubConsole.Proofs.Dashboard.LogRun

namespace HubConsole.Dashboard.LogQuery

open HubConsole.Log HubConsole.Time

/-- The actions that change the query and go back to its first page. -/
def refilters (q : LogQuery) : Action → Bool
  | .changeFilters _ | .setTargets _ => true
  | .setAutoRefresh on _ => on
  | .tick _ => q.autoRefresh
  | _ => false

theorem page_of_refilters (q : LogQuery) (a : Action) (h : q.refilters a) :
    (q.act a).1.page = 1 := by
  cases a with
  | changeFilters | setTargets => rfl
  | setAutoRefresh on now =>
    obtain rfl : on = true := h
    rfl
  | tick now =>
    have hon : q.autoRefresh = true := h
    simp only [act, tick, hon, if_true]
    rfl
  | beginFetch | loadMore | respond | fetchFailed | beginTargets | targetsFailed => cases h

/-- Pages are counted from one, also the page that a request goes back to. -/
structure Counted (q : LogQuery) : Prop where
  page : 1 ≤ q.page
  back : ∀ p, q.outstanding = some p → 1 ≤ p.pageBefore ∧ p.pageBefore ≤ p.page

variable {q : LogQuery}

theorem Counted.rollBack (h : Counted q) (p : Pending) (hout : q.outstanding = some p) :
    1 ≤ ({ q with outstanding := none }.rollBack p).page := by
  unfold LogQuery.rollBack
  split
  · exact (h.back p hout).1
  · exact h.page

theorem Counted.abandon (h : Counted q) : 1 ≤ q.abandon.page := by
  cases hout : q.outstanding with
  | none =>
    rw [abandon_of_none q hout]
    exact h.page
  | some p =>
    rw [abandon_of_some q p hout]
    exact h.rollBack p hout

theorem Turn.counted {a : Action} {r : LogQuery × List Effect} (h : Turn q a r) (hq : Counted q) :
    Counted r.1 := by
  have habandon := hq.abandon
  cases h with
  | fetched append q' hpage htoken hbuffer hout =>
    constructor
    · rw [hpage]
      exact habandon
    · intro p hp
      obtain rfl := Option.some.inj (hout.symm.trans hp)
      exact ⟨habandon, Nat.le_refl _⟩
  | extended q' hpage htoken hbuffer hout =>
    constructor
    · rw [hpage]
      exact Nat.le_add_left _ _
    · intro p hp
      obtain rfl := Option.some.inj (hout.symm.trans hp)
      exact ⟨habandon, Nat.le_succ _⟩
  | answered p records hout => exact ⟨hq.page, fun p' hp' => by cases hp'⟩
  | failed p hout =>
    refine ⟨hq.rollBack p hout, ?_⟩
    intro p' hp'
    rw [rollBack_outstanding] at hp'
    cases hp'
  | stale | missed => exact hq
  | other _ _ q' hpage htoken hbuffer hout =>
    constructor
    · rcases hpage with hpage | hpage
      · rw [hpage]
        exact hq.page
      · exact Nat.le_of_eq hpage.symm
    · rw [hout]
      exact hq.back

theorem counted_after (now : Instant) (as : List Action) : Counted (after now as) := by
  induction as using List.reverseRecOn with
  | nil => exact ⟨Nat.le_refl _, fun p hp => by cases hp⟩
  | append_singleton as a ih =>
    rw [after_snoc]
    exact (act_turn _ a).counted ih

/-- On the first page there is no page to go back to. -/
theorem Counted.abandon_first (h : Counted q) (hpage : q.page = 1) : q.abandon.page = 1 := by
  cases hout : q.outstanding with
  | none =>
    rw [abandon_of_none q hout]
    exact hpage
  | some p =>
    rw [abandon_of_some q p hout]
    unfold LogQuery.rollBack
    split
    · next hback =>
      -- The request that is given up was for the first page as well.
      obtain ⟨hfirst, hle⟩ := h.back p hout
      have hsame : q.page = p.page := hback.2
      change p.pageBefore = 1
      omega
    · exact hpage

/-- What can happen while more and more pages are asked for. -/
inductive Paging where
  | more
  | answer (token : Nat) (records : List Record)
  | failure (token : Nat)

def Paging.action : Paging → Action
  | .more => .loadMore
  | .answer token records => .respond token records
  | .failure token => .fetchFailed token

/-- The first page is there, and after it the pages that were applied, none left out. -/
structure Paged (first : List Record) (effects : List Effect) (q : LogQuery) : Prop where
  records : q.buffer = some (first ++ ((applied effects).map Prod.snd).flatten)
  pages : ∀ k token records, (applied effects)[k]? = some (token, records) →
    ∃ request, (token, request) ∈ issued effects ∧ request.page = k + 2
  page : q.page = 1 + (applied effects).length + (if q.isFetching then 1 else 0)
  more : ∀ p, q.outstanding = some p → p.append ∧ p.page = q.page ∧ p.pageBefore + 1 = q.page ∧
    ∃ request, (p.token, request) ∈ issued effects ∧ request.page = q.page

variable {first : List Record} {effects : List Effect}

/-- A request for more that is not answered leaves the page where it was. -/
theorem Paged.rollBack (h : Paged first effects q) (p : Pending) (hout : q.outstanding = some p) :
    ({ q with outstanding := none }.rollBack p).page = 1 + (applied effects).length := by
  obtain ⟨happend, hsame, hbefore, -⟩ := h.more p hout
  have hpage := h.page
  rw [isFetching, hout] at hpage
  unfold LogQuery.rollBack
  rw [if_pos ⟨happend, hsame.symm⟩]
  simp only [Option.isSome_some, if_true] at hpage
  change p.pageBefore = _
  omega

theorem Paged.abandon (h : Paged first effects q) :
    q.abandon.page = 1 + (applied effects).length := by
  cases hout : q.outstanding with
  | none =>
    have hpage := h.page
    rw [isFetching, hout] at hpage
    rw [abandon_of_none q hout]
    exact hpage
  | some p =>
    rw [abandon_of_some q p hout]
    exact h.rollBack p hout

theorem Paged.extend (h : Paged first effects q) (q' : LogQuery) (p : Pending)
    (hpage : q'.page = q.abandon.page + 1) (hbuffer : q'.buffer = q.buffer)
    (hout : q'.outstanding = some p) (happend : p.append) (hsame : p.page = q.abandon.page + 1)
    (hback : p.pageBefore = q.abandon.page) (htoken : p.token = q'.lastToken) :
    Paged first (effects ++ [.issued q'.lastToken q'.request]) q' := by
  have hbase := h.abandon
  constructor
  · rw [applied_snoc_issued, hbuffer]
    exact h.records
  · intro k token records hk
    rw [applied_snoc_issued] at hk
    obtain ⟨request, hmem, hrequest⟩ := h.pages k token records hk
    rw [issued_snoc_issued]
    exact ⟨request, List.mem_append_left _ hmem, hrequest⟩
  · rw [applied_snoc_issued, isFetching, hout, hpage, hbase]
    rfl
  · intro p' hp'
    obtain rfl := Option.some.inj (hout.symm.trans hp')
    refine ⟨happend, by omega, by omega, q'.request, ?_, rfl⟩
    rw [issued_snoc_issued, htoken]
    exact List.mem_concat_self

theorem Paged.answer (h : Paged first effects q) (q' : LogQuery) (p : Pending)
    (records : List Record) (hout : q.outstanding = some p) (hpage : q'.page = q.page)
    (hnone : q'.outstanding = none)
    (hbuffer : q'.buffer = if p.append then some (q.records ++ records) else some records) :
    Paged first (effects ++ [.applied p.token records]) q' := by
  obtain ⟨happend, -, -, request, hmem, hrequest⟩ := h.more p hout
  have hcount := h.page
  rw [isFetching, hout] at hcount
  simp only [Option.isSome_some, if_true] at hcount
  constructor
  · rw [applied_snoc_applied, hbuffer, if_pos happend, LogQuery.records, h.records]
    simp
  · intro k token found hk
    rw [applied_snoc_applied] at hk
    rw [issued_snoc_applied]
    by_cases hless : k < (applied effects).length
    · rw [List.getElem?_append_left hless] at hk
      exact h.pages k token found hk
    · -- What is not among the earlier answers is the one that has just come.
      rw [List.getElem?_append_right (Nat.le_of_not_lt hless)] at hk
      obtain ⟨hlast, hfound⟩ := List.getElem?_eq_some_iff.mp hk
      have hk0 : k - (applied effects).length = 0 := by simpa using hlast
      simp only [hk0, List.getElem_cons_zero] at hfound
      obtain ⟨rfl, rfl⟩ := Prod.mk.inj hfound
      exact ⟨request, hmem, by omega⟩
  · rw [applied_snoc_applied, isFetching, hnone, hpage, List.length_append, hcount]
    rfl
  · intro p' hp'
    rw [hnone] at hp'
    cases hp'

theorem Paged.fail (h : Paged first effects q) (p : Pending) (hout : q.outstanding = some p) :
    Paged first (effects ++ []) ({ q with outstanding := none }.rollBack p) := by
  rw [List.append_nil]
  constructor
  · rw [rollBack_buffer]
    exact h.records
  · exact h.pages
  · rw [isFetching, rollBack_outstanding]
    exact h.rollBack p hout
  · intro p' hp'
    rw [rollBack_outstanding] at hp'
    cases hp'

theorem Paged.act (h : Paged first effects q) (m : Paging) :
    Paged first (effects ++ (q.act m.action).2) (q.act m.action).1 := by
  have hturn := act_turn q m.action
  generalize q.act m.action = r at hturn
  have hsame : Paged first (effects ++ []) q := by
    rw [List.append_nil]
    exact h
  cases m with
  | more =>
    cases hturn with
    | extended q' hpage htoken hbuffer hout =>
      exact h.extend q' _ hpage hbuffer hout rfl rfl rfl htoken.symm
    | other _ haside => cases haside
  | answer token records =>
    cases hturn with
    | answered p records hout => exact h.answer _ p records hout rfl rfl rfl
    | stale => exact hsame
    | other _ haside => cases haside
  | failure token =>
    cases hturn with
    | failed p hout => exact h.fail p hout
    | missed => exact hsame
    | other _ haside => cases haside

theorem Paged.run (h : Paged first effects q) (moves : List Paging) :
    Paged first (effects ++ (q.run (moves.map Paging.action)).2)
      (q.run (moves.map Paging.action)).1 := by
  induction moves generalizing q effects with
  | nil =>
    rw [List.map_nil, LogQuery.run, List.append_nil]
    exact h
  | cons m moves ih =>
    have hrest := ih (h.act m)
    rw [List.append_assoc] at hrest
    exact hrest

/-- The first page is asked for and comes. -/
def openFirst (q : LogQuery) (first : List Record) : LogQuery × Bool :=
  (q.beginFetch false).respond (q.beginFetch false).lastToken first

theorem Counted.paged_openFirst (h : Counted q) (hpage : q.page = 1) (first : List Record) :
    (q.openFirst first).2 = true ∧ Paged first [] (q.openFirst first).1 := by
  let p : Pending :=
    ⟨(q.beginFetch false).lastToken, false, q.abandon.perPage, q.abandon.page, q.abandon.page⟩
  have hout : (q.beginFetch false).outstanding = some p := rfl
  have hopen : q.openFirst first = _ := respond_of_current (q.beginFetch false) p first hout
  rw [hopen]
  refine ⟨rfl, ?_, ?_, h.abandon_first hpage, ?_⟩
  · exact congrArg some (List.append_nil first).symm
  · intro k token records hk
    cases hk
  · intro p' hp'
    cases hp'

/-- Paging neither skips nor repeats a page. Once the query has changed and its first page has come,
whatever is asked for, answered or fails in whatever order, the records are the first page and then the
answers that were applied, in order; these are the pages from the second on; and the page is one more than
their number, and again one more while a request is on its way. -/
theorem load_more_keeps_pages (now : Instant) (as : List Action) (a : Action) (first : List Record)
    (moves : List Paging) (h : (after now as).refilters a) :
    let q := (after now (as ++ [a])).openFirst first
    let r := q.1.run (moves.map Paging.action)
    q.2 = true ∧ ((after now (as ++ [a])).beginFetch false).request.page = 1 ∧
      r.1.buffer = some (first ++ ((applied r.2).map Prod.snd).flatten) ∧
      (∀ k token records, (applied r.2)[k]? = some (token, records) →
        ∃ request, (token, request) ∈ issued r.2 ∧ request.page = k + 2) ∧
      r.1.page = 1 + (applied r.2).length + (if r.1.isFetching then 1 else 0) := by
  intro q r
  have hcounted := counted_after now (as ++ [a])
  have hpage : (after now (as ++ [a])).page = 1 := by
    rw [after_snoc]
    exact page_of_refilters _ a h
  obtain ⟨hcounts, hpaged⟩ := hcounted.paged_openFirst hpage first
  have hrun := hpaged.run moves
  rw [List.nil_append] at hrun
  exact ⟨hcounts, hcounted.abandon_first hpage, hrun.records, hrun.pages, hrun.page⟩

/-- The first request for more fails, the second one brings the second page, and the third is on its way. -/
theorem second_page_after_failure :
    let record (id : String) : Record := ⟨id, "a", "info", "miner", "2018-10-01T12:00:00Z", "sealed"⟩
    let edit : Action := .changeFilters { search := some "sealed", perPage := some 2 }
    let r := ((after ⟨0, 0⟩ [edit]).openFirst [record "1", record "2"]).1.run
      [.loadMore, .fetchFailed 2, .loadMore, .respond 3 [record "3"], .loadMore]
    (after ⟨0, 0⟩ []).refilters edit = true ∧ r.1.buffer = some [record "1", record "2", record "3"] ∧
      (∃ request, (3, request) ∈ issued r.2 ∧ request.page = 2) ∧ r.1.page = 3 := by
  intro record edit r
  have h : (after ⟨0, 0⟩ []).refilters edit = true := rfl
  have happlied : applied r.2 = [(3, [record "3"])] := rfl
  have hall : _ ∧ _ ∧ r.1.buffer = some ([record "1", record "2"] ++ ((applied r.2).map Prod.snd).flatten) ∧
      (∀ k token records, (applied r.2)[k]? = some (token, records) →
        ∃ request, (token, request) ∈ issued r.2 ∧ request.page = k + 2) ∧
      r.1.page = 1 + (applied r.2).length + (if r.1.isFetching then 1 else 0) :=
    load_more_keeps_pages ⟨0, 0⟩ [] edit [record "1", record "2"]
      [.more, .failure 2, .more, .answer 3 [record "3"], .more] h
  obtain ⟨-, -, hbuffer, hpages, hpage⟩ := hall
  rw [happlied] at hbuffer hpages hpage
  exact ⟨h, hbuffer, hpages 0 3 [record "3"] rfl, hpage⟩

end HubConsole.Dashboard.LogQuery
