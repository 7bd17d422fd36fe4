import HubConsole.Dashboard.LogQuery
import Mathlib.Data.List.Induction

namespace HubConsole.Dashboard.LogQuery

open HubConsole.Log HubConsole.Time

/-- All that can be done with a query. Tokens come back from elsewhere, so any token can come. -/
inductive Action where
  | changeFilters (c : FilterChange)
  | beginFetch (append : Bool)
  | loadMore
  | respond (token : Nat) (records : List Record)
  | fetchFailed (token : Nat)
  | beginTargets
  | targetsFailed
  | setTargets (targets : List String)
  | setAutoRefresh (on : Bool) (now : Instant)
  | tick (now : Instant)

/-- The actions that ask for records. -/
def Action.issues : Action → Bool
  | .beginFetch _ | .loadMore => true
  | _ => false

/-- The actions that neither ask for records nor take an answer. -/
def Action.isAside : Action → Bool
  | .beginFetch _ | .loadMore | .respond _ _ | .fetchFailed _ => false
  | _ => true

/-- What an action does for others: a request to send, or records that came in answer to one. -/
inductive Effect where
  | issued (token : Nat) (request : PageRequest)
  | applied (token : Nat) (records : List Record)

/-- The request that a query has just made up. -/
def announce (q : LogQuery) : LogQuery × List Effect := (q, [.issued q.lastToken q.request])

def act (q : LogQuery) : Action → LogQuery × List Effect
  | .changeFilters c => (q.changeFilters c, [])
  | .beginFetch append => (q.beginFetch append).announce
  | .loadMore => q.loadMore.announce
  | .respond token records =>
    ((q.respond token records).1,
      if (q.respond token records).2 then [.applied token records] else [])
  | .fetchFailed token => (q.fetchFailed token, [])
  | .beginTargets => (q.beginTargets.1, [])
  | .targetsFailed => (q.targetsFailed, [])
  | .setTargets targets => (q.setTargets targets, [])
  | .setAutoRefresh on now => ((q.setAutoRefresh on now).1, [])
  | .tick now => ((q.tick now).1, [])

/-- Actions in a row: the query after them and all their effects. -/
def run (q : LogQuery) : List Action → LogQuery × List Effect
  | [] => (q, [])
  | a :: as => (((q.act a).1.run as).1, (q.act a).2 ++ ((q.act a).1.run as).2)

theorem run_append (q : LogQuery) (as bs : List Action) :
    q.run (as ++ bs) = (((q.run as).1.run bs).1, (q.run as).2 ++ ((q.run as).1.run bs).2) := by
  induction as generalizing q with
  | nil => rfl
  | cons a as ih => simp only [List.cons_append, run, ih, List.append_assoc]

theorem run_snoc (q : LogQuery) (as : List Action) (a : Action) :
    q.run (as ++ [a]) = (((q.run as).1.act a).1, (q.run as).2 ++ ((q.run as).1.act a).2) := by
  rw [run_append]
  simp only [run, List.append_nil]

/-- The query after a run from the start. -/
def after (now : Instant) (as : List Action) : LogQuery := ((start now).run as).1

def effects (now : Instant) (as : List Action) : List Effect := ((start now).run as).2

theorem after_snoc (now : Instant) (as : List Action) (a : Action) :
    after now (as ++ [a]) = ((after now as).act a).1 := by
  unfold after
  rw [run_snoc]

theorem effects_snoc (now : Instant) (as : List Action) (a : Action) :
    effects now (as ++ [a]) = effects now as ++ ((after now as).act a).2 := by
  unfold effects after
  rw [run_snoc]

theorem effects_append (now : Instant) (as bs : List Action) :
    effects now (as ++ bs) = effects now as ++ ((after now as).run bs).2 := by
  unfold effects after
  rw [run_append]

namespace Effect

@[simp] def issued? : Effect → Option (Nat × PageRequest)
  | .issued token request => some (token, request)
  | .applied _ _ => none

@[simp] def applied? : Effect → Option (Nat × List Record)
  | .issued _ _ => none
  | .applied token records => some (token, records)

end Effect

/-- The requests that were issued, in order, each with its token. -/
def issued (effects : List Effect) : List (Nat × PageRequest) := effects.filterMap Effect.issued?

/-- The answers that were applied, in order. -/
def applied (effects : List Effect) : List (Nat × List Record) := effects.filterMap Effect.applied?

@[simp] theorem issued_nil : issued [] = [] := rfl

@[simp] theorem applied_nil : applied [] = [] := rfl

@[simp] theorem issued_append (es fs : List Effect) :
    issued (es ++ fs) = issued es ++ issued fs :=
  List.filterMap_append

@[simp] theorem applied_append (es fs : List Effect) :
    applied (es ++ fs) = applied es ++ applied fs :=
  List.filterMap_append

theorem issued_snoc_issued (es : List Effect) (token : Nat) (request : PageRequest) :
    issued (es ++ [.issued token request]) = issued es ++ [(token, request)] := by
  rw [issued_append]
  rfl

theorem issued_snoc_applied (es : List Effect) (token : Nat) (records : List Record) :
    issued (es ++ [.applied token records]) = issued es := by
  rw [issued_append]
  exact List.append_nil _

theorem applied_snoc_issued (es : List Effect) (token : Nat) (request : PageRequest) :
    applied (es ++ [.issued token request]) = applied es := by
  rw [applied_append]
  exact List.append_nil _

theorem applied_snoc_applied (es : List Effect) (token : Nat) (records : List Record) :
    applied (es ++ [.applied token records]) = applied es ++ [(token, records)] := by
  rw [applied_append]
  rfl

theorem current?_eq_some_iff (q : LogQuery) (token : Nat) (p : Pending) :
    q.current? token = some p ↔ q.outstanding = some p ∧ p.token = token := by
  unfold current?
  rw [Option.filter_eq_some_iff, beq_iff_eq]

theorem current?_eq_none_iff (q : LogQuery) (token : Nat) :
    q.current? token = none ↔ ∀ p, q.outstanding = some p → p.token ≠ token := by
  unfold current?
  rw [Option.filter_eq_none_iff]
  simp

theorem rollBack_outstanding (q : LogQuery) (p : Pending) :
    (q.rollBack p).outstanding = q.outstanding := by
  unfold rollBack
  split <;> rfl

theorem rollBack_lastToken (q : LogQuery) (p : Pending) :
    (q.rollBack p).lastToken = q.lastToken := by
  unfold rollBack
  split <;> rfl

theorem rollBack_buffer (q : LogQuery) (p : Pending) : (q.rollBack p).buffer = q.buffer := by
  unfold rollBack
  split <;> rfl

theorem abandon_of_none (q : LogQuery) (hout : q.outstanding = none) : q.abandon = q := by
  unfold abandon
  rw [hout]

theorem abandon_of_some (q : LogQuery) (p : Pending) (hout : q.outstanding = some p) :
    q.abandon = { q with outstanding := none }.rollBack p := by
  unfold abandon
  rw [hout]

/-- Giving up a request moves the page at most. -/
theorem abandon_eq (q : LogQuery) :
    q.abandon = { q with outstanding := none, page := q.abandon.page } := by
  unfold abandon
  split
  · next h => rw [← h]
  · next p h =>
    unfold rollBack
    split <;> rfl

/-- All that an action can do, as far as requests, the page and the records go. -/
inductive Turn (q : LogQuery) : Action → LogQuery × List Effect → Prop
  | fetched (append : Bool) (q' : LogQuery) (hpage : q'.page = q.abandon.page)
      (htoken : q'.lastToken = q.lastToken + 1) (hbuffer : q'.buffer = q.buffer)
      (hout : q'.outstanding =
        some ⟨q.lastToken + 1, append, q.perPage, q.abandon.page, q.abandon.page⟩) :
      Turn q (.beginFetch append) (q', [.issued q'.lastToken q'.request])
  | extended (q' : LogQuery) (hpage : q'.page = q.abandon.page + 1)
      (htoken : q'.lastToken = q.lastToken + 1) (hbuffer : q'.buffer = q.buffer)
      (hout : q'.outstanding =
        some ⟨q.lastToken + 1, true, q.perPage, q.abandon.page + 1, q.abandon.page⟩) :
      Turn q .loadMore (q', [.issued q'.lastToken q'.request])
  | answered (p : Pending) (records : List Record) (hout : q.outstanding = some p) :
      Turn q (.respond p.token records)
        ({ q with
            outstanding := none
            buffer := if p.append then some (q.records ++ records) else some records
            noMoreData := q.noMoreData || records.length < p.perPage },
          [.applied p.token records])
  | failed (p : Pending) (hout : q.outstanding = some p) :
      Turn q (.fetchFailed p.token) ({ q with outstanding := none }.rollBack p, [])
  | stale (token : Nat) (records : List Record) (hout : q.current? token = none) :
      Turn q (.respond token records) (q, [])
  | missed (token : Nat) (hout : q.current? token = none) : Turn q (.fetchFailed token) (q, [])
  /-- The query changes, or something else does that no request depends on. -/
  | other (a : Action) (haside : a.isAside) (q' : LogQuery) (hpage : q'.page = q.page ∨ q'.page = 1)
      (htoken : q'.lastToken = q.lastToken) (hbuffer : q'.buffer = q.buffer)
      (hout : q'.outstanding = q.outstanding) : Turn q a (q', [])

theorem respond_of_current (q : LogQuery) (p : Pending) (records : List Record)
    (hout : q.outstanding = some p) :
    q.respond p.token records =
      ({ q with
          outstanding := none
          buffer := if p.append then some (q.records ++ records) else some records
          noMoreData := q.noMoreData || records.length < p.perPage }, true) := by
  unfold respond
  rw [(current?_eq_some_iff q p.token p).mpr ⟨hout, rfl⟩]

theorem respond_of_stale (q : LogQuery) (token : Nat) (records : List Record)
    (h : q.current? token = none) : q.respond token records = (q, false) := by
  unfold respond
  rw [h]

theorem fetchFailed_of_current (q : LogQuery) (p : Pending) (hout : q.outstanding = some p) :
    q.fetchFailed p.token = { q with outstanding := none }.rollBack p := by
  unfold fetchFailed
  rw [(current?_eq_some_iff q p.token p).mpr ⟨hout, rfl⟩]

theorem fetchFailed_of_stale (q : LogQuery) (token : Nat) (h : q.current? token = none) :
    q.fetchFailed token = q := by
  unfold fetchFailed
  rw [h]

private theorem beginFetch_turn (q : LogQuery) (append : Bool) :
    Turn q (.beginFetch append) (q.beginFetch append).announce := by
  refine .fetched append (q.beginFetch append) rfl ?_ ?_ ?_
  · unfold beginFetch issue
    rw [abandon_eq]
  · unfold beginFetch issue
    rw [abandon_eq]
  · unfold beginFetch issue
    rw [abandon_eq]

private theorem loadMore_turn (q : LogQuery) : Turn q .loadMore q.loadMore.announce := by
  refine .extended q.loadMore rfl ?_ ?_ ?_
  · unfold loadMore issue
    rw [abandon_eq]
  · unfold loadMore issue
    rw [abandon_eq]
  · unfold loadMore issue
    rw [abandon_eq]

private theorem respond_turn (q : LogQuery) (token : Nat) (records : List Record) :
    Turn q (.respond token records) (q.act (.respond token records)) := by
  unfold act
  cases hcurrent : q.current? token with
  | none =>
    simp only [respond_of_stale q token records hcurrent]
    exact .stale token records hcurrent
  | some p =>
    obtain ⟨hout, rfl⟩ := (current?_eq_some_iff q token p).mp hcurrent
    simp only [respond_of_current q p records hout]
    exact .answered p records hout

private theorem fetchFailed_turn (q : LogQuery) (token : Nat) :
    Turn q (.fetchFailed token) (q.fetchFailed token, []) := by
  cases hcurrent : q.current? token with
  | none =>
    rw [fetchFailed_of_stale q token hcurrent]
    exact .missed token hcurrent
  | some p =>
    obtain ⟨hout, rfl⟩ := (current?_eq_some_iff q token p).mp hcurrent
    rw [fetchFailed_of_current q p hout]
    exact .failed p hout

/-- Every action is one of the turns. -/
theorem act_turn (q : LogQuery) (a : Action) : Turn q a (q.act a) := by
  cases a with
  | beginFetch append => exact beginFetch_turn q append
  | loadMore => exact loadMore_turn q
  | respond token records => exact respond_turn q token records
  | fetchFailed token => exact fetchFailed_turn q token
  | changeFilters c =>
    exact .other (.changeFilters c) rfl (q.changeFilters c) (.inr rfl) rfl rfl rfl
  | beginTargets => exact .other .beginTargets rfl q.beginTargets.1 (.inl rfl) rfl rfl rfl
  | targetsFailed => exact .other .targetsFailed rfl q.targetsFailed (.inl rfl) rfl rfl rfl
  | setTargets targets =>
    exact .other (.setTargets targets) rfl (q.setTargets targets) (.inr rfl) rfl rfl rfl
  | setAutoRefresh on now =>
    cases on with
    | false =>
      let q' : LogQuery := { q with autoRefresh := false }
      exact .other (.setAutoRefresh false now) rfl q' (.inl rfl) rfl rfl rfl
    | true =>
      let q' := (q.setAutoRefresh true now).1
      have hpage : q'.page = 1 := rfl
      exact .other (.setAutoRefresh true now) rfl q' (.inr hpage) rfl rfl rfl
  | tick now =>
    unfold act
    dsimp only
    unfold tick
    split
    · exact .other (.tick now) rfl (q.advance now) (.inr rfl) rfl rfl rfl
    · exact .other (.tick now) rfl q (.inl rfl) rfl rfl rfl

end HubConsole.Dashboard.LogQuery
