import HubConsole.Proofs.Dashboard.LogRun
import HubConsole.Proofs.Node.Overwrite

namespace HubConsole.Dashboard.LogQuery

open HubConsole.Log HubConsole.Time
open HubConsole.Node (lastCarried lastCarried_snoc)

/-- The time that comes with the start of the refreshing, or with a tick. -/
def Action.moment? : Action → Option Instant
  | .setAutoRefresh true now | .tick now => some now
  | _ => none

/-- What an edit by hand says of a field. -/
def Action.edited? {α : Type} (field : FilterChange → Option α) : Action → Option α
  | .changeFilters c => field c
  | _ => none

/-- The actions that have to do with the window or with the refreshing. -/
def Action.shifts : Action → Bool
  | .changeFilters _ | .setAutoRefresh _ _ | .tick _ => true
  | _ => false

/-- All that an action can do to the window and to the refreshing. -/
inductive Shift (q : LogQuery) : Action → LogQuery → Prop
  | edited (c : FilterChange) (q' : LogQuery)
      (hfrom : q'.window.fromTime = c.fromTime.getD q.window.fromTime)
      (hto : q'.window.toTime = c.toTime.getD q.window.toTime)
      (husefrom : q'.window.useFrom = c.useFrom.getD q.window.useFrom)
      (huseto : q'.window.useTo = c.useTo.getD q.window.useTo)
      (hrefresh : q'.autoRefresh = (q.autoRefresh && !c.touchesTime)) :
      Shift q (.changeFilters c) q'
  | started (now : Instant) (q' : LogQuery)
      (hwindow : q'.window = { q.window with toTime := now, useTo := true })
      (hrefresh : q'.autoRefresh = true) : Shift q (.setAutoRefresh true now) q'
  | ended (now : Instant) : Shift q (.setAutoRefresh false now) { q with autoRefresh := false }
  | ticked (now : Instant) (hon : q.autoRefresh = true) (q' : LogQuery)
      (hwindow : q'.window = { q.window with toTime := now, useTo := true })
      (hrefresh : q'.autoRefresh = true) : Shift q (.tick now) q'
  | idle (now : Instant) (hoff : q.autoRefresh = false) : Shift q (.tick now) q
  /-- Requests, their answers and the targets. -/
  | kept (a : Action) (q' : LogQuery) (hquiet : a.shifts = false) (hwindow : q'.window = q.window)
      (hrefresh : q'.autoRefresh = q.autoRefresh) : Shift q a q'

theorem tick_of_on (q : LogQuery) (now : Instant) (hon : q.autoRefresh = true) :
    q.tick now = (q.advance now, true) := by
  rw [tick, if_pos hon]

theorem tick_of_off (q : LogQuery) (now : Instant) (hoff : q.autoRefresh = false) :
    q.tick now = (q, false) := by
  rw [tick, hoff]
  rfl

theorem rollBack_window (q : LogQuery) (p : Pending) : (q.rollBack p).window = q.window := by
  unfold rollBack
  split <;> rfl

theorem rollBack_autoRefresh (q : LogQuery) (p : Pending) :
    (q.rollBack p).autoRefresh = q.autoRefresh := by
  unfold rollBack
  split <;> rfl

theorem changeFilters_autoRefresh (q : LogQuery) (c : FilterChange) :
    (q.changeFilters c).autoRefresh = (q.autoRefresh && !c.touchesTime) := by
  unfold changeFilters change
  rfl

theorem beginFetch_window (q : LogQuery) (append : Bool) :
    (q.beginFetch append).window = q.window ∧ (q.beginFetch append).autoRefresh = q.autoRefresh := by
  unfold beginFetch issue
  rw [abandon_eq]
  exact ⟨rfl, rfl⟩

theorem loadMore_window (q : LogQuery) :
    q.loadMore.window = q.window ∧ q.loadMore.autoRefresh = q.autoRefresh := by
  unfold loadMore issue
  rw [abandon_eq]
  exact ⟨rfl, rfl⟩

theorem respond_window (q : LogQuery) (token : Nat) (records : List Record) :
    (q.respond token records).1.window = q.window ∧
      (q.respond token records).1.autoRefresh = q.autoRefresh := by
  unfold respond
  split <;> exact ⟨rfl, rfl⟩

theorem fetchFailed_window (q : LogQuery) (token : Nat) :
    (q.fetchFailed token).window = q.window ∧ (q.fetchFailed token).autoRefresh = q.autoRefresh := by
  unfold fetchFailed
  split
  · exact ⟨rfl, rfl⟩
  · next p _ => exact ⟨rollBack_window _ p, rollBack_autoRefresh _ p⟩

/-- Every action is one of the shifts. -/
theorem act_shift (q : LogQuery) (a : Action) : Shift q a (q.act a).1 := by
  cases a with
  | changeFilters c => exact .edited c (q.changeFilters c) rfl rfl rfl rfl (changeFilters_autoRefresh q c)
  | beginFetch append =>
    obtain ⟨hwindow, hrefresh⟩ := beginFetch_window q append
    exact .kept (.beginFetch append) (q.beginFetch append) rfl hwindow hrefresh
  | loadMore =>
    obtain ⟨hwindow, hrefresh⟩ := loadMore_window q
    exact .kept .loadMore q.loadMore rfl hwindow hrefresh
  | respond token records =>
    obtain ⟨hwindow, hrefresh⟩ := respond_window q token records
    exact .kept (.respond token records) (q.respond token records).1 rfl hwindow hrefresh
  | fetchFailed token =>
    obtain ⟨hwindow, hrefresh⟩ := fetchFailed_window q token
    exact .kept (.fetchFailed token) (q.fetchFailed token) rfl hwindow hrefresh
  | beginTargets => exact .kept .beginTargets q.beginTargets.1 rfl rfl rfl
  | targetsFailed => exact .kept .targetsFailed q.targetsFailed rfl rfl rfl
  | setTargets targets =>
    exact .kept (.setTargets targets) (q.setTargets targets) rfl rfl rfl
  | setAutoRefresh on now =>
    cases on with
    | false => exact .ended now
    | true => exact .started now (q.setAutoRefresh true now).1 rfl rfl
  | tick now =>
    unfold act
    cases hrefresh : q.autoRefresh with
    | false =>
      simp only [tick_of_off q now hrefresh]
      exact .idle now hrefresh
    | true =>
      simp only [tick_of_on q now hrefresh]
      exact .ticked now hrefresh (q.advance now) rfl hrefresh

variable {q q' : LogQuery} {a : Action}

theorem touchesTime_iff (c : FilterChange) : c.touchesTime = true ↔
    c.fromTime ≠ none ∨ c.toTime ≠ none ∨ c.useFrom ≠ none ∨ c.useTo ≠ none := by
  simp only [FilterChange.touchesTime, Bool.or_eq_true, Option.isSome_iff_ne_none, or_assoc]

/-- Only an edit by hand moves the lower bound. -/
theorem Shift.lower (h : Shift q a q') :
    q'.window.fromTime = (a.edited? (·.fromTime)).getD q.window.fromTime ∧
      q'.window.useFrom = (a.edited? (·.useFrom)).getD q.window.useFrom := by
  cases h with
  | edited c q' hfrom _ husefrom => exact ⟨hfrom, husefrom⟩
  | started now q' hwindow | ticked now hon q' hwindow =>
    rw [hwindow]
    exact ⟨rfl, rfl⟩
  | ended | idle => exact ⟨rfl, rfl⟩
  | kept a q' hquiet hwindow =>
    rw [hwindow]
    cases a with
    | changeFilters c => cases hquiet
    | _ => exact ⟨rfl, rfl⟩

/-- The refreshing ends with its own switch or with an edit of the window, and with nothing else. -/
theorem Shift.ends_iff (h : Shift q a q') (hon : q.autoRefresh = true) :
    q'.autoRefresh = false ↔
      (∃ now, a = .setAutoRefresh false now) ∨ ∃ c, a = .changeFilters c ∧ c.touchesTime = true := by
  cases h with
  | edited c q' _ _ _ _ hrefresh =>
    rw [hrefresh, hon]
    simp
  | started now q' _ hrefresh | ticked now _ q' _ hrefresh =>
    rw [hrefresh]
    simp
  | ended now => simp
  | idle now hoff => simp [hon] at hoff
  | kept a q' hquiet _ hrefresh =>
    rw [hrefresh, hon]
    cases a with
    | changeFilters c => cases hquiet
    | setAutoRefresh on now => cases hquiet
    | _ => simp

/-- It begins only by its switch. -/
theorem Shift.begins_iff (h : Shift q a q') (hoff : q.autoRefresh = false) :
    q'.autoRefresh = true ↔ ∃ now, a = .setAutoRefresh true now := by
  cases h with
  | edited c q' _ _ _ _ hrefresh =>
    rw [hrefresh, hoff]
    simp
  | started now q' _ hrefresh => simp [hrefresh]
  | ticked now hon => simp [hon] at hoff
  | ended now => simp
  | idle now => simp [hoff]
  | kept a q' hquiet _ hrefresh =>
    rw [hrefresh, hoff]
    cases a with
    | setAutoRefresh on now => cases hquiet
    | _ => simp

/-- While the query is refreshed its upper bound is in use and is the time that was brought last. -/
def Fresh (moment : Option Instant) (q : LogQuery) : Prop :=
  q.autoRefresh = true → q.window.useTo = true ∧ moment = some q.window.toTime

theorem Shift.fresh {moment : Option Instant} (h : Shift q a q') (hq : Fresh moment q) :
    Fresh (a.moment?.or moment) q' := by
  intro hon'
  cases h with
  | edited c q' _ hto _ huseto hrefresh =>
    rw [hrefresh, Bool.and_eq_true, Bool.not_eq_true', ← Bool.not_eq_true, touchesTime_iff] at hon'
    obtain ⟨hon, huntouched⟩ := hon'
    simp only [not_or, not_not] at huntouched
    obtain ⟨-, hnoto, -, hnouse⟩ := huntouched
    rw [hto, huseto, hnoto, hnouse]
    exact hq hon
  | started now q' hwindow | ticked now _ q' hwindow =>
    rw [hwindow]
    exact ⟨rfl, rfl⟩
  | ended => cases hon'
  | idle now hoff => simp [hoff] at hon'
  | kept a q' hquiet hwindow hrefresh =>
    have hmoment : a.moment? = none := by
      cases a with
      | setAutoRefresh on now => cases hquiet
      | tick now => cases hquiet
      | _ => rfl
    rw [hmoment, hwindow, Option.none_or]
    exact hq (hrefresh ▸ hon')

theorem fresh_after (now : Instant) (as : List Action) :
    Fresh (lastCarried Action.moment? as) (after now as) := by
  induction as using List.reverseRecOn with
  | nil => intro hon; cases hon
  | append_singleton as a ih =>
    rw [lastCarried_snoc, after_snoc]
    exact (act_shift _ a).fresh ih

theorem lower_after (now : Instant) (as : List Action) :
    (after now as).window.fromTime =
        (lastCarried (Action.edited? (·.fromTime)) as).getD (now.minusDays defaultDays) ∧
      (after now as).window.useFrom = (lastCarried (Action.edited? (·.useFrom)) as).getD false := by
  induction as using List.reverseRecOn with
  | nil => exact ⟨rfl, rfl⟩
  | append_singleton as a ih =>
    obtain ⟨hfrom, huse⟩ := (act_shift (after now as) a).lower
    rw [lastCarried_snoc, lastCarried_snoc, after_snoc, hfrom, huse, ih.1, ih.2, Option.getD_or,
      Option.getD_or]
    exact ⟨rfl, rfl⟩

/-- The request after a tick is for the newest records up to now. -/
theorem request_tick (q : LogQuery) (now : Instant) (hon : q.autoRefresh = true) :
    (q.tick now).1.request.page = 1 ∧ (q.tick now).1.request.direction = .newestFirst ∧
      (q.tick now).1.request.range.toTime = some now := by
  rw [tick_of_on q now hon]
  exact ⟨rfl, rfl, rfl⟩

/-- Refreshing and the window after any run. While the refreshing is on, the upper bound is in use and is the
time of the last start or tick. The lower bound and its use are those of the last edit by hand that says
something of them, or the first ones; a start or a tick leaves them. The refreshing ends just with its switch or
an edit of the window, and begins with its switch only. A tick counts just while it is on: then the request is
for the first page of the newest records up to now; else the tick changes nothing. -/
theorem refreshing_moves_upper_bound (now : Instant) (as : List Action) :
    let q := after now as
    (q.autoRefresh = true →
      q.window.useTo = true ∧ lastCarried Action.moment? as = some q.window.toTime) ∧
    q.window.fromTime =
      (lastCarried (Action.edited? (·.fromTime)) as).getD (now.minusDays defaultDays) ∧
    q.window.useFrom = (lastCarried (Action.edited? (·.useFrom)) as).getD false ∧
    (∀ a, q.autoRefresh = true → ((q.act a).1.autoRefresh = false ↔
      (∃ t, a = .setAutoRefresh false t) ∨ ∃ c, a = .changeFilters c ∧
        (c.fromTime ≠ none ∨ c.toTime ≠ none ∨ c.useFrom ≠ none ∨ c.useTo ≠ none))) ∧
    (∀ a, q.autoRefresh = false → ((q.act a).1.autoRefresh = true ↔ ∃ t, a = .setAutoRefresh true t)) ∧
    ∀ t, ((q.tick t).2 = true ↔ q.autoRefresh = true) ∧
      (q.autoRefresh = true → (q.tick t).1.request.page = 1 ∧
        (q.tick t).1.request.direction = .newestFirst ∧ (q.tick t).1.request.range.toTime = some t) ∧
      (q.autoRefresh = false → q.tick t = (q, false)) := by
  intro q
  obtain ⟨hfrom, huse⟩ := lower_after now as
  refine ⟨fresh_after now as, hfrom, huse, ?_, ?_, ?_⟩
  · intro a hon
    simp only [← touchesTime_iff]
    exact (act_shift q a).ends_iff hon
  · intro a hoff
    exact (act_shift q a).begins_iff hoff
  · intro t
    refine ⟨?_, request_tick q t, tick_of_off q t⟩
    cases hrefresh : q.autoRefresh with
    | false => simp [tick_of_off q t hrefresh]
    | true => simp [tick_of_on q t hrefresh]

end HubConsole.Dashboard.LogQuery
