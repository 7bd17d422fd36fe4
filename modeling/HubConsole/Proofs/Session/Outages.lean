import HubConsole.Proofs.Session.Attempts

namespace HubConsole.Session

open HubConsole.Rpc

namespace Link

/-- The events of a run with which the link loses a connection, in order. -/
def losses (config : Config) (es : List LinkEvent) : List LinkEvent :=
  (start config).collect config (fun l e => if l.Loses config e then [e] else []) es

theorem losses_snoc (config : Config) (es : List LinkEvent) (e : LinkEvent) :
    losses config (es ++ [e]) =
      losses config es ++ if (after config es).Loses config e then [e] else [] :=
  collect_snoc config _ es e

variable {config : Config} {l : Link} {e : LinkEvent} {r : Link × List LinkEffect}

/-- Whether the user was told of an outage, by the attempts that have ended: while the link has no connection,
it was told just when there was an attempt. -/
structure Told (attempts : List Attempt) (l : Link) : Prop where
  connected : l.state = .open → attempts ≠ []
  idle : l.state = .disconnected ∨ l.state = .connecting → (l.announced = true ↔ attempts ≠ [])

theorem Move.told {attempts : List Attempt} (h : Move config l e r) (ht : Told attempts l) :
    Told (attempts ++ (l.attempt? e).toList) r.1 := by
  cases h with
  | ignored e hfits =>
    rw [attempt?_of_not_fits hfits, Option.toList_none, List.append_nil]
    exact ht
  | accepted | turnedAway | unmatched | registered | pushed =>
    change Told (attempts ++ []) _
    rw [List.append_nil]
    exact ⟨ht.connected, ht.idle⟩
  | attempted ms hphase =>
    have htold := ht.idle (.inl (by simp [state, hphase]))
    constructor
    · simp [state]
    · simpa [attempt?] using fun _ => htold
  | subscribed hphase | unsubscribed _ hphase =>
    constructor
    · simp [attempt?, state, hphase]
    · simp [state]
  | failed hphase =>
    constructor
    · simp [state]
    · simp [attempt?, state, hphase]
  | tooLong _ _ _ _ _ hphase | posted _ _ _ _ hphase | resolved _ _ _ _ _ hphase
  | confirmed _ _ _ _ hphase =>
    have hone := ht.connected (by simp [state, hphase])
    constructor
    · simpa [attempt?] using fun _ => hone
    · simp [state, hphase]
  | broken _ _ _ _ hphase | lost _ hphase =>
    have hone := ht.connected (by simp [state, hphase])
    constructor
    · simp [state]
    · simpa [attempt?] using fun _ => hone
  | exhausted | shutOpen | shutIdle =>
    constructor
    · simp [state]
    · simp [state]

theorem told_after (config : Config) (es : List LinkEvent) :
    Told (attempts config es) (after config es) := by
  induction es using List.reverseRecOn with
  | nil => exact ⟨by simp [after, run, start, state], by simp [after, run, start, attempts, collect]⟩
  | append_singleton es e ih =>
    rw [attempts_snoc, after_snoc]
    exact (step_move config _ e).told ih

/-- A step tells that the hub is gone when it loses the connection, or ends the first attempt of all without
one. -/
theorem count_unreachable_step (config : Config) (es : List LinkEvent) (e : LinkEvent) :
    (notices ((after config es).step config e).2).count .hubUnreachable =
      if (after config es).Loses config e ∨
          (after config es).attempt? e = some .failed ∧ attempts config es = [] then 1
      else 0 := by
  rw [(step_move config _ e).notices_eq]
  by_cases hfailed : (after config es).attempt? e = some .failed
  · have hstate := state_of_attempt? _ hfailed
    have htold := (told_after config es).idle (.inr hstate)
    have hkept : ¬(after config es).Loses config e := by simp [Loses, hstate]
    by_cases hfirst : attempts config es = []
    · have hnew : (after config es).announced = false := by simpa [hfirst] using htold
      by_cases hleft : config.maxReconnect ≤ (after config es).failures + 1 <;>
        simp [hfailed, hkept, hfirst, hnew, hleft]
    · have hold : (after config es).announced = true := htold.mpr hfirst
      by_cases hleft : config.maxReconnect ≤ (after config es).failures + 1 <;>
        simp [hfailed, hkept, hfirst, hold, hleft]
  · by_cases hloses : (after config es).Loses config e
    · have hgone := hloses
      unfold Loses at hgone
      simp [hfailed, hloses, hgone]
    · have hkept := hloses
      unfold Loses at hkept
      simp [hfailed, hloses, hkept]

/-- No attempt ends with the loss of a connection. -/
theorem attempt?_of_loses (h : l.Loses config e) : l.attempt? e = none := by
  cases hattempt : l.attempt? e with
  | none => rfl
  | some a =>
    have hstate := state_of_attempt? a hattempt
    simp [Loses, hstate] at h

/-- An open connection ends with a loss, or when the link is shut down. -/
theorem loses_iff (config : Config) (l : Link) (e : LinkEvent) (hopen : l.state = .open)
    (hends : (l.step config e).1.state ≠ .open) : l.Loses config e ↔ e ≠ .shutDown := by
  have hmove := step_move config l e
  unfold Loses
  generalize l.step config e = r at hmove hends ⊢
  cases hmove with
  | broken | lost => exact iff_of_true ⟨hopen, rfl⟩ (by simp)
  | shutOpen => simp [state]
  | ignored | turnedAway | unmatched | registered | pushed | accepted => exact absurd hopen hends
  | tooLong _ _ _ _ _ hphase => simp [state, hphase] at hends
  | posted | resolved | confirmed | subscribed | unsubscribed => simp [state] at hends
  | attempted _ hphase | failed hphase | exhausted hphase => simp [state, hphase] at hopen
  | shutIdle hidle => simp [hopen] at hidle

theorem not_loses_shutDown (config : Config) (l : Link) : ¬l.Loses config .shutDown := by
  intro h
  have hends : (l.step config .shutDown).1.state ≠ .open := by simp [h.2]
  exact (loses_iff config l .shutDown h.1 hends).mp h rfl

/-- Every outage is told once: over a run, the user is told as often that the hub is gone as a connection was
lost, and once more if the very first attempt failed. A step tells it when it loses a connection or is that
first failure, so that neither later failures nor giving up adds to it, nor shutting the link down. A
connection is lost when it ends without that. -/
theorem outages_told_once (config : Config) (es : List LinkEvent) :
    (notices (effects config es)).count .hubUnreachable =
        (losses config es).length +
          (if (attempts config es).head? = some .failed then 1 else 0) ∧
    (∀ e, (notices ((after config es).step config e).2).count .hubUnreachable =
      if (after config es).Loses config e ∨
          (after config es).attempt? e = some .failed ∧ attempts config es = [] then 1
      else 0) ∧
    .notified .hubUnreachable ∉ ((after config es).step config .shutDown).2 ∧
    (∀ e, (after config es).state = .open → ((after config es).step config e).1.state ≠ .open →
      ((after config es).Loses config e ↔ e ≠ .shutDown)) := by
  refine ⟨?_, count_unreachable_step config es, ?_, loses_iff config (after config es)⟩
  · induction es using List.reverseRecOn with
    | nil => rfl
    | append_singleton es e ih =>
      have hsplit : notices (effects config es ++ ((after config es).step config e).2) =
          notices (effects config es) ++ notices ((after config es).step config e).2 :=
        view_append _ _ _
      rw [effects_snoc, hsplit, List.count_append, ih, count_unreachable_step, losses_snoc,
        attempts_snoc, List.length_append]
      by_cases hloses : (after config es).Loses config e
      · have hnone := attempt?_of_loses hloses
        simp only [hloses, hnone, Option.toList_none, List.append_nil, true_or, if_true,
          List.length_singleton]
        omega
      · cases (after config es).attempt? e with
        | none => simp [hloses]
        | some a =>
          cases attempts config es with
          | nil => cases a <;> simp [hloses]
          | cons first rest => simp [hloses]
  · have hcount := count_unreachable_step config es .shutDown
    rw [if_neg (by simp [not_loses_shutDown, attempt?])] at hcount
    rw [← mem_notices_iff]
    exact List.count_eq_zero.mp hcount

/-- The first attempt fails, and later a connection with a push and an answer on it is lost. -/
example :
    let config := Config.new "ws://h" ""
    let es := [.registered .network 3, .attempted, .refused, .attempted, .connected true,
      .queued ⟨7, "log_getTargets", .array []⟩, .taken true,
      .received "\x7b\"method\":\"dashboard_updated\",\"params\":[\x7b\x7d]\x7d",
      .received "\x7b\"id\":2,\"result\":null\x7d", .lost, .attempted, .refused]
    answered (effects config es) = [7] ∧ (losses config es).length = 1 ∧
      notices (effects config es) = [.hubUnreachable, .hubUnreachable] := by
  decide +kernel

end Link
end HubConsole.Session
