import HubConsole.Proofs.Session.Run
import Mathlib.Data.List.DropRight

namespace HubConsole.Session

open HubConsole.Rpc

@[simp] def LinkEffect.state? : LinkEffect → Option State
  | .published state => some state
  | .sent _ | .replied _ _ | .notified _ | .delivered _ _ => none

@[simp] def LinkEffect.notice? : LinkEffect → Option Notice
  | .notified notice => some notice
  | .published _ | .sent _ | .replied _ _ | .delivered _ _ => none

/-- What one sees of effects, in order. -/
def view {α : Type} (f : LinkEffect → Option α) (effects : List LinkEffect) : List α :=
  effects.filterMap f

/-- The states that effects publish. -/
abbrev published : List LinkEffect → List State := view LinkEffect.state?

/-- The notices that effects raise. -/
abbrev notices : List LinkEffect → List Notice := view LinkEffect.notice?

section View

variable {α : Type} (f : LinkEffect → Option α)

@[simp] theorem view_nil : view f [] = [] := rfl

@[simp] theorem view_cons (effect : LinkEffect) (fs : List LinkEffect) :
    view f (effect :: fs) = (f effect).toList ++ view f fs := by
  unfold view
  rw [List.filterMap_cons]
  cases f effect <;> rfl

@[simp] theorem view_append (fs gs : List LinkEffect) : view f (fs ++ gs) = view f fs ++ view f gs :=
  List.filterMap_append

@[simp] theorem view_announcement (told : Bool) :
    view f (if told then [] else [.notified .hubUnreachable]) =
      if told then [] else (f (.notified .hubUnreachable)).toList := by
  cases told <;> simp

end View

section Callers

variable (config : Config) (l : Link) (pending : Pending) (queue : List Call) (e : CallError)
  (text : String)

@[simp] theorem published_failAll : published (pending.failAll e) = [] :=
  Pending.filterMap_failAll _ (fun _ _ => rfl) pending e

@[simp] theorem published_failQueue : published (Link.failQueue queue e) = [] :=
  Link.filterMap_failQueue _ (fun _ _ => rfl) queue e

@[simp] theorem published_pushes : published (l.pushes config text) = [] :=
  Link.filterMap_pushes _ (fun _ _ => rfl) config l text

@[simp] theorem notices_failAll : notices (pending.failAll e) = [] :=
  Pending.filterMap_failAll _ (fun _ _ => rfl) pending e

@[simp] theorem notices_failQueue : notices (Link.failQueue queue e) = [] :=
  Link.filterMap_failQueue _ (fun _ _ => rfl) queue e

@[simp] theorem notices_pushes : notices (l.pushes config text) = [] :=
  Link.filterMap_pushes _ (fun _ _ => rfl) config l text

end Callers

theorem mem_published_iff (state : State) (effects : List LinkEffect) :
    state ∈ published effects ↔ .published state ∈ effects := by
  unfold published view
  rw [List.mem_filterMap]
  constructor
  · intro h
    obtain ⟨effect, hmem, hstate⟩ := h
    cases effect <;> simp at hstate
    exact hstate ▸ hmem
  · intro h
    exact ⟨_, h, rfl⟩

theorem mem_notices_iff (notice : Notice) (effects : List LinkEffect) :
    notice ∈ notices effects ↔ .notified notice ∈ effects := by
  unfold notices view
  rw [List.mem_filterMap]
  constructor
  · intro h
    obtain ⟨effect, hmem, hnotice⟩ := h
    cases effect <;> simp at hnotice
    exact hnotice ▸ hmem
  · intro h
    exact ⟨_, h, rfl⟩

/-- How an attempt to connect ends. One that is cut off when the link is shut down has no end. -/
inductive Attempt where
  | opened
  | failed
  deriving DecidableEq

/-- The attempts that have failed since the last one that opened a connection. -/
def failedSince (as : List Attempt) : Nat := (as.rtakeWhile (· = .failed)).length

theorem failedSince_opened (as : List Attempt) : failedSince (as ++ [.opened]) = 0 := by
  simp [failedSince]

theorem failedSince_failed (as : List Attempt) :
    failedSince (as ++ [.failed]) = failedSince as + 1 := by
  simp [failedSince]

theorem replicate_suffix_iff (n : Nat) (as : List Attempt) :
    List.replicate n .failed <:+ as ↔ n ≤ failedSince as := by
  induction n generalizing as with
  | zero => simp
  | succ n ih =>
    rcases List.eq_nil_or_concat as with rfl | ⟨as, a, rfl⟩
    · simp [failedSince]
    · rw [List.concat_eq_append, List.replicate_succ', List.suffix_concat_iff]
      cases a with
      | opened => simp [failedSince_opened]
      | failed => simp [failedSince_failed, ih]

namespace Link

/-- The attempt that ends with an event. -/
def attempt? (l : Link) : LinkEvent → Option Attempt
  | .connected _ => if l.state = .connecting then some .opened else none
  | .refused => if l.state = .connecting then some .failed else none
  | _ => none

/-- The attempts that end in a run, in order. -/
def attempts (config : Config) (es : List LinkEvent) : List Attempt :=
  (start config).collect config (fun l e => (l.attempt? e).toList) es

theorem attempts_snoc (config : Config) (es : List LinkEvent) (e : LinkEvent) :
    attempts config (es ++ [e]) = attempts config es ++ ((after config es).attempt? e).toList :=
  collect_snoc config _ es e

/-- The link loses its connection with an event: it is open, and then it has to connect anew. -/
def Loses (config : Config) (l : Link) (e : LinkEvent) : Prop :=
  l.state = .open ∧ (l.step config e).1.state = .disconnected
  deriving Decidable

variable {config : Config} {l : Link} {e : LinkEvent} {r : Link × List LinkEffect}

theorem attempt?_of_not_fits (h : ¬l.Fits e) : l.attempt? e = none := by
  cases e with
  | connected | refused => exact if_neg h
  | _ => rfl

theorem state_of_attempt? (a : Attempt) (h : l.attempt? e = some a) : l.state = .connecting := by
  unfold attempt? at h
  split at h <;> simp_all

/-- A step as others see it: the state before it, the attempt that it ends, the states that it publishes, and
the state after it. -/
inductive Passage : State → Option Attempt → List State → State → Prop
  | still (s : State) : Passage s none [] s
  | attempted : Passage .disconnected none [.connecting] .connecting
  | opened : Passage .connecting (some .opened) [.open] .open
  | failed : Passage .connecting (some .failed) [.disconnected] .disconnected
  | exhausted : Passage .connecting (some .failed) [.disconnected, .closed] .closed
  | lost : Passage .open none [.disconnected] .disconnected
  | shutOpen : Passage .open none [.disconnected, .closed] .closed
  | shutIdle (s : State) (h : s = .disconnected ∨ s = .connecting) :
      Passage s none [.closed] .closed

theorem Move.passage (h : Move config l e r) :
    Passage l.state (l.attempt? e) (published r.2) r.1.state := by
  cases h with
  | ignored e hfits =>
    rw [attempt?_of_not_fits hfits]
    exact .still _
  | accepted | turnedAway | unmatched | registered => exact .still _
  | attempted ms hphase =>
    simpa [attempt?, state, hphase] using Passage.attempted
  | subscribed hphase | unsubscribed sent hphase =>
    simpa [attempt?, state, hphase] using Passage.opened
  | failed hphase hleft =>
    simpa [attempt?, state, hphase] using Passage.failed
  | exhausted hphase hleft =>
    simpa [attempt?, state, hphase] using Passage.exhausted
  | tooLong _ _ _ _ _ hphase | posted _ _ _ _ hphase | resolved _ _ _ _ _ hphase
  | confirmed _ _ _ _ hphase | pushed _ _ hphase =>
    simpa [attempt?, state, hphase] using Passage.still .open
  | broken pending c queue text hphase | lost pending hphase =>
    simpa [attempt?, state, hphase] using Passage.lost
  | shutOpen pending hphase =>
    simpa [attempt?, state, hphase] using Passage.shutOpen
  | shutIdle hstate =>
    change Passage l.state none _ .closed
    simpa using Passage.shutIdle l.state hstate

/-- What a step tells: that the hub is gone, if it loses the connection or is the first to fail, and that the
attempts have run out. -/
theorem Move.notices_eq (h : Move config l e r) :
    notices r.2 =
      if l.attempt? e = some .failed then
        (if l.announced then [] else [.hubUnreachable]) ++
          if config.maxReconnect ≤ l.failures + 1 then [.reconnectExhausted (l.failures + 1)] else []
      else if l.state = .open ∧ r.1.state = .disconnected then [.hubUnreachable] else [] := by
  -- A step that is not seen at all loses nothing.
  have hsame (s : State) : ¬(s = .open ∧ s = .disconnected) := by cases s <;> decide
  cases h with
  | ignored e hfits =>
    rw [attempt?_of_not_fits hfits, if_neg (by decide), if_neg (hsame l.state)]
    rfl
  | accepted | turnedAway | unmatched | registered => exact (if_neg (hsame l.state)).symm
  | attempted ms hphase | subscribed hphase | unsubscribed sent hphase =>
    simp [attempt?, state, hphase]
  | failed hphase hleft =>
    simp [attempt?, state, hphase, Nat.not_le.mpr hleft]
  | exhausted hphase hleft =>
    simp [attempt?, state, hphase, hleft]
  | tooLong _ _ _ _ _ hphase | posted _ _ _ _ hphase | resolved _ _ _ _ _ hphase
  | confirmed _ _ _ _ hphase | pushed _ _ hphase =>
    simp [attempt?, state, hphase]
  | broken pending c queue text hphase | lost pending hphase =>
    simp [attempt?, state, hphase]
  | shutOpen pending hphase =>
    simp [attempt?, state, hphase]
  | shutIdle hstate =>
    have hopen : l.state ≠ .open := by rcases hstate with h | h <;> simp [h]
    simp [attempt?, hopen]

theorem Move.failures_eq (h : Move config l e r) :
    r.1.failures =
      match l.attempt? e with
      | some .opened => 0
      | some .failed => l.failures + 1
      | none => l.failures := by
  cases h with
  | ignored e hfits => rw [attempt?_of_not_fits hfits]
  | subscribed hphase | unsubscribed sent hphase | failed hphase | exhausted hphase =>
    simp [attempt?, state, hphase]
  | _ => rfl

theorem failures_after (config : Config) (es : List LinkEvent) :
    (after config es).failures = failedSince (attempts config es) := by
  induction es using List.reverseRecOn with
  | nil => rfl
  | append_singleton es e ih =>
    rw [after_snoc, attempts_snoc, (step_move config _ e).failures_eq]
    cases (after config es).attempt? e with
    | none => simp [ih]
    | some a =>
      cases a with
      | opened => exact (failedSince_opened _).symm
      | failed =>
        rw [Option.toList_some, failedSince_failed]
        exact congrArg (· + 1) ih

end Link
end HubConsole.Session
