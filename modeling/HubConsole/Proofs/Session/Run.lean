import HubConsole.Proofs.Session.Effects
import Mathlib.Data.List.Induction

namespace HubConsole.Session

open HubConsole.Json HubConsole.Rpc

namespace Link

/-- Whether an event can happen now; one that cannot changes nothing. -/
def Fits (l : Link) : LinkEvent → Prop
  | .queued _ | .registered _ _ => True
  | .attempted => l.state = .disconnected
  | .connected _ | .refused => l.state = .connecting
  | .taken _ => l.state = .open ∧ l.queue ≠ []
  | .received _ | .lost => l.state = .open
  | .shutDown => l.state ≠ .closed

/-- All that an event can do to a link, with what it does to be seen by others. -/
inductive Move (config : Config) (l : Link) : LinkEvent → Link × List LinkEffect → Prop
  | ignored (e : LinkEvent) (hfits : ¬l.Fits e) : Move config l e (l, [])
  | accepted (c : Call) (hstate : l.state ≠ .closed) :
      Move config l (.queued c) ({ l with queue := l.queue ++ [c] }, [])
  | turnedAway (c : Call) (hstate : l.state = .closed) :
      Move config l (.queued c) (l, [.replied c.ticket (.error .closed)])
  | attempted (ms : Nat) (hphase : l.phase = .waiting ms) :
      Move config l .attempted ({ l with phase := .connecting }, [.published .connecting])
  | subscribed (hphase : l.phase = .connecting)
      (hencode : ((Request.subscribe (l.lastId + 1) Topic.all).encode config.maxFrameBytes).isOk) :
      Move config l (.connected true)
        ({ l with
            lastId := l.lastId + 1, failures := 0, backoffMs := config.reconnectMs
            phase := .open [(l.lastId + 1, .subscription)] },
          [.published .open, .sent (Request.subscribe (l.lastId + 1) Topic.all)])
  /-- The subscription is too long, or sending it fails. -/
  | unsubscribed (sent : Bool) (hphase : l.phase = .connecting)
      (hfailed : ¬(((Request.subscribe (l.lastId + 1) Topic.all).encode
        config.maxFrameBytes).isOk && sent)) :
      Move config l (.connected sent)
        ({ l with
            lastId := l.lastId + 1, failures := 0, backoffMs := config.reconnectMs
            phase := .open [] },
          [.published .open])
  | failed (hphase : l.phase = .connecting) (hleft : l.failures + 1 < config.maxReconnect) :
      Move config l .refused
        ({ l with
            phase := .waiting l.backoffMs, backoffMs := nextBackoff l.backoffMs
            failures := l.failures + 1, announced := true },
          .published .disconnected :: if l.announced then [] else [.notified .hubUnreachable])
  | exhausted (hphase : l.phase = .connecting) (hleft : config.maxReconnect ≤ l.failures + 1) :
      Move config l .refused
        ({ l with phase := .ended, queue := [], failures := l.failures + 1, announced := true },
          (.published .disconnected :: if l.announced then [] else [.notified .hubUnreachable]) ++
            .notified (.reconnectExhausted (l.failures + 1)) :: .published .closed ::
              failQueue l.queue .closed)
  | tooLong (pending : Pending) (c : Call) (queue : List Call) (sent : Bool) (fault : FrameError)
      (hphase : l.phase = .open pending) (hqueue : l.queue = c :: queue)
      (hencode : (Request.call (l.lastId + 1) c.method c.params).encode config.maxFrameBytes =
        .error fault) :
      Move config l (.taken sent)
        ({ l with queue := queue, lastId := l.lastId + 1 },
          [.replied c.ticket (.error (.frame fault))])
  | posted (pending : Pending) (c : Call) (queue : List Call) (text : String)
      (hphase : l.phase = .open pending) (hqueue : l.queue = c :: queue)
      (hencode : (Request.call (l.lastId + 1) c.method c.params).encode config.maxFrameBytes =
        .ok text) :
      Move config l (.taken true)
        ({ l with
            queue := queue, lastId := l.lastId + 1
            phase := .open (pending ++ [(l.lastId + 1, .call c.ticket)]) },
          [.sent (Request.call (l.lastId + 1) c.method c.params)])
  | broken (pending : Pending) (c : Call) (queue : List Call) (text : String)
      (hphase : l.phase = .open pending) (hqueue : l.queue = c :: queue)
      (hencode : (Request.call (l.lastId + 1) c.method c.params).encode config.maxFrameBytes =
        .ok text) :
      Move config l (.taken false)
        ({ l with
            queue := [], lastId := l.lastId + 1, phase := .waiting l.backoffMs
            backoffMs := nextBackoff l.backoffMs, announced := true },
          .replied c.ticket (.error .connectionClosed) ::
            (pending.failAll .connectionClosed ++ .published .disconnected ::
              failQueue queue .connectionClosed ++ [.notified .hubUnreachable]))
  | resolved (pending : Pending) (text : String) (n ticket : Nat) (reply : Reply)
      (hphase : l.phase = .open pending) (hanswer : answer? config text = some (n, reply))
      (hentry : pending.entry? n = some (.call ticket)) :
      Move config l (.received text)
        ({ l with phase := .open (pending.erase n) }, [.replied ticket reply])
  | confirmed (pending : Pending) (text : String) (n : Nat) (reply : Reply)
      (hphase : l.phase = .open pending) (hanswer : answer? config text = some (n, reply))
      (hentry : pending.entry? n = some .subscription) :
      Move config l (.received text) ({ l with phase := .open (pending.erase n) }, [])
  | unmatched (pending : Pending) (text : String) (n : Nat) (reply : Reply)
      (hphase : l.phase = .open pending) (hanswer : answer? config text = some (n, reply))
      (hentry : pending.entry? n = none) : Move config l (.received text) (l, [])
  | pushed (pending : Pending) (text : String) (hphase : l.phase = .open pending)
      (hanswer : answer? config text = none) :
      Move config l (.received text) (l, l.pushes config text)
  | lost (pending : Pending) (hphase : l.phase = .open pending) :
      Move config l .lost
        ({ l with
            queue := [], phase := .waiting l.backoffMs, backoffMs := nextBackoff l.backoffMs
            announced := true },
          pending.failAll .connectionClosed ++ .published .disconnected ::
            failQueue l.queue .connectionClosed ++ [.notified .hubUnreachable])
  | shutOpen (pending : Pending) (hphase : l.phase = .open pending) :
      Move config l .shutDown
        ({ l with phase := .ended, queue := [] },
          pending.failAll .connectionClosed ++ .published .disconnected ::
            failQueue l.queue .connectionClosed ++ [.published .closed])
  | shutIdle (hstate : l.state = .disconnected ∨ l.state = .connecting) :
      Move config l .shutDown
        ({ l with phase := .ended, queue := [] }, .published .closed :: failQueue l.queue .closed)
  | registered (topic : Topic) (sink : Nat) :
      Move config l (.registered topic sink) ({ l with sinks := (topic, sink) :: l.sinks }, [])

variable {config : Config} {l : Link}

theorem state_of_phase_open (pending : Pending) (h : l.phase = .open pending) :
    l.state = .open := by
  simp [state, h]

theorem pending_of_phase_open (pending : Pending) (h : l.phase = .open pending) :
    l.pending = pending := by
  simp [Link.pending, h]

theorem phase_of_state_open (h : l.state = .open) : l.phase = .open l.pending := by
  unfold state at h
  unfold Link.pending
  split at h <;> simp_all

theorem pending_of_state_ne_open (h : l.state ≠ .open) : l.pending = [] := by
  unfold state at h
  unfold Link.pending
  split at h <;> simp_all

theorem state_of_mem_pending (p : Nat × Entry) (h : p ∈ l.pending) : l.state = .open := by
  by_contra hne
  rw [pending_of_state_ne_open hne] at h
  cases h

private theorem opened_move (sent : Bool) (hphase : l.phase = .connecting) :
    Move config l (.connected sent) (l.opened config sent) := by
  unfold opened
  dsimp only
  split
  · next h =>
    obtain ⟨hencode, rfl⟩ := Bool.and_eq_true_iff.mp h
    exact .subscribed hphase hencode
  · next h => exact .unsubscribed sent hphase h

private theorem fail_move (hphase : l.phase = .connecting) :
    Move config l .refused (l.fail config) := by
  unfold fail
  dsimp only
  split
  · next hleft => exact .exhausted hphase hleft
  · next hleft => exact .failed hphase (Nat.lt_of_not_le hleft)

private theorem send_move (pending : Pending) (c : Call) (queue : List Call) (sent : Bool)
    (hphase : l.phase = .open pending) (hqueue : l.queue = c :: queue) :
    Move config l (.taken sent) ({ l with queue }.send config pending c sent) := by
  unfold send
  dsimp only
  cases hencode : (Request.call (l.lastId + 1) c.method c.params).encode config.maxFrameBytes with
  | error fault => exact .tooLong pending c queue sent fault hphase hqueue hencode
  | ok text =>
    cases sent with
    | false => exact .broken pending c queue text hphase hqueue hencode
    | true => exact .posted pending c queue text hphase hqueue hencode

private theorem receive_move (pending : Pending) (text : String)
    (hphase : l.phase = .open pending) :
    Move config l (.received text)
      ({ l with phase := .open (l.receive config pending text).1 },
        (l.receive config pending text).2) := by
  have hsame : { l with phase := .open pending } = l := by rw [← hphase]
  cases hanswer : answer? config text with
  | none =>
    rw [receive_of_no_answer config l pending text hanswer, hsame]
    exact .pushed pending text hphase hanswer
  | some found =>
    obtain ⟨n, reply⟩ := found
    rw [receive_of_answer config l pending text n reply hanswer]
    unfold Pending.resolve
    dsimp only
    cases hentry : pending.entry? n with
    | none =>
      dsimp only
      rw [hsame]
      exact .unmatched pending text n reply hphase hanswer hentry
    | some entry =>
      cases entry with
      | call ticket => exact .resolved pending text n ticket reply hphase hanswer hentry
      | subscription => exact .confirmed pending text n reply hphase hanswer hentry

private theorem shutDown_move : Move config l .shutDown l.shutDown := by
  unfold shutDown
  cases hphase : l.phase with
  | waiting ms => exact .shutIdle (.inl (by simp [state, hphase]))
  | connecting => exact .shutIdle (.inr (by simp [state, hphase]))
  | «open» pending =>
    have h : Move config l .shutDown _ := .shutOpen pending hphase
    simpa [endConnection, finish, failQueue] using h
  | ended => exact .ignored _ (by simp [Fits, state, hphase])

/-- Every step is one of the moves. -/
theorem step_move (config : Config) (l : Link) (e : LinkEvent) :
    Move config l e (l.step config e) := by
  cases e with
  | queued c =>
    unfold step
    dsimp only
    split
    · next hphase => exact .turnedAway c (by simp [state, hphase])
    · next hphase => exact .accepted c (by unfold state; split <;> simp_all)
  | attempted =>
    unfold step
    cases hphase : l.phase with
    | waiting ms => exact .attempted ms hphase
    | _ => exact .ignored _ (by simp [Fits, state, hphase])
  | connected sent =>
    unfold step
    cases hphase : l.phase with
    | connecting => exact opened_move sent hphase
    | _ => exact .ignored _ (by simp [Fits, state, hphase])
  | refused =>
    unfold step
    cases hphase : l.phase with
    | connecting => exact fail_move hphase
    | _ => exact .ignored _ (by simp [Fits, state, hphase])
  | taken sent =>
    unfold step
    dsimp only
    split
    · next pending c queue hphase hqueue => exact send_move pending c queue sent hphase hqueue
    · next hnone =>
      refine .ignored _ fun ⟨hopen, hqueue⟩ => ?_
      obtain ⟨c, queue, hcons⟩ := List.exists_cons_of_ne_nil hqueue
      exact hnone l.pending c queue (phase_of_state_open hopen) hcons
  | received text =>
    unfold step
    cases hphase : l.phase with
    | «open» pending => exact receive_move pending text hphase
    | _ => exact .ignored _ (by simp [Fits, state, hphase])
  | lost =>
    unfold step
    cases hphase : l.phase with
    | «open» pending => exact .lost pending hphase
    | _ => exact .ignored _ (by simp [Fits, state, hphase])
  | shutDown => exact shutDown_move
  | registered topic sink => exact .registered topic sink

/-- The link after the events of a run. -/
def after (config : Config) (es : List LinkEvent) : Link := ((start config).run config es).1

/-- All that a run does to be seen by others, in order. -/
def effects (config : Config) (es : List LinkEvent) : List LinkEffect :=
  ((start config).run config es).2

theorem after_snoc (config : Config) (es : List LinkEvent) (e : LinkEvent) :
    after config (es ++ [e]) = ((after config es).step config e).1 := by
  unfold after
  rw [run_append]
  rfl

theorem effects_snoc (config : Config) (es : List LinkEvent) (e : LinkEvent) :
    effects config (es ++ [e]) = effects config es ++ ((after config es).step config e).2 := by
  unfold effects after
  rw [run_append]
  simp only [run, List.append_nil]

/-- What the steps of a run from a link add to a record, in order. -/
def collect {α : Type} (config : Config) (f : Link → LinkEvent → List α) (l : Link) :
    List LinkEvent → List α
  | [] => []
  | e :: es => f l e ++ collect config f (l.step config e).1 es

theorem collect_append {α : Type} (config : Config) (f : Link → LinkEvent → List α) (l : Link)
    (es fs : List LinkEvent) :
    l.collect config f (es ++ fs) =
      l.collect config f es ++ (l.run config es).1.collect config f fs := by
  induction es generalizing l with
  | nil => rfl
  | cons e es ih =>
    rw [List.cons_append, collect, collect, ih, List.append_assoc]
    rfl

theorem collect_snoc {α : Type} (config : Config) (f : Link → LinkEvent → List α)
    (es : List LinkEvent) (e : LinkEvent) :
    (start config).collect config f (es ++ [e]) =
      (start config).collect config f es ++ f (after config es) e := by
  rw [collect_append, collect, collect, List.append_nil]
  rfl

/-- What holds at the start and is kept by every move holds after every run. -/
theorem after_induction (config : Config) (P : Link → Prop) (hstart : P (start config))
    (hmove : ∀ l e r, P l → Move config l e r → P r.1) (es : List LinkEvent) :
    P (after config es) := by
  induction es using List.reverseRecOn with
  | nil => exact hstart
  | append_singleton es e ih =>
    rw [after_snoc]
    exact hmove _ e _ ih (step_move config _ e)

end Link

end HubConsole.Session
