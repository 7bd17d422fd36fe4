import HubConsole.Proofs.Session.Flight
import HubConsole.Proofs.Session.Replies

namespace HubConsole.Session

open HubConsole.Json HubConsole.Rpc

@[simp] def LinkEvent.ticket? : LinkEvent → Option Nat
  | .queued c => some c.ticket
  | _ => none

/-- The tickets of the calls that are handed to the link, in order. A call that comes after the end is
among them; it is turned away with a reply of its own. -/
def offered (es : List LinkEvent) : List Nat := es.filterMap LinkEvent.ticket?

theorem offered_append (es fs : List LinkEvent) : offered (es ++ fs) = offered es ++ offered fs :=
  List.filterMap_append

theorem offered_snoc (es : List LinkEvent) (e : LinkEvent) :
    offered (es ++ [e]) = offered es ++ e.ticket?.toList := by
  rw [offered_append]
  cases e <;> rfl

/-- The tickets of the calls that a link has not answered. -/
def Link.held (l : Link) : List Nat := l.queue.map Call.ticket ++ l.pending.tickets

/-- How a call ends for the link: with the hub's outcome, for a frame that cannot be sent or read, with
the connection, or with the link. -/
def IsFinal (reply : Reply) : Prop :=
  (∃ outcome, reply = .ok outcome) ∨ (∃ fault, reply = .error (.frame fault)) ∨
    reply = .error .connectionClosed ∨ reply = .error .closed

namespace Link

variable {config : Config} {l : Link} {e : LinkEvent} {r : Link × List LinkEffect}

theorem held_of_open (pending : Pending) (h : l.phase = .open pending) :
    l.held = l.queue.map Call.ticket ++ pending.tickets := by
  rw [held, pending_of_phase_open pending h]

theorem held_of_not_open (h : l.state ≠ .open) : l.held = l.queue.map Call.ticket := by
  rw [held, pending_of_state_ne_open h]
  exact List.append_nil _

/-- A call that is handed over is answered or held, and a call that is answered was held. -/
theorem Move.balance (h : Move config l e r) (ticket : Nat) :
    (answered r.2).count ticket + r.1.held.count ticket =
      l.held.count ticket + e.ticket?.toList.count ticket := by
  cases h with
  | ignored _ hfits =>
    cases e with
    | queued c => exact absurd trivial hfits
    | _ => simp
  | accepted c => simp +arith [held, Link.pending, List.count_cons]
  | turnedAway c => simp +arith
  | attempted ms hphase => simp [held, Link.pending, hphase]
  | subscribed hphase => simp [held, Link.pending, hphase]
  | unsubscribed sent hphase => simp [held, Link.pending, hphase]
  | failed hphase => simp [held, Link.pending, hphase]
  | exhausted hphase => simp [held, Link.pending, hphase]
  | tooLong pending c queue sent fault hphase hqueue =>
    simp +arith [held, Link.pending, hphase, hqueue, List.count_cons]
  | posted pending c queue text hphase hqueue =>
    simp +arith [held, Link.pending, hphase, hqueue, List.count_cons]
  | broken pending c queue text hphase hqueue =>
    simp +arith [held, Link.pending, hphase, hqueue, List.count_cons]
  | resolved pending text n t reply hphase hanswer hentry =>
    have herase := Pending.count_tickets_erase pending n _ ticket hentry
    rw [held_of_open pending hphase, List.count_append, herase]
    simp +arith [held, Link.pending, List.count_cons]
  | confirmed pending text n reply hphase hanswer hentry =>
    have herase := Pending.count_tickets_erase pending n _ ticket hentry
    rw [held_of_open pending hphase, List.count_append, herase]
    simp [held, Link.pending]
  | unmatched => simp
  | pushed => simp
  | lost pending hphase => simp +arith [held, Link.pending, hphase]
  | shutOpen pending hphase => simp +arith [held, Link.pending, hphase]
  | shutIdle hstate =>
    have hnot : l.state ≠ .open := by rcases hstate with h | h <;> simp [h]
    rw [held_of_not_open hnot]
    simp [held, Link.pending]
  | registered topic sink => simp [held, Link.pending]

/-- The calls that are handed over are, at all times, the ones answered and the ones held. -/
theorem run_balance (config : Config) (es : List LinkEvent) (ticket : Nat) :
    (answered (effects config es)).count ticket + (after config es).held.count ticket =
      (offered es).count ticket := by
  induction es using List.reverseRecOn with
  | nil => rfl
  | append_singleton es e ih =>
    have hstep := (step_move config (after config es) e).balance ticket
    rw [effects_snoc, after_snoc, offered_snoc, answered_append, List.count_append, List.count_append]
    omega

/-- Every cause makes a final reply. -/
theorem Cause.isFinal (ticket : Nat) (reply : Reply) (h : Cause config l ticket e reply) :
    IsFinal reply := by
  cases h with
  | answer text n _ hanswer =>
    cases reply with
    | ok outcome => exact .inl ⟨outcome, rfl⟩
    | error fault =>
      obtain ⟨frame, rfl⟩ := answer?_error config text n fault hanswer
      exact .inr (.inl ⟨frame, rfl⟩)
  | unsendable sent fault => exact .inr (.inl ⟨fault, rfl⟩)
  | lost => exact .inr (.inr (.inl rfl))
  | ended => exact .inr (.inr (.inr rfl))

/-- The entry of a call on the wire is kept until the call is answered. -/
theorem pending_of_onWire (es since : List LinkEvent) (c : Call) (id : Nat)
    (h : OnWire config es c id since) (hnone : c.ticket ∉ answered (effects config es)) :
    (id, .call c.ticket) ∈ (after config es).pending := by
  induction since using List.reverseRecOn generalizing es with
  | nil =>
    obtain ⟨before, rfl, hsends, -⟩ := h
    rw [after_snoc, hsends.step_eq]
    simp [Link.pending]
  | append_singleton since e ih =>
    obtain ⟨es, rfl⟩ : ∃ front, es = front ++ [e] := by
      obtain ⟨before, rfl, -⟩ := h
      exact ⟨before ++ .taken true :: since, by simp⟩
    obtain ⟨hbefore, hstate⟩ := (onWire_snoc es e since).mp h
    rw [effects_snoc, answered_append, List.mem_append, not_or] at hnone
    rw [after_snoc] at hstate ⊢
    have hmem := ih es hbefore hnone.1
    have hfate := (step_move config _ e).fate (ordered_after config es) id c.ticket hmem
    cases hfate with
    | kept _ hmem => exact hmem
    | answered _ text reply _ _ _ heffects =>
      rw [heffects] at hnone
      simp at hnone
    | failed hclosed => exact absurd hstate hclosed

/-- The queue of a link that has ended is empty. -/
theorem queue_of_closed (config : Config) (es : List LinkEvent) :
    (after config es).state = .closed → (after config es).queue = [] := by
  refine after_induction config (fun l => l.state = .closed → l.queue = []) ?_ ?_ es
  · intro h
    cases h
  · intro l e r ih hmove hclosed
    cases hmove with
    | ignored | turnedAway | unmatched | pushed => exact ih hclosed
    | accepted c hstate => exact absurd hclosed hstate
    | registered => exact ih hclosed
    | tooLong pending c queue sent fault hphase =>
      simp [state, hphase] at hclosed
    | exhausted | shutOpen | shutIdle => rfl
    | attempted | subscribed | unsubscribed | failed | posted | broken | resolved | confirmed
    | lost => simp [state] at hclosed

/-- Every call is answered at most once, and just once when the link has ended: with the hub's outcome,
for a frame, or with `connectionClosed` or `closed`. A call whose connection ends is failed with
`connectionClosed`; a link that has ended has none in its queue. -/
theorem calls_answered_once (config : Config) (es : List LinkEvent) :
    (∀ ticket, (answered (effects config es)).count ticket ≤ (offered es).count ticket) ∧
    ((after config es).state = .closed → (after config es).queue = [] ∧
      ∀ ticket, (answered (effects config es)).count ticket = (offered es).count ticket) ∧
    (∀ ticket reply, .replied ticket reply ∈ effects config es → IsFinal reply) ∧
    (∀ c id since e, OnWire config es c id since → c.ticket ∉ answered (effects config es) →
      (after config (es ++ [e])).state ≠ .open →
      .replied c.ticket (.error .connectionClosed) ∈ ((after config es).step config e).2) := by
  refine ⟨?_, ?_, ?_, ?_⟩
  · intro ticket
    have hbalance := run_balance config es ticket
    omega
  · intro hclosed
    have hqueue := queue_of_closed config es hclosed
    refine ⟨hqueue, fun ticket => ?_⟩
    have hpending : (after config es).pending = [] :=
      pending_of_state_ne_open (by rw [hclosed]; decide)
    have hbalance := run_balance config es ticket
    rw [held, hqueue, hpending] at hbalance
    simpa using hbalance
  · intro ticket reply hmem
    induction es using List.reverseRecOn with
    | nil => cases hmem
    | append_singleton es e ih =>
      rw [effects_snoc, List.mem_append] at hmem
      rcases hmem with hmem | hmem
      · exact ih hmem
      · exact ((step_move config _ e).cause ticket reply hmem).isFinal
  · intro c id since e hwire hnone hclosed
    rw [after_snoc] at hclosed
    have hmem := pending_of_onWire es since c id hwire hnone
    have hfate := (step_move config _ e).fate (ordered_after config es) id c.ticket hmem
    cases hfate with
    | kept hopen => exact absurd hopen hclosed
    | answered hopen => exact absurd hopen hclosed
    | failed _ _ hfailed => exact hfailed

/-- The hub answers one of two calls, and a push in between answers neither; the other one is failed in the end. -/
example :
    let config := Config.new "ws://h" ""
    let es := [.registered .network 3, .attempted, .connected true, .queued ⟨7, "log_getTargets", .array []⟩,
      .queued ⟨8, "dashboard_getNetwork", .array []⟩, .taken true, .taken true,
      .received "\x7b\"method\":\"dashboard_updated\",\"params\":[\x7b\x7d]\x7d",
      .received "\x7b\"id\":3,\"result\":null\x7d"]
    (after config es).state = .open ∧ answered (effects config es) = [8] ∧
      answered (effects config (es ++ [.shutDown])) = [8, 7] := by
  decide +kernel

end Link

end HubConsole.Session
