import HubConsole.Proofs.Session.Standing
import HubConsole.Session.Hub

namespace HubConsole.Session

open HubConsole.Json HubConsole.Rpc

open Polling

/-- A caller is told that the connection did not open in time. -/
def ManagerEffect.isTimeout : ManagerEffect → Bool
  | .returned _ (.error .timeout) => true
  | _ => false

/-- The user is told that the hub does not respond. -/
def ManagerEffect.isUnresponsive : ManagerEffect → Bool
  | .notified .hubNotResponding | .link (.notified .hubNotResponding) => true
  | _ => false

namespace Manager

variable {config : Config} {es : List ManagerEvent} {ticket : Nat}

/-- A caller is told what it makes of the states that it has seen, and the link has nothing of the call; or it
has seen the connection open, and is told what the link says of the call. -/
theorem returned_cases (hes : FromCallers es) {reply : Reply}
    (h : .returned ticket reply ∈ effects config es) :
    (∃ fault, reply = .error fault ∧ Ends config.pollAttempts (seen config ticket es) (.error fault) ∧
        ticket ∉ offered (traffic config es)) ∨
      Ends config.pollAttempts (seen config ticket es) (.ok ()) ∧
        (offered (traffic config es)).count ticket = 1 ∧
        .replied ticket reply ∈ Link.effects config (traffic config es) := by
  cases standing config es hes ticket with
  | unknown _ _ _ _ hnone | looking _ _ _ _ _ _ _ _ hnone | sending _ _ _ _ _ _ hnone =>
    exact absurd h (hnone reply)
  | handed _ _ honce hseen hreturned => exact .inr ⟨hseen, honce, hreturned reply h⟩
  | turnedBack fault _ _ hoffered hseen hreturned =>
    exact .inl ⟨fault, hreturned reply h, hseen, hoffered⟩

/-- A call that is told that the connection did not open in time, or that the session has ended, is not sent. -/
theorem not_sent_of_returned (hes : FromCallers es) {reply : Reply}
    (h : .returned ticket reply ∈ effects config es)
    (hreply : reply = .error .timeout ∨ reply = .error .closed) :
    ticket ∉ Link.sent config (traffic config es) := by
  rcases returned_cases hes h with ⟨-, -, -, hoffered⟩ | ⟨-, honce, hreplied⟩
  · exact Link.not_mem_sent_of_not_offered hoffered
  · rcases hreply with rfl | rfl
    · exact absurd hreplied (Link.no_timeout config _ ticket)
    · exact Link.not_mem_sent_of_refused honce.le hreplied

section Notices

variable {m : Manager} {r : Manager × List ManagerEffect}

/-- A step tells a caller that the connection did not open in time and the user that the hub does not respond,
and nothing else, or it tells neither. -/
theorem Move.unresponsive (h : Move config m e r) :
    (∃ ticket, r.2 = [.notified .hubNotResponding, .returned ticket (.error .timeout)]) ∨
      (∀ ticket, .returned ticket (.error .timeout) ∉ r.2) ∧ .notified .hubNotResponding ∉ r.2 ∧
        .link (.notified .hubNotResponding) ∉ r.2 := by
  have hquiet (m : Manager) (e : LinkEvent) :
      (∀ ticket, .returned ticket (.error .timeout) ∉ (m.linkStep config e).2) ∧
        .notified .hubNotResponding ∉ (m.linkStep config e).2 ∧
        .link (.notified .hubNotResponding) ∉ (m.linkStep config e).2 := by
    have hmove := Link.step_move config m.link e
    rw [linkStep_effects]
    refine ⟨fun ticket hmem => ?_, fun hmem => ?_, fun hmem => ?_⟩
    · exact hmove.no_timeout ticket ((returned_mem_handed_iff _ _ _).mp hmem)
    · obtain ⟨effect, -, heq⟩ := List.mem_map.mp hmem
      cases effect <;> cases heq
    · obtain ⟨effect, hin, heq⟩ := List.mem_map.mp hmem
      cases effect <;> cases heq
      exact hmove.no_unresponsive hin
  cases h with
  | gaveUp ticket => exact .inl ⟨ticket, rfl⟩
  | handedOver | link => exact .inr (hquiet _ _)
  | sawClosed => exact .inr (by simp)
  | asked | idle | sawOpen | lookedOn =>
    exact .inr ⟨fun _ => List.not_mem_nil, List.not_mem_nil, List.not_mem_nil⟩

theorem Move.count_timeouts (h : Move config m e r) :
    r.2.countP ManagerEffect.isTimeout = r.2.countP ManagerEffect.isUnresponsive := by
  rcases h.unresponsive with ⟨ticket, heffects⟩ | ⟨hreturned, hnotified, hlink⟩
  · rw [heffects]
    rfl
  · have htimeouts : r.2.countP ManagerEffect.isTimeout = 0 := by
      refine List.countP_eq_zero.mpr fun effect hmem htimeout => ?_
      unfold ManagerEffect.isTimeout at htimeout
      split at htimeout
      · exact hreturned _ hmem
      · cases htimeout
    have hnotices : r.2.countP ManagerEffect.isUnresponsive = 0 := by
      refine List.countP_eq_zero.mpr fun effect hmem hnotice => ?_
      unfold ManagerEffect.isUnresponsive at hnotice
      split at hnotice
      · exact hnotified hmem
      · exact hlink hmem
      · cases hnotice
    rw [htimeouts, hnotices]

theorem count_timeouts (config : Config) (es : List ManagerEvent) :
    (effects config es).countP ManagerEffect.isTimeout =
      (effects config es).countP ManagerEffect.isUnresponsive := by
  induction es using List.reverseRecOn with
  | nil => rfl
  | append_singleton es e ih =>
    rw [effects_snoc, List.countP_append, List.countP_append, ih, (step_move config _ e).count_timeouts]

end Notices

/-- An error that is not about a result is the reply that the session gave, and nothing more is told. -/
theorem settle_eq_error {α : Type} {method : Method α} {reply : Reply} {fault : CallError}
    (hfault : fault = .timeout ∨ fault = .closed) (h : (method.settle reply).1 = .error fault) :
    reply = .error fault ∧ (method.settle reply).2 = [] := by
  cases reply with
  | error e =>
    obtain rfl := Except.error.inj h
    exact ⟨rfl, rfl⟩
  | ok outcome =>
    exfalso
    simp only [Method.settle, Session.settle] at h
    split at h <;> split at h <;> rcases hfault with rfl | rfl <;> cases h

/-- A call that fails because the connection did not open in time, or because the session has ended, was never
sent, whatever happens between the looks of its caller and the steps of the link. Each caller is told what it
makes of the states that it sees, unless it sees the connection open and the link tells it more. Looking ends as
the first settled state says. The user is told once for each call that the connection did not open in time, and
never for a call that is told that the session has ended. -/
theorem failed_calls_not_sent (config : Config) (es : List ManagerEvent) (hes : FromCallers es) :
    requests (effects config es) = (Link.posts config (traffic config es)).map Post.request ∧
      (∀ (α : Type) (method : Method α) ticket reply fault, .returned ticket reply ∈ effects config es →
        (method.settle reply).1 = .error fault → fault = .timeout ∨ fault = .closed →
          (method.settle reply).2 = [] ∧
            ∀ post ∈ Link.posts config (traffic config es), ∀ c, post.call? = some c → c.ticket ≠ ticket) ∧
      (∀ ticket reply, .returned ticket reply ∈ effects config es →
        (∃ fault, reply = .error fault ∧
          Ends config.pollAttempts (seen config ticket es) (.error fault)) ∨
        Ends config.pollAttempts (seen config ticket es) (.ok ()) ∧
          .replied ticket reply ∈ Link.effects config (traffic config es)) ∧
      (∀ poll attempts,
        (waitForOpen poll 0 attempts = .ok () ↔ firstSettled poll attempts = some .open) ∧
        (waitForOpen poll 0 attempts = .error .closed ↔ firstSettled poll attempts = some .closed) ∧
        (waitForOpen poll 0 attempts = .error .timeout ↔ firstSettled poll attempts = none)) ∧
      (effects config es).countP ManagerEffect.isTimeout =
        (effects config es).countP ManagerEffect.isUnresponsive ∧
      ∀ e ticket, let told := ((after config es).step config e).2
        (.returned ticket (.error .timeout) ∈ told →
          told = [.notified .hubNotResponding, .returned ticket (.error .timeout)]) ∧
        (.returned ticket (.error .closed) ∈ told →
          .notified .hubNotResponding ∉ told ∧ .link (.notified .hubNotResponding) ∉ told) := by
  refine ⟨?_, ?_, ?_, fun poll attempts => waitForOpen_ends poll attempts, count_timeouts config es, ?_⟩
  · rw [(link_after config es).2, Link.posts_request]
  · intro α method ticket reply fault hreturned hsettle hfault
    obtain ⟨rfl, hnotices⟩ := settle_eq_error hfault hsettle
    refine ⟨hnotices, fun post hpost c hcall hticket => ?_⟩
    have hreply : (.error fault : Reply) = .error .timeout ∨ (.error fault : Reply) = .error .closed :=
      hfault.imp (congrArg _) (congrArg _)
    refine not_sent_of_returned hes hreturned hreply ?_
    exact (Link.mem_sent_iff config _ ticket).mpr ⟨post, hpost, c, hcall, hticket⟩
  · intro ticket reply hreturned
    refine (returned_cases hes hreturned).imp ?_ ?_
    · rintro ⟨fault, hreply, hseen, -⟩
      exact ⟨fault, hreply, hseen⟩
    · rintro ⟨hseen, -, hreplied⟩
      exact ⟨hseen, hreplied⟩
  · intro e ticket told
    rcases (step_move config (after config es) e).unresponsive with ⟨u, htold⟩ | ⟨hreturned, hquiet⟩
    · change told = _ at htold
      rw [htold]
      constructor <;> intro hmem <;> simp_all
    · exact ⟨fun hmem => absurd hmem (hreturned ticket), fun _ => hquiet⟩

/-- A caller gives up; another one sees the connection open, but the session ends before it hands its call
over. -/
theorem calls_too_early_and_too_late :
    let config : Config := { Config.new "" "" with pollAttempts := 1 }
    let es : List ManagerEvent := [.asked "early" .null, .resumed 1, .resumed 1, .asked "late" .null,
      .link .attempted, .link (.connected false), .resumed 2, .link .shutDown, .resumed 2]
    .returned 1 (.error .timeout) ∈ effects config es ∧ .returned 2 (.error .closed) ∈ effects config es ∧
      ∀ post ∈ Link.posts config (traffic config es), ∀ c, post.call? = some c →
        c.ticket ≠ 1 ∧ c.ticket ≠ 2 := by
  intro config es
  have hes : FromCallers es := fun c hc => by simp [es] at hc
  have heffects : effects config es = [.notified .hubNotResponding, .returned 1 (.error .timeout),
    .link (.published .connecting), .link (.published .open), .link (.published .disconnected),
    .link (.published .closed), .returned 2 (.error .closed)] := by
    simp [es, config, effects, run, start, step, linkStep, absorb, look, caller?, setStage, dismiss, state,
      Link.start, Link.step, Link.state, Link.opened, Link.shutDown, Link.endConnection, Link.finish,
      Link.failQueue, Pending.failAll]
  have hearly : .returned 1 (.error .timeout) ∈ effects config es := by simp [heffects]
  have hlate : .returned 2 (.error .closed) ∈ effects config es := by simp [heffects]
  obtain ⟨-, hunsent, -⟩ := failed_calls_not_sent config es hes
  refine ⟨hearly, hlate, fun post hpost c hcall => ⟨?_, ?_⟩⟩
  · exact (hunsent Value (Hub.raw "early" .null) 1 _ .timeout hearly rfl (.inl rfl)).2 post hpost c hcall
  · exact (hunsent Value (Hub.raw "late" .null) 2 _ .closed hlate rfl (.inr rfl)).2 post hpost c hcall

end Manager
end HubConsole.Session
