import HubConsole.Console.Trial
import HubConsole.Proofs.Session.Attempts
import HubConsole.Proofs.Session.Conservation
import HubConsole.Proofs.Session.ManagerRun

namespace HubConsole.Session

open HubConsole.Rpc

/-- The notice is about a call that the hub has answered, and not about the connection. -/
def Notice.isOfCall : Notice → Bool
  | .hubUnreachable | .hubNotResponding | .reconnectExhausted _ => false
  | .agentNotFound | .nodeNotRunning | .internalError => true
  | .alreadyRunning _ | .envParse _ | .updating _ => true

/-- The session gives a reply like this: an error of the hub is an outcome, and no failure of the session. -/
def FromSession (reply : Reply) : Prop := ∀ e, reply ≠ .error (.rpc e)

theorem IsFinal.fromSession {reply : Reply} (h : IsFinal reply) : FromSession reply := by
  rcases h with ⟨outcome, rfl⟩ | ⟨fault, rfl⟩ | rfl | rfl <;> exact fun e => nofun

/-- An effect of a session that leaves it to the caller to speak of the call. -/
def ManagerEffect.Reserved : ManagerEffect → Prop
  | .returned _ reply => FromSession reply
  | .notified notice | .link (.notified notice) => notice.isOfCall = false
  | .link (.published _) | .link (.sent _) | .link (.replied _ _) | .link (.delivered _ _) => True

theorem Link.Move.notice_isOfCall {config : Config} {l : Link} {e : LinkEvent}
    {r : Link × List LinkEffect} (h : Link.Move config l e r) (notice : Notice)
    (hmem : .notified notice ∈ r.2) : notice.isOfCall = false := by
  have hnotice := (mem_notices_iff notice r.2).mpr hmem
  rw [h.notices_eq] at hnotice
  split at hnotice
  · rcases List.mem_append.mp hnotice with hgone | hexhausted
    · split at hgone
      · cases hgone
      · rw [List.mem_singleton.mp hgone]
        rfl
    · split at hexhausted
      · rw [List.mem_singleton.mp hexhausted]
        rfl
      · cases hexhausted
  · split at hnotice
    · rw [List.mem_singleton.mp hnotice]
      rfl
    · cases hnotice

namespace Manager

variable {config : Config}

theorem reserved_linkStep (m : Manager) (e : LinkEvent) :
    ∀ effect ∈ (m.linkStep config e).2, effect.Reserved := by
  intro effect hmem
  have hmove := Link.step_move config m.link e
  rw [linkStep_effects] at hmem
  obtain ⟨linkEffect, hlink, rfl⟩ := List.mem_map.mp hmem
  cases linkEffect with
  | replied ticket reply => exact (hmove.cause ticket reply hlink).isFinal.fromSession
  | notified notice => exact hmove.notice_isOfCall notice hlink
  | published | sent | delivered => trivial

theorem Move.reserved {m : Manager} {e : ManagerEvent} {r : Manager × List ManagerEffect}
    (h : Move config m e r) : ∀ effect ∈ r.2, effect.Reserved := by
  intro effect hmem
  cases h with
  | asked | idle | sawOpen | lookedOn => cases hmem
  | sawClosed =>
    rw [List.mem_singleton.mp hmem]
    exact fun e => nofun
  | gaveUp =>
    rcases List.mem_pair.mp hmem with rfl | rfl
    · rfl
    · exact fun e => nofun
  | handedOver | link => exact reserved_linkStep _ _ effect hmem

theorem reserved_run (m : Manager) (es : List ManagerEvent) :
    ∀ effect ∈ (m.run config es).2, effect.Reserved := by
  induction es generalizing m with
  | nil => exact fun effect => nofun
  | cons e es ih =>
    intro effect hmem
    rcases List.mem_append.mp hmem with hfirst | hrest
    · exact (step_move config m e).reserved effect hfirst
    · exact ih _ effect hrest

end Manager
end HubConsole.Session

namespace HubConsole.Console.Trial

open HubConsole.Json HubConsole.Session

/-- The second trial comes out of the first by what session and hub do: nothing is printed, nothing more is told
about calls, and the replies that came in are of the session. -/
structure Serves (t t' : Trial) : Prop where
  printed : t'.printed = t.printed
  notices : t'.notices.filter Notice.isOfCall = t.notices.filter Notice.isOfCall
  replies : ∀ reply ∈ t'.replies, reply ∈ t.replies ∨ FromSession reply.2

namespace Serves

theorem refl (t : Trial) : Serves t t := ⟨rfl, rfl, fun _ => .inl⟩

variable {t t₁ t₂ : Trial}

theorem trans (h₁ : Serves t t₁) (h₂ : Serves t₁ t₂) : Serves t t₂ where
  printed := h₂.printed.trans h₁.printed
  notices := h₂.notices.trans h₁.notices
  replies := by
    intro reply hmem
    rcases h₂.replies reply hmem with hmem | hreply
    · exact h₁.replies reply hmem
    · exact .inr hreply

theorem fromSession (h : Serves t t₁) (ht : ∀ reply ∈ t.replies, FromSession reply.2) :
    ∀ reply ∈ t₁.replies, FromSession reply.2 :=
  fun reply hmem => (h.replies reply hmem).elim (ht reply) id

end Serves

theorem serves_notified (t : Trial) (notice : Notice) (h : notice.isOfCall = false) :
    Serves t { t with notices := t.notices ++ [notice] } where
  printed := rfl
  notices := by
    rw [List.filter_append, List.filter_singleton, h]
    exact List.append_nil _
  replies := fun _ => .inl

theorem serves_observe (t : Trial) (effect : ManagerEffect) (h : effect.Reserved) :
    Serves t (t.observe effect) := by
  cases effect with
  | returned ticket reply =>
    refine ⟨rfl, rfl, fun entry hmem => ?_⟩
    rcases List.mem_append.mp hmem with hmem | hmem
    · exact .inl hmem
    · rw [List.mem_singleton.mp hmem]
      exact .inr h
  | notified notice => exact serves_notified t notice h
  | link effect =>
    cases effect with
    | notified notice => exact serves_notified t notice h
    | published | sent | replied | delivered => exact ⟨rfl, rfl, fun _ => .inl⟩

theorem serves_play (t : Trial) (events : List ManagerEvent) : Serves t (t.play events) := by
  have hfold (effects : List ManagerEffect) (h : ∀ effect ∈ effects, effect.Reserved) (t : Trial) :
      Serves t (effects.foldl observe t) := by
    induction effects generalizing t with
    | nil => exact .refl t
    | cons effect effects ih =>
      obtain ⟨hfirst, hrest⟩ := List.forall_mem_cons.mp h
      exact (serves_observe t effect hfirst).trans (ih hrest _)
  have hmanager : Serves t { t with manager := (t.manager.run t.config events).1 } := ⟨rfl, rfl, fun _ => .inl⟩
  exact hmanager.trans (hfold _ (Manager.reserved_run t.manager events) _)

theorem serves_sendPushes (t : Trial) (script : List ScriptItem) : Serves t (t.sendPushes script) := by
  induction script generalizing t with
  | nil => exact ⟨rfl, rfl, fun _ => .inl⟩
  | cons item rest ih =>
    cases item with
    | push text => exact (serves_play t _).trans (ih (t.receive text))
    | result v | error v | raw text => exact ⟨rfl, rfl, fun _ => .inl⟩

theorem serves_begin (t : Trial) : Serves t t.begin := by
  unfold begin
  split
  · exact .refl t
  · have hbegun : Serves t { t with begun := true } := ⟨rfl, rfl, fun _ => .inl⟩
    exact (hbegun.trans (serves_play _ _)).trans (serves_sendPushes _ _)

theorem serves_leave (t : Trial) : Serves t t.leave := serves_play t _

theorem serves_respond (t : Trial) (id : Nat) : Serves t (t.respond id) := by
  unfold respond
  split
  · exact (serves_play t _).trans (serves_sendPushes _ _)
  · split
    · exact serves_leave t
    · exact serves_play t _

theorem serves_takeReply (t : Trial) (ticket : Nat) : Serves t (t.takeReply ticket).1 :=
  ⟨rfl, rfl, fun _ hmem => .inl (List.mem_of_mem_filter hmem)⟩

theorem mem_of_takeReply {t t' : Trial} {ticket : Nat} {reply : Reply}
    (h : t.takeReply ticket = (t', some reply)) : (ticket, reply) ∈ t.replies := by
  have hlookup : t.replies.lookup ticket = some reply := congrArg Prod.snd h
  obtain ⟨before, after, hsplit, -⟩ := List.lookup_eq_some_iff.mp hlookup
  rw [hsplit]
  exact List.mem_append_right before List.mem_cons_self

/-- A call in a trial is a matter of the session, and so is the reply to it. -/
theorem serves_exchange (t : Trial) (method : String) (params : Value) :
    Serves t (t.exchange method params).1 ∧
      ((∀ reply ∈ t.replies, FromSession reply.2) → FromSession (t.exchange method params).2) := by
  have htaken {t t' : Trial} {ticket : Nat} {reply : Option Reply} (h : t.takeReply ticket = (t', reply)) :
      Serves t t' := by
    have hserves := serves_takeReply t ticket
    rwa [h] at hserves
  -- The reply is there once the call is made, or once the hub has responded, or it never comes.
  unfold exchange
  dsimp only
  have hasked := (serves_begin t).trans
    (serves_play t.begin (ManagerEvent.exchange t.begin.config (t.begin.manager.tickets + 1) method params))
  split
  · next h => exact ⟨hasked.trans (htaken h), fun ht => hasked.fromSession ht _ (mem_of_takeReply h)⟩
  · next asked h =>
    have hanswered := (hasked.trans (htaken h)).trans (serves_respond asked asked.manager.link.lastId)
    split
    · next h => exact ⟨hanswered.trans (htaken h), fun ht => hanswered.fromSession ht _ (mem_of_takeReply h)⟩
    · next answered h =>
      have hleft := (hanswered.trans (htaken h)).trans (serves_leave answered)
      exact ⟨hleft.trans (serves_takeReply _ _), fun _ e => nofun⟩

end HubConsole.Console.Trial
