import HubConsole.Proofs.Session.Polling
import HubConsole.Proofs.Session.Refusals

namespace HubConsole.Session

open HubConsole.Json HubConsole.Rpc

/-- An effect of the link in a session, where a reply goes to its caller. -/
def LinkEffect.handed : LinkEffect → ManagerEffect
  | .replied ticket reply => .returned ticket reply
  | effect => .link effect

theorem returned_mem_handed_iff (ticket : Nat) (reply : Reply) (effects : List LinkEffect) :
    .returned ticket reply ∈ effects.map LinkEffect.handed ↔ .replied ticket reply ∈ effects := by
  rw [List.mem_map]
  constructor
  · rintro ⟨effect, hmem, heq⟩
    cases effect <;> simp only [LinkEffect.handed, ManagerEffect.returned.injEq, reduceCtorEq] at heq
    obtain ⟨rfl, rfl⟩ := heq
    exact hmem
  · exact fun h => ⟨_, h, rfl⟩

/-- The request that an effect puts on the wire. -/
def ManagerEffect.request? : ManagerEffect → Option Request
  | .link effect => effect.request?
  | _ => none

/-- The requests that effects of a session put on the wire, in order. -/
def requests (effects : List ManagerEffect) : List Request := effects.filterMap ManagerEffect.request?

theorem requests_append (fs gs : List ManagerEffect) : requests (fs ++ gs) = requests fs ++ requests gs :=
  List.filterMap_append

theorem requests_handed (effects : List LinkEffect) :
    requests (effects.map LinkEffect.handed) = wire effects := by
  rw [requests, wire, List.filterMap_map]
  congr 1
  funext effect
  cases effect <;> rfl

namespace Link

theorem after_append (config : Config) (es fs : List LinkEvent) :
    after config (es ++ fs) = ((after config es).run config fs).1 := by
  unfold after
  rw [run_append]

theorem effects_append (config : Config) (es fs : List LinkEvent) :
    effects config (es ++ fs) = effects config es ++ ((after config es).run config fs).2 := by
  unfold effects after
  rw [run_append]

theorem run_singleton (config : Config) (l : Link) (e : LinkEvent) : l.run config [e] = l.step config e := by
  simp only [run, List.append_nil]

end Link

namespace Manager

variable {config : Config} {m : Manager} {ticket : Nat}

theorem ticket_of_caller? {c : Caller} (h : m.caller? ticket = some c) : c.call.ticket = ticket := by
  simpa using List.find?_some h

theorem caller?_dismiss (m : Manager) (u ticket : Nat) :
    (m.dismiss u).caller? ticket = if ticket = u then none else m.caller? ticket := by
  rw [caller?, dismiss, List.find?_filter]
  split
  · next hu =>
    refine List.find?_eq_none.mpr fun c _ h => ?_
    simp [hu] at h
  · next hu =>
    congr 1
    funext c
    by_cases hc : c.call.ticket = ticket <;> simp [hc, hu]

theorem caller?_setStage (m : Manager) (u : Nat) (stage : Stage) (ticket : Nat) :
    (m.setStage u stage).caller? ticket =
      (m.caller? ticket).map fun c => if ticket = u then { c with stage } else c := by
  have hticket (c : Caller) : (if c.call.ticket == u then { c with stage } else c).call = c.call := by
    split <;> rfl
  simp only [caller?, setStage, List.find?_map, Function.comp_def, hticket]
  refine Option.map_congr fun c hc => ?_
  rw [ticket_of_caller? hc]
  simp only [beq_iff_eq]

theorem absorb_link (m : Manager) (effects : List LinkEffect) : (m.absorb effects).1.link = m.link := by
  induction effects generalizing m with
  | nil => rfl
  | cons effect effects ih => cases effect <;> exact ih _

theorem absorb_tickets (m : Manager) (effects : List LinkEffect) :
    (m.absorb effects).1.tickets = m.tickets := by
  induction effects generalizing m with
  | nil => rfl
  | cons effect effects ih => cases effect <;> exact ih _

theorem absorb_effects (m : Manager) (effects : List LinkEffect) :
    (m.absorb effects).2 = effects.map LinkEffect.handed := by
  induction effects generalizing m with
  | nil => rfl
  | cons effect effects ih => cases effect <;> exact congrArg (_ :: ·) (ih _)

theorem caller?_absorb (m : Manager) (effects : List LinkEffect) (ticket : Nat) :
    (m.absorb effects).1.caller? ticket =
      if ticket ∈ answered effects then none else m.caller? ticket := by
  induction effects generalizing m with
  | nil => rfl
  | cons effect effects ih =>
    cases effect with
    | replied u reply =>
      rw [absorb, ih, caller?_dismiss]
      by_cases hu : ticket = u <;> simp [hu]
    | _ => exact ih m

/-- All that an event can do to a session. -/
inductive Move (config : Config) (m : Manager) : ManagerEvent → Manager × List ManagerEffect → Prop
  | asked (method : String) (params : Value) :
      Move config m (.asked method params)
        ({ m with
            tickets := m.tickets + 1
            callers := m.callers ++ [⟨⟨m.tickets + 1, method, params⟩, .looking config.pollAttempts⟩] }, [])
  | idle (ticket : Nat) (hstage : ∀ c, m.caller? ticket = some c → c.stage = .queued) :
      Move config m (.resumed ticket) (m, [])
  | sawOpen (ticket left : Nat) (c : Caller) (hcaller : m.caller? ticket = some c)
      (hstage : c.stage = .looking left) (hstate : m.state = .open) :
      Move config m (.resumed ticket) (m.setStage ticket .sending, [])
  | sawClosed (ticket left : Nat) (c : Caller) (hcaller : m.caller? ticket = some c)
      (hstage : c.stage = .looking left) (hstate : m.state = .closed) :
      Move config m (.resumed ticket) (m.dismiss ticket, [.returned ticket (.error .closed)])
  | gaveUp (ticket : Nat) (c : Caller) (hcaller : m.caller? ticket = some c)
      (hstage : c.stage = .looking 0) (hstate : m.state.settled = false) :
      Move config m (.resumed ticket)
        (m.dismiss ticket, [.notified .hubNotResponding, .returned ticket (.error .timeout)])
  | lookedOn (ticket left : Nat) (c : Caller) (hcaller : m.caller? ticket = some c)
      (hstage : c.stage = .looking (left + 1)) (hstate : m.state.settled = false) :
      Move config m (.resumed ticket) (m.setStage ticket (.looking left), [])
  | handedOver (ticket : Nat) (c : Caller) (hcaller : m.caller? ticket = some c)
      (hstage : c.stage = .sending) :
      Move config m (.resumed ticket) ((m.setStage ticket .queued).linkStep config (.queued c.call))
  | link (e : LinkEvent) : Move config m (.link e) (m.linkStep config e)

private theorem look_move (left : Nat) (c : Caller) (hcaller : m.caller? ticket = some c)
    (hstage : c.stage = .looking left) : Move config m (.resumed ticket) (m.look ticket left) := by
  unfold look
  split
  · next hstate => exact .sawOpen ticket _ c hcaller hstage hstate
  · next hstate => exact .sawClosed ticket _ c hcaller hstage hstate
  · next hopen hclosed =>
    refine .gaveUp ticket c hcaller hstage ?_
    cases hstate : m.state <;> simp_all [State.settled]
  · next hopen hclosed =>
    refine .lookedOn ticket _ c hcaller hstage ?_
    cases hstate : m.state <;> simp_all [State.settled]

/-- Every step is one of the moves. -/
theorem step_move (config : Config) (m : Manager) (e : ManagerEvent) :
    Move config m e (m.step config e) := by
  cases e with
  | asked method params => exact .asked method params
  | link e => exact .link e
  | resumed ticket =>
    simp only [step]
    split
    · next hnone => exact .idle ticket fun c hc => by simp [hnone] at hc
    · next c hcaller =>
      split
      · next left hstage => exact look_move left c hcaller hstage
      · next hstage => exact .handedOver ticket c hcaller hstage
      · next hstage =>
        refine .idle ticket fun c' hc' => ?_
        obtain rfl := Option.some.inj (hcaller.symm.trans hc')
        exact hstage

/-- The session after the events of a run. -/
def after (config : Config) (es : List ManagerEvent) : Manager := ((start config).run config es).1

/-- All effects of a run, in order. -/
def effects (config : Config) (es : List ManagerEvent) : List ManagerEffect :=
  ((start config).run config es).2

theorem after_snoc (config : Config) (es : List ManagerEvent) (e : ManagerEvent) :
    after config (es ++ [e]) = ((after config es).step config e).1 := by
  unfold after
  rw [run_append]
  rfl

theorem effects_snoc (config : Config) (es : List ManagerEvent) (e : ManagerEvent) :
    effects config (es ++ [e]) = effects config es ++ ((after config es).step config e).2 := by
  unfold effects after
  rw [run_append]
  simp only [run, List.append_nil]

/-- What the steps of a run add to a record, in order. -/
def collect {α : Type} (config : Config) (f : Manager → ManagerEvent → List α) (m : Manager) :
    List ManagerEvent → List α
  | [] => []
  | e :: es => f m e ++ collect config f (m.step config e).1 es

theorem collect_append {α : Type} (config : Config) (f : Manager → ManagerEvent → List α) (m : Manager)
    (es fs : List ManagerEvent) :
    m.collect config f (es ++ fs) =
      m.collect config f es ++ (m.run config es).1.collect config f fs := by
  induction es generalizing m with
  | nil => rfl
  | cons e es ih =>
    rw [List.cons_append, collect, collect, ih, List.append_assoc]
    rfl

theorem collect_snoc {α : Type} (config : Config) (f : Manager → ManagerEvent → List α)
    (es : List ManagerEvent) (e : ManagerEvent) :
    (start config).collect config f (es ++ [e]) =
      (start config).collect config f es ++ f (after config es) e := by
  rw [collect_append, collect, collect, List.append_nil]
  rfl

/-- What the link gets of an event: its own events, and the calls of those who hand them over. -/
def toLink (m : Manager) : ManagerEvent → List LinkEvent
  | .asked _ _ => []
  | .resumed ticket =>
    match m.caller? ticket with
    | some ⟨call, .sending⟩ => [.queued call]
    | _ => []
  | .link e => [e]

/-- The events that the link goes through in a run. -/
def traffic (config : Config) (es : List ManagerEvent) : List LinkEvent :=
  (start config).collect config toLink es

theorem traffic_snoc (config : Config) (es : List ManagerEvent) (e : ManagerEvent) :
    traffic config (es ++ [e]) = traffic config es ++ (after config es).toLink e :=
  collect_snoc config toLink es e

theorem toLink_sending {c : Caller} (hcaller : m.caller? ticket = some c) (hstage : c.stage = .sending) :
    m.toLink (.resumed ticket) = [.queued c.call] := by
  obtain ⟨call, stage⟩ := c
  obtain rfl : stage = .sending := hstage
  simp only [toLink, hcaller]

theorem toLink_of_ne_sending (h : ∀ c, m.caller? ticket = some c → c.stage ≠ .sending) :
    m.toLink (.resumed ticket) = [] := by
  unfold toLink
  dsimp only
  split
  · next hcaller => exact absurd rfl (h _ hcaller)
  · rfl

theorem linkStep_link (m : Manager) (e : LinkEvent) :
    (m.linkStep config e).1.link = (m.link.step config e).1 :=
  absorb_link _ _

theorem linkStep_tickets (m : Manager) (e : LinkEvent) : (m.linkStep config e).1.tickets = m.tickets :=
  absorb_tickets _ _

theorem linkStep_effects (m : Manager) (e : LinkEvent) :
    (m.linkStep config e).2 = (m.link.step config e).2.map LinkEffect.handed :=
  absorb_effects _ _

theorem caller?_linkStep (m : Manager) (e : LinkEvent) (ticket : Nat) :
    (m.linkStep config e).1.caller? ticket =
      if ticket ∈ answered (m.link.step config e).2 then none else m.caller? ticket :=
  caller?_absorb _ _ _

variable {e : ManagerEvent} {r : Manager × List ManagerEffect}

/-- The link goes through what it gets. -/
theorem Move.link_eq (h : Move config m e r) :
    r.1.link = (m.link.run config (m.toLink e)).1 ∧
      requests r.2 = wire (m.link.run config (m.toLink e)).2 := by
  have hlook {ticket left : Nat} {c : Caller} (hcaller : m.caller? ticket = some c)
      (hstage : c.stage = .looking left) : m.toLink (.resumed ticket) = [] :=
    toLink_of_ne_sending fun c' hc' hsending => by simp_all
  cases h with
  | asked => exact ⟨rfl, rfl⟩
  | idle ticket hstage =>
    rw [toLink_of_ne_sending fun c hc hsending => by simp [hstage c hc] at hsending]
    exact ⟨rfl, rfl⟩
  | sawOpen ticket left c hcaller hstage | sawClosed ticket left c hcaller hstage
  | gaveUp ticket c hcaller hstage | lookedOn ticket left c hcaller hstage =>
    rw [hlook hcaller hstage]
    exact ⟨rfl, rfl⟩
  | handedOver ticket c hcaller hstage =>
    rw [toLink_sending hcaller hstage, Link.run_singleton, linkStep_link, linkStep_effects, requests_handed]
    exact ⟨rfl, rfl⟩
  | link e =>
    rw [toLink, Link.run_singleton, linkStep_link, linkStep_effects, requests_handed]
    exact ⟨rfl, rfl⟩

/-- The link in a session is a link after a run of its own, and what it sends is what that run sends. -/
theorem link_after (config : Config) (es : List ManagerEvent) :
    (after config es).link = Link.after config (traffic config es) ∧
      requests (effects config es) = wire (Link.effects config (traffic config es)) := by
  induction es using List.reverseRecOn with
  | nil => exact ⟨rfl, rfl⟩
  | append_singleton es e ih =>
    obtain ⟨hlink, hrequests⟩ := (step_move config (after config es) e).link_eq
    rw [after_snoc, effects_snoc, traffic_snoc, Link.after_append, Link.effects_append, requests_append,
      wire_append, ← ih.1, ← ih.2, hlink, hrequests]
    exact ⟨rfl, rfl⟩

end Manager
end HubConsole.Session
