import HubConsole.Proofs.Session.ManagerRun

namespace HubConsole.Session

open HubConsole.Json HubConsole.Rpc

open Polling

namespace Manager

variable {config : Config} {es : List ManagerEvent} {e : ManagerEvent} {ticket : Nat}

/-- The state that a caller sees when it looks. -/
def glance (ticket : Nat) (m : Manager) : ManagerEvent → List State
  | .resumed u =>
    match m.caller? u with
    | some ⟨_, .looking _⟩ => if u = ticket then [m.state] else []
    | _ => []
  | _ => []

/-- The states that a caller sees in a run, one look after another. -/
def seen (config : Config) (ticket : Nat) (es : List ManagerEvent) : List State :=
  (start config).collect config (glance ticket) es

theorem seen_snoc (config : Config) (ticket : Nat) (es : List ManagerEvent) (e : ManagerEvent) :
    seen config ticket (es ++ [e]) = seen config ticket es ++ glance ticket (after config es) e :=
  collect_snoc config (glance ticket) es e

/-- Where the call with a ticket stands after a run. -/
inductive Standing (config : Config) (es : List ManagerEvent) (ticket : Nat) : Prop
  /-- Nobody has asked for it. -/
  | unknown (hticket : ticket = 0 ∨ (after config es).tickets < ticket)
      (hcaller : (after config es).caller? ticket = none) (hoffered : ticket ∉ offered (traffic config es))
      (hseen : seen config ticket es = []) (hreturned : ∀ reply, .returned ticket reply ∉ effects config es)
  | looking (left : Nat) (c : Caller) (hticket : ticket ≤ (after config es).tickets)
      (hcaller : (after config es).caller? ticket = some c) (hstage : c.stage = .looking left)
      (hoffered : ticket ∉ offered (traffic config es))
      (hleft : (seen config ticket es).length + left = config.pollAttempts)
      (hseen : ∀ s ∈ seen config ticket es, s.settled = false)
      (hreturned : ∀ reply, .returned ticket reply ∉ effects config es)
  | sending (c : Caller) (hticket : ticket ≤ (after config es).tickets)
      (hcaller : (after config es).caller? ticket = some c) (hstage : c.stage = .sending)
      (hoffered : ticket ∉ offered (traffic config es))
      (hseen : Ends config.pollAttempts (seen config ticket es) (.ok ()))
      (hreturned : ∀ reply, .returned ticket reply ∉ effects config es)
  | handed (hticket : ticket ≤ (after config es).tickets)
      (hstage : ∀ c, (after config es).caller? ticket = some c → c.stage = .queued)
      (honce : (offered (traffic config es)).count ticket = 1)
      (hseen : Ends config.pollAttempts (seen config ticket es) (.ok ()))
      (hreturned : ∀ reply, .returned ticket reply ∈ effects config es →
        .replied ticket reply ∈ Link.effects config (traffic config es))
  /-- Its caller was told so after a look. -/
  | turnedBack (fault : CallError) (hticket : ticket ≤ (after config es).tickets)
      (hcaller : (after config es).caller? ticket = none) (hoffered : ticket ∉ offered (traffic config es))
      (hseen : Ends config.pollAttempts (seen config ticket es) (.error fault))
      (hreturned : ∀ reply, .returned ticket reply ∈ effects config es → reply = .error fault)

/-- Whether an event is about a call: somebody asks for it, or its caller goes on. -/
def Concerns (m : Manager) (ticket : Nat) : ManagerEvent → Prop
  | .asked _ _ => ticket = m.tickets + 1
  | .resumed u => u = ticket ∧ ∃ c, m.caller? u = some c ∧ c.stage ≠ .queued
  | .link e => e.ticket? = some ticket

/-- A step that is not about a call: at most the link answers the call, if it has it. -/
structure Quiet (config : Config) (m : Manager) (e : ManagerEvent) (ticket : Nat)
    (r : Manager × List ManagerEffect) : Prop where
  glance : m.glance ticket e = []
  tickets : r.1.tickets < ticket ↔ m.tickets < ticket
  unoffered : ticket ∉ offered (m.toLink e)
  caller : r.1.caller? ticket =
    if ticket ∈ answered (m.link.run config (m.toLink e)).2 then none else m.caller? ticket
  returned : ∀ reply, .returned ticket reply ∈ r.2 →
    .replied ticket reply ∈ (m.link.run config (m.toLink e)).2

section Steps

variable {m : Manager} {r : Manager × List ManagerEffect} {u : Nat}

theorem glance_of_ne (h : u ≠ ticket) : m.glance ticket (.resumed u) = [] := by
  unfold glance
  dsimp only
  split
  · exact if_neg h
  · rfl

theorem glance_of_not_looking (h : ∀ c left, m.caller? u = some c → c.stage ≠ .looking left) :
    m.glance ticket (.resumed u) = [] := by
  unfold glance
  dsimp only
  split
  · next hcaller => exact absurd rfl (h _ _ hcaller)
  · rfl

theorem glance_looking {left : Nat} {c : Caller} (hcaller : m.caller? ticket = some c)
    (hstage : c.stage = .looking left) : m.glance ticket (.resumed ticket) = [m.state] := by
  obtain ⟨call, stage⟩ := c
  obtain rfl : stage = .looking left := hstage
  simp only [glance, hcaller, if_true]

theorem caller?_setStage_of_ne (h : u ≠ ticket) (stage : Stage) :
    (m.setStage u stage).caller? ticket = m.caller? ticket := by
  rw [caller?_setStage]
  simp only [if_neg (Ne.symm h), Option.map_id']

/-- A step in which the link gets nothing and a caller goes on is not about those who see and get nothing. -/
theorem quiet_of_no_link (hglance : m.glance ticket (.resumed u) = []) (hlink : m.toLink (.resumed u) = [])
    (htickets : r.1.tickets = m.tickets) (hcaller : r.1.caller? ticket = m.caller? ticket)
    (hreturned : ∀ reply, .returned ticket reply ∉ r.2) : Quiet config m (.resumed u) ticket r where
  glance := hglance
  tickets := by rw [htickets]
  unoffered := by
    rw [hlink]
    exact List.not_mem_nil
  caller := by
    rw [hlink, hcaller]
    rfl
  returned reply h := absurd h (hreturned reply)

theorem toLink_looking {left : Nat} {c : Caller} (hcaller : m.caller? u = some c)
    (hstage : c.stage = .looking left) : m.toLink (.resumed u) = [] :=
  toLink_of_ne_sending fun c' hc' hsending => by simp_all

theorem Move.quiet (h : Move config m e r) (hother : ¬m.Concerns ticket e) :
    Quiet config m e ticket r := by
  cases h with
  | asked method params =>
    have hne : ticket ≠ m.tickets + 1 := hother
    refine ⟨rfl, ?_, List.not_mem_nil, ?_, fun _ hreply => absurd hreply List.not_mem_nil⟩
    · change m.tickets + 1 < ticket ↔ m.tickets < ticket
      omega
    · have hnew : (m.tickets + 1 == ticket) = false := beq_eq_false_iff_ne.mpr hne.symm
      simp [caller?, List.find?_append, hnew, toLink, Link.run]
  | idle u hstage =>
    refine quiet_of_no_link ?_ ?_ rfl rfl fun _ => List.not_mem_nil
    · exact glance_of_not_looking fun c left hc hlooking => by simp [hstage c hc] at hlooking
    · exact toLink_of_ne_sending fun c hc hsending => by simp [hstage c hc] at hsending
  | sawOpen u left c hcaller hstage | lookedOn u left c hcaller hstage =>
    have hne : u ≠ ticket := fun heq => hother ⟨heq, c, hcaller, by simp [hstage]⟩
    exact quiet_of_no_link (glance_of_ne hne) (toLink_looking hcaller hstage) rfl
      (caller?_setStage_of_ne hne _) fun _ => List.not_mem_nil
  | sawClosed u left c hcaller hstage | gaveUp u c hcaller hstage =>
    have hne : u ≠ ticket := fun heq => hother ⟨heq, c, hcaller, by simp [hstage]⟩
    refine quiet_of_no_link (glance_of_ne hne) (toLink_looking hcaller hstage) rfl ?_ fun reply => ?_
    · rw [caller?_dismiss, if_neg hne.symm]
    · simp [hne.symm]
  | handedOver u c hcaller hstage =>
    have hne : u ≠ ticket := fun heq => hother ⟨heq, c, hcaller, by simp [hstage]⟩
    have hlink := toLink_sending hcaller hstage
    refine ⟨glance_of_ne hne, by rw [linkStep_tickets]; rfl, ?_, ?_, fun reply hreply => ?_⟩
    · rw [hlink]
      simpa [offered, ticket_of_caller? hcaller] using hne.symm
    · rw [hlink, Link.run_singleton, caller?_linkStep, caller?_setStage_of_ne hne]
      rfl
    · rw [linkStep_effects, returned_mem_handed_iff] at hreply
      rw [hlink, Link.run_singleton]
      exact hreply
  | link e =>
    refine ⟨rfl, by rw [linkStep_tickets], ?_, ?_, fun reply hreply => ?_⟩
    · intro hmem
      obtain ⟨event, hevent, hticket⟩ := List.mem_filterMap.mp hmem
      obtain rfl := List.mem_singleton.mp hevent
      exact hother hticket
    · rw [toLink, Link.run_singleton, caller?_linkStep]
    · rw [linkStep_effects, returned_mem_handed_iff] at hreply
      rw [toLink, Link.run_singleton]
      exact hreply

end Steps

section

variable (hq : Quiet config (after config es) e ticket ((after config es).step config e))

include hq

theorem Quiet.seen_eq : seen config ticket (es ++ [e]) = seen config ticket es := by
  rw [seen_snoc, hq.glance, List.append_nil]

theorem Quiet.count_offered :
    (offered (traffic config (es ++ [e]))).count ticket = (offered (traffic config es)).count ticket := by
  rw [traffic_snoc, offered_append, List.count_append, List.count_eq_zero.mpr hq.unoffered, Nat.add_zero]

theorem Quiet.not_offered (h : ticket ∉ offered (traffic config es)) :
    ticket ∉ offered (traffic config (es ++ [e])) := by
  rw [← List.count_eq_zero] at h ⊢
  rw [hq.count_offered, h]

/-- What the link answers in a step it answers in its run. -/
theorem Quiet.returned_run (reply : Reply) (h : .returned ticket reply ∈ effects config (es ++ [e])) :
    .returned ticket reply ∈ effects config es ∨
      .replied ticket reply ∈ Link.effects config (traffic config (es ++ [e])) := by
  rw [effects_snoc, List.mem_append] at h
  refine h.imp_right fun hstep => ?_
  rw [traffic_snoc, Link.effects_append, ← (link_after config es).1]
  exact List.mem_append_right _ (hq.returned reply hstep)

/-- A call that the link does not have stays where it is. -/
theorem Quiet.stays (h : ticket ∉ offered (traffic config es)) :
    (after config (es ++ [e])).caller? ticket = (after config es).caller? ticket ∧
      ∀ reply, .returned ticket reply ∈ effects config (es ++ [e]) →
        .returned ticket reply ∈ effects config es := by
  have hunanswered : ticket ∉ answered (Link.effects config (traffic config (es ++ [e]))) :=
    Link.not_mem_answered_of_not_offered (hq.not_offered h)
  constructor
  · rw [traffic_snoc, Link.effects_append, ← (link_after config es).1, answered_append, List.mem_append,
      not_or] at hunanswered
    rw [after_snoc, hq.caller, if_neg hunanswered.2]
  · intro reply hreply
    refine (hq.returned_run reply hreply).resolve_right fun hreplied => hunanswered ?_
    exact (mem_answered_iff _ _).mpr ⟨reply, hreplied⟩

end

/-- A step that is not about a call leaves it where it stands. -/
theorem Standing.quiet (h : Standing config es ticket)
    (hq : Quiet config (after config es) e ticket ((after config es).step config e)) :
    Standing config (es ++ [e]) ticket := by
  have hseen' := hq.seen_eq
  have hknown : (after config (es ++ [e])).tickets < ticket ↔ (after config es).tickets < ticket := by
    rw [after_snoc]
    exact hq.tickets
  cases h with
  | unknown hticket hcaller hoffered hseen hreturned =>
    obtain ⟨hsame, hback⟩ := hq.stays hoffered
    exact .unknown (hticket.imp_right hknown.mpr) (hsame.trans hcaller) (hq.not_offered hoffered)
      (hseen'.trans hseen) fun reply hreply => hreturned reply (hback reply hreply)
  | looking left c hticket hcaller hstage hoffered hleft hseen hreturned =>
    obtain ⟨hsame, hback⟩ := hq.stays hoffered
    exact .looking left c (by omega) (hsame.trans hcaller) hstage (hq.not_offered hoffered)
      (by rw [hseen', hleft]) (by rwa [hseen']) fun reply hreply => hreturned reply (hback reply hreply)
  | sending c hticket hcaller hstage hoffered hseen hreturned =>
    obtain ⟨hsame, hback⟩ := hq.stays hoffered
    exact .sending c (by omega) (hsame.trans hcaller) hstage (hq.not_offered hoffered)
      (by rwa [hseen']) fun reply hreply => hreturned reply (hback reply hreply)
  | handed hticket hstage honce hseen hreturned =>
    refine .handed (by omega) (fun c hc => ?_) (hq.count_offered.trans honce) (by rwa [hseen'])
      fun reply hreply => ?_
    · rw [after_snoc, hq.caller] at hc
      split at hc
      · cases hc
      · exact hstage c hc
    · rcases hq.returned_run reply hreply with hbefore | hstep
      · rw [traffic_snoc, Link.effects_append]
        exact List.mem_append_left _ (hreturned reply hbefore)
      · exact hstep
  | turnedBack fault hticket hcaller hoffered hseen hreturned =>
    obtain ⟨hsame, hback⟩ := hq.stays hoffered
    exact .turnedBack fault (by omega) (hsame.trans hcaller) (hq.not_offered hoffered) (by rwa [hseen'])
      fun reply hreply => hreturned reply (hback reply hreply)

/-- What is known of a call whose caller looks for the connection. -/
theorem Standing.of_looking (h : Standing config es ticket) {left : Nat} {c : Caller}
    (hcaller : (after config es).caller? ticket = some c) (hstage : c.stage = .looking left) :
    ticket ≤ (after config es).tickets ∧ ticket ∉ offered (traffic config es) ∧
      (seen config ticket es).length + left = config.pollAttempts ∧
      (∀ s ∈ seen config ticket es, s.settled = false) ∧
      ∀ reply, .returned ticket reply ∉ effects config es := by
  cases h with
  | unknown _ hnone | turnedBack _ _ hnone => simp [hnone] at hcaller
  | sending c' _ hcaller' hstage' => simp_all
  | handed _ hstage' => simp [hstage' c hcaller] at hstage
  | looking left' c' hticket hcaller' hstage' hoffered hleft hseen hreturned =>
    obtain rfl := Option.some.inj (hcaller.symm.trans hcaller')
    obtain rfl := Stage.looking.inj (hstage.symm.trans hstage')
    exact ⟨hticket, hoffered, hleft, hseen, hreturned⟩

/-- What is known of a call whose caller is about to hand it over. -/
theorem Standing.of_sending (h : Standing config es ticket) {c : Caller}
    (hcaller : (after config es).caller? ticket = some c) (hstage : c.stage = .sending) :
    ticket ≤ (after config es).tickets ∧ ticket ∉ offered (traffic config es) ∧
      Ends config.pollAttempts (seen config ticket es) (.ok ()) ∧
      ∀ reply, .returned ticket reply ∉ effects config es := by
  cases h with
  | unknown _ hnone | turnedBack _ _ hnone => simp [hnone] at hcaller
  | looking left c' _ hcaller' hstage' => simp_all
  | handed _ hstage' => simp [hstage' c hcaller] at hstage
  | sending c' hticket hcaller' hstage' hoffered hseen hreturned =>
    exact ⟨hticket, hoffered, hseen, hreturned⟩

/-- A call for which somebody asks. -/
theorem Standing.asked (h : Standing config es ticket) (method : String) (params : Value)
    (hnew : ticket = (after config es).tickets + 1) :
    Standing config (es ++ [.asked method params]) ticket := by
  cases h with
  | unknown hticket hcaller hoffered hseen hreturned =>
    have htraffic : traffic config (es ++ [.asked method params]) = traffic config es := by
      rw [traffic_snoc, toLink, List.append_nil]
    have hseen' : seen config ticket (es ++ [.asked method params]) = [] := by
      rw [seen_snoc, hseen]
      rfl
    refine .looking config.pollAttempts ⟨⟨ticket, method, params⟩, .looking config.pollAttempts⟩
      ?_ ?_ rfl ?_ ?_ ?_ ?_
    · rw [after_snoc]
      exact hnew.le
    · subst hnew
      unfold caller? at hcaller
      rw [after_snoc]
      simp [step, caller?, List.find?_append, hcaller]
    · rwa [htraffic]
    · rw [hseen']
      exact Nat.zero_add _
    · rw [hseen']
      exact List.forall_mem_nil _
    · rw [effects_snoc]
      simpa [step] using hreturned
  | looking _ _ hticket | sending _ hticket | handed hticket | turnedBack _ hticket => omega

section Look

variable {left : Nat} {c : Caller} (hcaller : (after config es).caller? ticket = some c)
  (hstage : c.stage = .looking left)

include hcaller hstage

theorem traffic_look : traffic config (es ++ [.resumed ticket]) = traffic config es := by
  rw [traffic_snoc, toLink_looking hcaller hstage, List.append_nil]

theorem seen_look :
    seen config ticket (es ++ [.resumed ticket]) = seen config ticket es ++ [(after config es).state] := by
  rw [seen_snoc, glance_looking hcaller hstage]

/-- A call whose caller is turned back after a look. -/
theorem Standing.turned (h : Standing config es ticket) (fault : CallError) {told : List ManagerEffect}
    (hafter : after config (es ++ [.resumed ticket]) = (after config es).dismiss ticket)
    (heffects : effects config (es ++ [.resumed ticket]) = effects config es ++ told)
    (htold : ∀ reply, .returned ticket reply ∈ told → reply = .error fault)
    (hnext : ∀ poll, poll (seen config ticket es).length = (after config es).state →
      waitForOpen poll (seen config ticket es).length left = .error fault) :
    Standing config (es ++ [.resumed ticket]) ticket := by
  obtain ⟨hticket, hoffered, hleft, hseen, hreturned⟩ := h.of_looking hcaller hstage
  refine .turnedBack fault ?_ ?_ ?_ ?_ fun reply hreply => ?_
  · rwa [hafter]
  · rw [hafter, caller?_dismiss, if_pos rfl]
  · rwa [traffic_look hcaller hstage]
  · rw [seen_look hcaller hstage]
    exact ends_snoc _ hleft hseen hnext
  · rw [heffects, List.mem_append] at hreply
    exact htold reply (hreply.resolve_left (hreturned reply))

end Look

/-- A call whose caller goes on. -/
theorem Standing.resumed (h : Standing config es ticket) :
    Standing config (es ++ [.resumed ticket]) ticket := by
  have hmove := step_move config (after config es) (.resumed ticket)
  have hafter := after_snoc config es (.resumed ticket)
  have heffects := effects_snoc config es (.resumed ticket)
  by_cases hother : (after config es).Concerns ticket (.resumed ticket)
  swap
  · exact h.quiet (hmove.quiet hother)
  -- Of the step only what its move says of it is kept.
  generalize (after config es).step config (.resumed ticket) = r at hmove hafter heffects
  cases hmove with
  | idle _ hstage =>
    obtain ⟨-, c, hcaller, hne⟩ := hother
    exact absurd (hstage c hcaller) hne
  | sawOpen _ left c hcaller hstage hstate =>
    obtain ⟨hticket, hoffered, hleft, hseen, hreturned⟩ := h.of_looking hcaller hstage
    refine .sending { c with stage := .sending } ?_ ?_ rfl ?_ ?_ ?_
    · rwa [hafter]
    · rw [hafter, caller?_setStage, hcaller, Option.map_some, if_pos rfl]
    · rwa [traffic_look hcaller hstage]
    · rw [seen_look hcaller hstage, hstate]
      refine ends_snoc .open hleft hseen fun poll hpoll => ?_
      rw [waitForOpen_settled left (by rw [hpoll]; rfl), if_pos hpoll]
    · rwa [heffects, List.append_nil]
  | sawClosed _ left c hcaller hstage hstate =>
    refine h.turned hcaller hstage .closed hafter heffects (by simp) fun poll hpoll => ?_
    have hclosed : poll (seen config ticket es).length = .closed := hpoll.trans hstate
    rw [waitForOpen_settled left (by rw [hclosed]; rfl), if_neg (by rw [hclosed]; decide)]
  | gaveUp _ c hcaller hstage hstate =>
    refine h.turned hcaller hstage .timeout hafter heffects (by simp) fun poll hpoll => ?_
    exact waitForOpen_zero (by rwa [hpoll])
  | lookedOn _ left c hcaller hstage hstate =>
    obtain ⟨hticket, hoffered, hleft, hseen, hreturned⟩ := h.of_looking hcaller hstage
    refine .looking left { c with stage := .looking left } ?_ ?_ rfl ?_ ?_ ?_ ?_
    · rwa [hafter]
    · rw [hafter, caller?_setStage, hcaller, Option.map_some, if_pos rfl]
    · rwa [traffic_look hcaller hstage]
    · rw [seen_look hcaller hstage, List.length_append, List.length_singleton]
      omega
    · rw [seen_look hcaller hstage, List.forall_mem_append, List.forall_mem_singleton]
      exact ⟨hseen, hstate⟩
    · rwa [heffects, List.append_nil]
  | handedOver _ c hcaller hstage =>
    obtain ⟨hticket, hoffered, hseen, hreturned⟩ := h.of_sending hcaller hstage
    have hlink := toLink_sending hcaller hstage
    have hcall := ticket_of_caller? hcaller
    refine .handed ?_ (fun c' hc' => ?_) ?_ ?_ fun reply hreply => ?_
    · rw [hafter, linkStep_tickets]
      exact hticket
    · rw [hafter, caller?_linkStep] at hc'
      split at hc'
      · cases hc'
      · rw [caller?_setStage, hcaller, Option.map_some, if_pos rfl] at hc'
        exact (Option.some.inj hc') ▸ rfl
    · rw [traffic_snoc, hlink, offered_append, List.count_append, List.count_eq_zero.mpr hoffered]
      simp [offered, hcall]
    · rw [seen_snoc, glance_of_not_looking fun c' left hc' hlooking => by simp_all, List.append_nil]
      exact hseen
    · rw [heffects, List.mem_append] at hreply
      have hlast := hreply.resolve_left (hreturned reply)
      rw [linkStep_effects, returned_mem_handed_iff] at hlast
      rw [traffic_snoc, hlink, Link.effects_append, Link.run_singleton, ← (link_after config es).1]
      exact List.mem_append_right _ hlast

/-- Calls come to the link from callers only. -/
def FromCallers (es : List ManagerEvent) : Prop := ∀ c, .link (.queued c) ∉ es

/-- Every call stands somewhere after every run. -/
theorem standing (config : Config) (es : List ManagerEvent) (hes : FromCallers es) (ticket : Nat) :
    Standing config es ticket := by
  induction es using List.reverseRecOn with
  | nil =>
    exact .unknown (Nat.eq_zero_or_pos ticket) rfl List.not_mem_nil rfl fun _ => List.not_mem_nil
  | append_singleton es e ih =>
    have hbefore : Standing config es ticket := ih fun c hc => hes c (List.mem_append_left _ hc)
    -- A call moves on by the steps that are about it, and only the link may answer it in another step.
    by_cases hother : (after config es).Concerns ticket e
    swap
    · exact hbefore.quiet ((step_move config _ e).quiet hother)
    cases e with
    | asked method params => exact hbefore.asked method params hother
    | resumed u =>
      obtain ⟨rfl, -⟩ := hother
      exact hbefore.resumed
    | link e =>
      cases e with
      | queued c => exact absurd (List.mem_append_right _ List.mem_cons_self) (hes c)
      | _ => cases hother

end Manager
end HubConsole.Session
