import HubConsole.Proofs.Session.Posts
import HubConsole.Proofs.Session.Replies

namespace HubConsole.Session

open HubConsole.Json HubConsole.Rpc

namespace Link

/-- After the events a call waits: its request is on the wire with this id, and no text that has come since
answers the id. -/
def Awaits (config : Config) (es : List LinkEvent) (c : Call) (id : Nat) : Prop :=
  ∃ since, OnWire config es c id since ∧
    ∀ text reply, .received text ∈ since → answer? config text ≠ some (id, reply)

variable {config : Config} {l : Link}

theorem awaits_snoc (es : List LinkEvent) (e : LinkEvent) (c : Call) (id : Nat) :
    Awaits config (es ++ [e]) c id ↔
      (e = .taken true ∧ Sends config (after config es) c id) ∨
        (Awaits config es c id ∧ (after config (es ++ [e])).state = .open ∧
          ∀ text reply, e = .received text → answer? config text ≠ some (id, reply)) := by
  constructor
  · intro h
    obtain ⟨since, hwire, hnone⟩ := h
    rcases List.eq_nil_or_concat since with rfl | ⟨since, last, rfl⟩
    · exact .inl ((onWire_snoc_nil es e).mp hwire)
    · rw [List.concat_eq_append] at hwire hnone
      obtain rfl : e = last := by
        obtain ⟨before, hsplit, -⟩ := hwire
        rw [← List.cons_append, ← List.append_assoc] at hsplit
        exact (List.append_singleton_inj.mp hsplit).2
      obtain ⟨hbefore, hstate⟩ := (onWire_snoc es e since).mp hwire
      refine .inr ⟨⟨since, hbefore, ?_⟩, hstate, ?_⟩
      · intro text reply hmem
        exact hnone text reply (List.mem_append_left _ hmem)
      · intro text reply he
        subst he
        exact hnone text reply List.mem_concat_self
  · intro h
    rcases h with hsends | ⟨⟨since, hwire, hnone⟩, hstate, hlast⟩
    · refine ⟨[], (onWire_snoc_nil es e).mpr hsends, ?_⟩
      intro text reply hmem
      cases hmem
    · refine ⟨since ++ [e], (onWire_snoc es e since).mpr ⟨hwire, hstate⟩, ?_⟩
      intro text reply hmem
      rcases List.mem_append.mp hmem with hmem | hmem
      · exact hnone text reply hmem
      · exact hlast text reply (List.mem_singleton.mp hmem).symm

/-- The calls in flight are the ones that wait. -/
theorem mem_pending_iff (config : Config) (es : List LinkEvent) (id ticket : Nat) :
    (id, .call ticket) ∈ (after config es).pending ↔
      ∃ c, c.ticket = ticket ∧ Awaits config es c id := by
  -- Both sides gain a call when it is sent, and lose it when it is answered or its connection ends.
  induction es using List.reverseRecOn with
  | nil =>
    constructor
    · intro hmem
      cases hmem
    · intro h
      obtain ⟨c, -, since, ⟨before, hsplit, -⟩, -⟩ := h
      simp at hsplit
  | append_singleton es e ih =>
    have hmove := step_move config (after config es) e
    have hordered := ordered_after config es
    constructor
    · intro hmem
      have hopen := state_of_mem_pending _ hmem
      rw [after_snoc] at hmem hopen
      rcases hmove.call_sent id ticket hmem with hold | ⟨he, c, hticket, hsends⟩
      · obtain ⟨c, hticket, hawaits⟩ := ih.mp hold
        refine ⟨c, hticket, (awaits_snoc es e c id).mpr (.inr ⟨hawaits, ?_, ?_⟩)⟩
        · rw [after_snoc]
          exact hopen
        · cases hmove.fate hordered id ticket hold with
          | kept _ _ hother => exact hother
          | answered _ _ _ _ _ hgone => exact absurd hmem hgone
          | failed hclosed => exact absurd hopen hclosed
      · exact ⟨c, hticket, (awaits_snoc es e c id).mpr (.inl ⟨he, hsends⟩)⟩
    · intro h
      obtain ⟨c, rfl, hawaits⟩ := h
      rcases (awaits_snoc es e c id).mp hawaits with ⟨rfl, hsends⟩ | ⟨hbefore, hstate, hnone⟩
      · rw [after_snoc, hsends.step_eq]
        simp [Link.pending]
      · have hold := ih.mpr ⟨c, rfl, hbefore⟩
        rw [after_snoc] at hstate ⊢
        cases hmove.fate hordered id c.ticket hold with
        | kept _ hmem => exact hmem
        | answered _ text reply he hanswer => exact absurd hanswer (hnone text reply he)
        | failed hclosed => exact absurd hstate hclosed

/-- A text that answers a call in flight gives the call its reply. -/
theorem step_of_answer (hl : Ordered l) (text : String) (n ticket : Nat) (reply : Reply)
    (hanswer : answer? config text = some (n, reply)) (hmem : (n, .call ticket) ∈ l.pending) :
    (l.step config (.received text)).2 = [.replied ticket reply] := by
  cases (step_move config l (.received text)).fate hl n ticket hmem with
  | kept _ _ hother => exact absurd hanswer (hother text reply rfl)
  | answered _ text' reply' htext hanswer' _ heffects =>
    obtain rfl := LinkEvent.received.inj htext
    obtain ⟨-, rfl⟩ := Prod.mk.inj (Option.some.inj (hanswer.symm.trans hanswer'))
    exact heffects
  | failed _ hevent => simp at hevent

/-- A call gets the hub's outcome when a response to its request comes while it waits, and never else. -/
theorem outcome_iff (config : Config) (es : List LinkEvent) (e : LinkEvent) (ticket : Nat)
    (outcome : Outcome) :
    .replied ticket (.ok outcome) ∈ ((after config es).step config e).2 ↔
      ∃ text id n c, e = .received text ∧
        Frame.decode text config.maxFrameBytes = .ok (.response id outcome) ∧ id.toNat? = some n ∧
        c.ticket = ticket ∧ Awaits config es c n := by
  constructor
  · intro hmem
    cases (step_move config _ e).cause ticket _ hmem with
    | answer text n _ hanswer hpending =>
      obtain ⟨id, hdecode, hid⟩ := (answer?_eq_some_ok_iff config text n outcome).mp hanswer
      obtain ⟨c, hticket, hawaits⟩ := (mem_pending_iff config es n ticket).mp hpending
      exact ⟨text, id, n, c, rfl, hdecode, hid, hticket, hawaits⟩
  · intro h
    obtain ⟨text, id, n, c, rfl, hdecode, hid, rfl, hawaits⟩ := h
    have hanswer := (answer?_eq_some_ok_iff config text n outcome).mpr ⟨id, hdecode, hid⟩
    have hpending := (mem_pending_iff config es n c.ticket).mpr ⟨c, rfl, hawaits⟩
    rw [step_of_answer (ordered_after config es) text n c.ticket _ hanswer hpending]
    exact List.mem_singleton_self _

/-- What makes an id stray: it is the subscription's, it was never sent, it has been answered since it was
sent, or the connection that it was sent on has ended. -/
inductive Stray (config : Config) (es : List LinkEvent) (id : Nat) : Prop
  | subscription (h : ⟨id, none⟩ ∈ posts config es)
  | unknown (h : ∀ post ∈ posts config es, post.id ≠ id)
  | repeated (before since : List LinkEvent) (text : String) (reply : Reply)
      (hsplit : es = before ++ .received text :: since)
      (hsent : ∃ post ∈ posts config before, post.id = id)
      (hanswer : answer? config text = some (id, reply))
  | earlier (before since : List LinkEvent) (e : LinkEvent) (hsplit : es = before ++ e :: since)
      (hsent : ∃ post ∈ posts config before, post.id = id)
      (hended : (after config (before ++ [e])).state ≠ .open)

/-- A request that was sent under the id of a waiting call, at any time before an event, is that call's own:
the event has come since it was sent. -/
private theorem since_of_sent (before since before' since' : List LinkEvent) (e : LinkEvent)
    (c : Call) (id : Nat) (hsends : Sends config (after config before) c id)
    (hsplit : before ++ .taken true :: since = before' ++ e :: since')
    (hsent : ∃ post ∈ posts config before', post.id = id) :
    ∃ part, before' = before ++ .taken true :: part ∧ since = part ++ e :: since' := by
  obtain ⟨post, hmem, hid⟩ := hsent
  -- The id of the call is greater than all that were given out before it was sent.
  have hlate : ∀ rest, before ≠ before' ++ rest := by
    intro rest hbefore
    subst hbefore
    have hgiven := (posts_increasing config before').2 post hmem
    have hmono := lastId_mono config before' rest
    have hnext := hsends.id_eq
    omega
  rcases List.append_eq_append_iff.mp hsplit with ⟨part, hbefore, hrest⟩ | ⟨rest, hbefore, -⟩
  · cases part with
    | nil => exact absurd (by rw [hbefore]; simp) (hlate [])
    | cons first part =>
      obtain ⟨rfl, rfl⟩ := List.cons.inj hrest
      exact ⟨part, hbefore, rfl⟩
  · exact absurd hbefore (hlate rest)

/-- No call waits under a stray id. -/
theorem Stray.not_awaits {es : List LinkEvent} {id : Nat} (h : Stray config es id) (c : Call) :
    ¬Awaits config es c id := by
  intro hawaits
  obtain ⟨since, ⟨before, hsplit, hsends, hopen⟩, hnone⟩ := hawaits
  have hpost : ⟨id, some c⟩ ∈ posts config es := by
    have hmem : ⟨id, some c⟩ ∈ posts config (before ++ [.taken true]) := by
      rw [posts_snoc, hsends.outgoing_eq]
      exact List.mem_concat_self
    have hlater := mem_posts_append config _ since _ hmem
    rwa [List.append_assoc, List.singleton_append, ← hsplit] at hlater
  cases h with
  | subscription hmem =>
    have hsame := posts_unique config es _ _ hmem hpost rfl
    cases hsame
  | unknown hunknown => exact hunknown _ hpost rfl
  | repeated before' since' text reply hsplit' hsent hanswer =>
    obtain ⟨part, -, rfl⟩ := since_of_sent before since before' since' _ c id hsends
      (hsplit.symm.trans hsplit') hsent
    exact hnone text reply (List.mem_append_right _ List.mem_cons_self) hanswer
  | earlier before' since' e hsplit' hsent hended =>
    obtain ⟨part, rfl, rfl⟩ := since_of_sent before since before' since' e c id hsends
      (hsplit.symm.trans hsplit') hsent
    refine hended ?_
    have hprefix : part ++ [e] <+: part ++ e :: since' := ⟨since', by simp⟩
    have hstate := hopen _ hprefix
    simpa using hstate

/-- A text that answers no id, or a stray one, is no answer to any call. -/
theorem answered_of_stray (config : Config) (es : List LinkEvent) (text : String)
    (hstray : ∀ id reply, answer? config text = some (id, reply) → Stray config es id) :
    answered ((after config es).step config (.received text)).2 = [] := by
  refine List.eq_nil_iff_forall_not_mem.mpr ?_
  intro ticket hmem
  obtain ⟨reply, hreply⟩ := (mem_answered_iff _ ticket).mp hmem
  cases (step_move config _ (.received text)).cause ticket reply hreply with
  | answer _ n _ hanswer hpending =>
    obtain ⟨c, -, hawaits⟩ := (mem_pending_iff config es n ticket).mp hpending
    exact (hstray n reply hanswer).not_awaits c hawaits
  | lost _ he => simp at he
  | ended _ he => simp at he

/-- Requests and answers over any number of connections. The ids on the wire grow from each request to the
next; calls are sent in the order in which they were accepted, none twice; a call gets an outcome from the
hub just when a response to its id comes, on the connection that it was sent on, the first text to answer
that id since; and no other text ends a call. -/
theorem answers_match_requests (config : Config) (es : List LinkEvent) :
    (posts config es).map Post.request = wire (effects config es) ∧
    ((posts config es).map Post.id).Pairwise (· < ·) ∧
    ((posts config es).filterMap Post.call?).Sublist (accepted config es) ∧
    (∀ e ticket outcome, .replied ticket (.ok outcome) ∈ ((after config es).step config e).2 ↔
      ∃ text id n c, e = .received text ∧
        Frame.decode text config.maxFrameBytes = .ok (.response id outcome) ∧ id.toNat? = some n ∧
        c.ticket = ticket ∧ Awaits config es c n) ∧
    (∀ text, (∀ id reply, answer? config text = some (id, reply) → Stray config es id) →
      answered ((after config es).step config (.received text)).2 = []) := by
  refine ⟨posts_request config es, ?_, ?_, outcome_iff config es, answered_of_stray config es⟩
  · exact List.pairwise_map.mpr (posts_increasing config es).1
  · exact (List.sublist_append_left _ _).trans (posts_queue config es)

/-- Two calls are answered the other way round; a push and a second answer to one of them answer none. -/
example :
    let config := Config.new "ws://h" ""
    let result (id : String) := LinkEvent.received ("\x7b\"id\":" ++ id ++ ",\"result\":null\x7d")
    let es := [.registered .network 3, .attempted, .connected true, .queued ⟨7, "log_getTargets", .array []⟩,
      .queued ⟨8, "dashboard_getNetwork", .array []⟩, .taken true, .taken true, result "3",
      .received "\x7b\"method\":\"dashboard_updated\",\"params\":[\x7b\x7d]\x7d", result "3", result "2"]
    (after config es).state = .open ∧ (posts config es).map Post.id = [1, 2, 3] ∧
      answered (effects config es) = [8, 7] := by
  decide +kernel

end Link

end HubConsole.Session
