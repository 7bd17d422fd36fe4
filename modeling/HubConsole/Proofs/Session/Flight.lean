import HubConsole.Proofs.Session.Run

namespace HubConsole.Session

open HubConsole.Json HubConsole.Rpc

namespace Link

/-- The call is the next to be taken, and taking it sends its request with this id. -/
def Sends (config : Config) (l : Link) (c : Call) (id : Nat) : Prop :=
  l.queue.head? = some c ∧
    .sent (Request.call id c.method c.params) ∈ (l.step config (.taken true)).2

/-- After the events the request of a call is on the wire: it was sent with this id on a connection that
is still open, and `since` is all that has happened since. -/
def OnWire (config : Config) (es : List LinkEvent) (c : Call) (id : Nat)
    (since : List LinkEvent) : Prop :=
  ∃ before, es = before ++ .taken true :: since ∧ Sends config (after config before) c id ∧
    ∀ part, part <+: since → (after config (before ++ .taken true :: part)).state = .open

variable {config : Config} {l : Link} {c : Call} {id : Nat}

/-- What taking a call does when its request can be sent. -/
theorem step_taken (pending : Pending) (queue : List Call) (text : String)
    (hphase : l.phase = .open pending) (hqueue : l.queue = c :: queue)
    (hencode : (Request.call (l.lastId + 1) c.method c.params).encode config.maxFrameBytes =
      .ok text) :
    l.step config (.taken true) =
      ({ l with
          queue := queue, lastId := l.lastId + 1
          phase := .open (pending ++ [(l.lastId + 1, .call c.ticket)]) },
        [.sent (Request.call (l.lastId + 1) c.method c.params)]) := by
  have hmove := step_move config l (.taken true)
  generalize l.step config (.taken true) = r at hmove ⊢
  cases hmove with
  | ignored _ hfits =>
    exact absurd ⟨state_of_phase_open pending hphase, by simp [hqueue]⟩ hfits
  | tooLong pending' c' queue' _ fault hphase' hqueue' hencode' =>
    obtain ⟨rfl, -⟩ := List.cons.inj (hqueue.symm.trans hqueue')
    rw [hencode] at hencode'
    cases hencode'
  | posted pending' c' queue' text' hphase' hqueue' hencode' =>
    obtain ⟨rfl, rfl⟩ := List.cons.inj (hqueue.symm.trans hqueue')
    obtain rfl : pending = pending' := Phase.open.inj (hphase.symm.trans hphase')
    rfl

/-- Only an open link sends a call, and it gives the request the next id. -/
theorem sends_iff : Sends config l c id ↔
    id = l.lastId + 1 ∧ ∃ pending queue text, l.phase = .open pending ∧ l.queue = c :: queue ∧
      (Request.call (l.lastId + 1) c.method c.params).encode config.maxFrameBytes = .ok text := by
  constructor
  · intro h
    obtain ⟨hhead, hsent⟩ := h
    have hmove := step_move config l (.taken true)
    generalize l.step config (.taken true) = r at hmove hsent
    cases hmove with
    | ignored => cases hsent
    | tooLong => simp at hsent
    | posted pending c' queue text hphase hqueue hencode =>
      obtain rfl : c' = c := by simpa [hqueue] using hhead
      have hid : id = l.lastId + 1 := by simpa [Request.call] using hsent
      exact ⟨hid, pending, queue, text, hphase, hqueue, hencode⟩
  · intro h
    obtain ⟨rfl, pending, queue, text, hphase, hqueue, hencode⟩ := h
    refine ⟨by simp [hqueue], ?_⟩
    rw [step_taken pending queue text hphase hqueue hencode]
    exact List.mem_singleton_self _

theorem Sends.id_eq (h : Sends config l c id) : id = l.lastId + 1 := (sends_iff.mp h).1

theorem Sends.step_eq (h : Sends config l c id) :
    l.step config (.taken true) =
      ({ l with
          queue := l.queue.tail, lastId := id
          phase := .open (l.pending ++ [(id, .call c.ticket)]) },
        [.sent (Request.call id c.method c.params)]) := by
  obtain ⟨rfl, pending, queue, text, hphase, hqueue, hencode⟩ := sends_iff.mp h
  rw [step_taken pending queue text hphase hqueue hencode, pending_of_phase_open pending hphase,
    hqueue]
  rfl

theorem onWire_snoc_nil (es : List LinkEvent) (e : LinkEvent) :
    OnWire config (es ++ [e]) c id [] ↔ e = .taken true ∧ Sends config (after config es) c id := by
  constructor
  · intro h
    obtain ⟨before, hsplit, hsends, -⟩ := h
    obtain ⟨rfl, rfl⟩ := List.append_singleton_inj.mp hsplit
    exact ⟨rfl, hsends⟩
  · intro h
    obtain ⟨rfl, hsends⟩ := h
    refine ⟨es, rfl, hsends, ?_⟩
    intro part hpart
    rw [List.prefix_nil.mp hpart, after_snoc, hsends.step_eq]
    rfl

theorem onWire_snoc (es : List LinkEvent) (e : LinkEvent) (since : List LinkEvent) :
    OnWire config (es ++ [e]) c id (since ++ [e]) ↔
      OnWire config es c id since ∧ (after config (es ++ [e])).state = .open := by
  constructor
  · intro h
    obtain ⟨before, hsplit, hsends, hopen⟩ := h
    rw [← List.cons_append, ← List.append_assoc] at hsplit
    obtain ⟨rfl, -⟩ := List.append_singleton_inj.mp hsplit
    refine ⟨⟨before, rfl, hsends, ?_⟩, ?_⟩
    · intro part hpart
      exact hopen part (hpart.trans (List.prefix_append since [e]))
    · rw [List.append_assoc]
      exact hopen (since ++ [e]) (List.prefix_refl _)
  · intro h
    obtain ⟨⟨before, rfl, hsends, hopen⟩, hlast⟩ := h
    refine ⟨before, by simp, hsends, ?_⟩
    intro part hpart
    rcases List.prefix_concat_iff.mp hpart with rfl | hpart
    · simpa using hlast
    · exact hopen part hpart

/-- The ids in flight grow, and all of them were given out. -/
structure Ordered (l : Link) : Prop where
  increasing : l.pending.Pairwise fun p q => p.1 < q.1
  given : ∀ p ∈ l.pending, p.1 ≤ l.lastId

theorem ordered_of_pending_nil (h : l.pending = []) : Ordered l where
  increasing := by rw [h]; exact .nil
  given := by rw [h]; exact fun p hmem => absurd hmem List.not_mem_nil

/-- Answers and new calls keep the order. -/
theorem Ordered.of_sublist {l' : Link} (h : Ordered l) (hpending : l'.pending.Sublist l.pending)
    (hid : l.lastId ≤ l'.lastId) : Ordered l' where
  increasing := h.increasing.sublist hpending
  given := fun p hmem => Nat.le_trans (h.given p (hpending.subset hmem)) hid

theorem Ordered.snoc (h : Ordered l) (l' : Link) (entry : Entry)
    (hpending : l'.pending = l.pending ++ [(l.lastId + 1, entry)])
    (hid : l'.lastId = l.lastId + 1) : Ordered l' := by
  constructor
  · rw [hpending]
    refine List.pairwise_append.mpr ⟨h.increasing, List.pairwise_singleton _ _, ?_⟩
    intro p hp q hq
    rw [List.mem_singleton.mp hq]
    exact Nat.lt_succ_of_le (h.given p hp)
  · intro p hmem
    rw [hpending, List.mem_append, List.mem_singleton] at hmem
    rw [hid]
    rcases hmem with hmem | rfl
    · exact Nat.le_succ_of_le (h.given p hmem)
    · exact Nat.le_refl _

theorem Move.ordered {e : LinkEvent} {r : Link × List LinkEffect} (h : Move config l e r)
    (hl : Ordered l) : Ordered r.1 := by
  cases h with
  | ignored | accepted | turnedAway | unmatched | pushed | registered =>
    exact hl.of_sublist (List.Sublist.refl _) (Nat.le_refl _)
  | tooLong => exact hl.of_sublist (List.Sublist.refl _) (Nat.le_succ _)
  | attempted | unsubscribed | failed | exhausted | broken | lost | shutOpen | shutIdle =>
    exact ordered_of_pending_nil rfl
  | subscribed hphase =>
    refine hl.snoc _ .subscription ?_ rfl
    simp [Link.pending, hphase]
  | posted pending c queue text hphase =>
    refine hl.snoc _ (.call c.ticket) ?_ rfl
    simp [Link.pending, hphase]
  | resolved pending text n ticket reply hphase =>
    refine hl.of_sublist ?_ (Nat.le_refl _)
    rw [pending_of_phase_open pending hphase]
    exact List.eraseP_sublist
  | confirmed pending text n reply hphase =>
    refine hl.of_sublist ?_ (Nat.le_refl _)
    rw [pending_of_phase_open pending hphase]
    exact List.eraseP_sublist

theorem ordered_after (config : Config) (es : List LinkEvent) : Ordered (after config es) := by
  refine after_induction config Ordered (ordered_of_pending_nil rfl) ?_ es
  intro l e r ih hmove
  exact hmove.ordered ih

/-- What an event can mean for a call in flight: it stays, its answer came, or its connection ended. -/
inductive Fate (config : Config) (id ticket : Nat) (e : LinkEvent) (r : Link × List LinkEffect) :
    Prop
  | kept (hstate : r.1.state = .open) (hmem : (id, .call ticket) ∈ r.1.pending)
      (hother : ∀ text reply, e = .received text → answer? config text ≠ some (id, reply))
  | answered (hstate : r.1.state = .open) (text : String) (reply : Reply)
      (hevent : e = .received text) (hanswer : answer? config text = some (id, reply))
      (hgone : (id, .call ticket) ∉ r.1.pending) (heffects : r.2 = [.replied ticket reply])
  | failed (hstate : r.1.state ≠ .open) (hevent : e.text? = none)
      (hreply : .replied ticket (.error .connectionClosed) ∈ r.2)

/-- An answer to another call is none to this one. -/
private theorem fate_of_erase (pending : Pending) (id ticket n : Nat) (text : String)
    (reply : Reply) (entry : Entry) (hinc : pending.Pairwise fun p q => p.1 < q.1)
    (hentry : pending.entry? n = some entry) (hanswer : answer? config text = some (n, reply))
    (hmem : (id, .call ticket) ∈ pending) (r : Link × List LinkEffect)
    (hphase : r.1.phase = .open (pending.erase n))
    (hreply : entry = .call ticket → r.2 = [.replied ticket reply]) :
    Fate config id ticket (.received text) r := by
  have hkept := Pending.mem_erase_iff pending n entry hinc hentry
  have hpending := pending_of_phase_open _ hphase
  by_cases hid : n = id
  · subst hid
    refine .answered (state_of_phase_open _ hphase) text reply rfl hanswer ?_ (hreply ?_)
    · rw [hpending, hkept]
      simp
    · exact Pending.entry?_unique pending n entry (.call ticket) hinc hentry hmem
  · refine .kept (state_of_phase_open _ hphase) ?_ ?_
    · rw [hpending, hkept]
      exact ⟨hmem, fun h => hid h.symm⟩
    · intro text' reply' htext hanswer'
      obtain rfl := LinkEvent.received.inj htext
      rw [hanswer] at hanswer'
      exact hid (by simpa using congrArg (Option.map Prod.fst) hanswer')

theorem Move.fate {e : LinkEvent} {r : Link × List LinkEffect} (h : Move config l e r)
    (hl : Ordered l) (id ticket : Nat) (hmem : (id, .call ticket) ∈ l.pending) :
    Fate config id ticket e r := by
  have hopen := state_of_mem_pending _ hmem
  have hphase := phase_of_state_open hopen
  have hfailed : .replied ticket (.error .connectionClosed) ∈
      l.pending.failAll .connectionClosed :=
    (Pending.mem_failAll_iff _ _ _).mpr ⟨id, ticket, hmem, rfl⟩
  cases h with
  | ignored _ hfits =>
    refine .kept hopen hmem ?_
    intro text reply he
    subst he
    exact absurd hopen hfits
  | accepted | tooLong | registered => exact .kept hopen hmem (fun _ _ h => by cases h)
  -- A link with a call in flight is open.
  | turnedAway c hstate => simp [hopen] at hstate
  | attempted ms hphase' => simp [hphase] at hphase'
  | subscribed hphase' => simp [hphase] at hphase'
  | unsubscribed sent hphase' => simp [hphase] at hphase'
  | failed hphase' => simp [hphase] at hphase'
  | exhausted hphase' => simp [hphase] at hphase'
  | shutIdle hstate => simp [hopen] at hstate
  | posted pending c queue text hphase' =>
    obtain rfl := pending_of_phase_open pending hphase'
    exact .kept rfl (List.mem_append_left _ hmem) (fun _ _ h => by cases h)
  | broken pending c queue text hphase' =>
    obtain rfl := pending_of_phase_open pending hphase'
    exact .failed (by simp [state]) rfl (by simp [hfailed])
  | resolved pending text n t reply hphase' hanswer hentry =>
    obtain rfl := pending_of_phase_open pending hphase'
    refine fate_of_erase _ id ticket n text reply _ hl.increasing hentry hanswer hmem _ rfl ?_
    intro hcall
    rw [Entry.call.inj hcall]
  | confirmed pending text n reply hphase' hanswer hentry =>
    obtain rfl := pending_of_phase_open pending hphase'
    refine fate_of_erase _ id ticket n text reply _ hl.increasing hentry hanswer hmem _ rfl ?_
    intro hcall
    cases hcall
  | unmatched pending text n reply hphase' hanswer hentry =>
    obtain rfl := pending_of_phase_open pending hphase'
    refine .kept hopen hmem ?_
    intro text' reply' htext hanswer'
    obtain rfl := LinkEvent.received.inj htext
    rw [hanswer] at hanswer'
    obtain ⟨rfl, -⟩ := Prod.mk.inj (Option.some.inj hanswer')
    exact Pending.entry?_eq_none _ n hentry _ hmem rfl
  | pushed pending text hphase' hanswer =>
    refine .kept hopen hmem ?_
    intro text' reply' htext hanswer'
    obtain rfl := LinkEvent.received.inj htext
    rw [hanswer] at hanswer'
    cases hanswer'
  | lost pending hphase' =>
    obtain rfl := pending_of_phase_open pending hphase'
    exact .failed (by simp [state]) rfl (by simp [hfailed])
  | shutOpen pending hphase' =>
    obtain rfl := pending_of_phase_open pending hphase'
    exact .failed (by simp [state]) rfl (by simp [hfailed])

/-- A call comes to be in flight when it is sent. -/
theorem Move.call_sent {e : LinkEvent} {r : Link × List LinkEffect} (h : Move config l e r)
    (id ticket : Nat) (hmem : (id, .call ticket) ∈ r.1.pending) :
    (id, .call ticket) ∈ l.pending ∨
      e = .taken true ∧ ∃ c, c.ticket = ticket ∧ Sends config l c id := by
  cases h with
  | ignored | accepted | turnedAway | tooLong | unmatched | pushed | registered => exact .inl hmem
  | attempted | unsubscribed | failed | exhausted | broken | lost | shutOpen | shutIdle =>
    cases hmem
  | subscribed => simp [Link.pending] at hmem
  | posted pending c queue text hphase hqueue hencode =>
    rw [pending_of_phase_open _ hphase]
    rcases List.mem_append.mp hmem with hmem | hmem
    · exact .inl hmem
    · obtain ⟨rfl, rfl⟩ : id = l.lastId + 1 ∧ ticket = c.ticket := by simpa using hmem
      exact .inr ⟨rfl, c, rfl, sends_iff.mpr ⟨rfl, pending, queue, text, hphase, hqueue, hencode⟩⟩
  | resolved pending text n t reply hphase =>
    rw [pending_of_phase_open _ hphase]
    exact .inl (List.mem_of_mem_eraseP hmem)
  | confirmed pending text n reply hphase =>
    rw [pending_of_phase_open _ hphase]
    exact .inl (List.mem_of_mem_eraseP hmem)

end Link

end HubConsole.Session
