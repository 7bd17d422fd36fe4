import HubConsole.Proofs.Session.Run

namespace HubConsole.Session

open HubConsole.Json HubConsole.Rpc

namespace Link

/-- The causes of a reply: a text that answers the call, a frame that cannot be sent, the loss of the
connection and the end of the link. -/
inductive Cause (config : Config) (l : Link) (ticket : Nat) : LinkEvent → Reply → Prop
  | answer (text : String) (n : Nat) (reply : Reply)
      (hanswer : answer? config text = some (n, reply)) (hmem : (n, .call ticket) ∈ l.pending) :
      Cause config l ticket (.received text) reply
  | unsendable (sent : Bool) (fault : FrameError) :
      Cause config l ticket (.taken sent) (.error (.frame fault))
  | lost (e : LinkEvent) (he : e.text? = none) :
      Cause config l ticket e (.error .connectionClosed)
  | ended (e : LinkEvent) (he : e.text? = none) :
      Cause config l ticket e (.error .closed)

variable {config : Config} {l : Link}

/-- All calls that are queued or in flight are failed when the connection ends. -/
private theorem cause_of_fail (e : LinkEvent) (he : e.text? = none) (ticket : Nat)
    (reply : Reply) (pending : Pending) (queue : List Call)
    (h : .replied ticket reply ∈ pending.failAll .connectionClosed ∨
      .replied ticket reply ∈ failQueue queue .connectionClosed) :
    Cause config l ticket e reply := by
  have hreply : reply = .error .connectionClosed := by
    rcases h with h | h
    · exact Pending.replied_mem_failAll _ _ _ _ h
    · exact replied_mem_failQueue _ _ _ _ h
  rw [hreply]
  exact .lost e he

theorem Move.cause {e : LinkEvent} {r : Link × List LinkEffect} (h : Move config l e r)
    (ticket : Nat) (reply : Reply) (hmem : .replied ticket reply ∈ r.2) : Cause config l ticket e reply := by
  cases h with
  | ignored | accepted | attempted | subscribed | unsubscribed | failed | posted | confirmed
  | unmatched | registered => simp at hmem
  | turnedAway =>
    obtain ⟨-, rfl⟩ := LinkEffect.replied.inj (List.mem_singleton.mp hmem)
    exact .ended _ rfl
  | exhausted =>
    have hqueue : .replied ticket reply ∈ failQueue l.queue .closed := by simpa using hmem
    rw [replied_mem_failQueue _ _ _ _ hqueue]
    exact .ended _ rfl
  | tooLong pending c queue sent fault =>
    obtain ⟨-, rfl⟩ := LinkEffect.replied.inj (List.mem_singleton.mp hmem)
    exact .unsendable sent fault
  | broken pending c queue text =>
    rcases List.mem_cons.mp hmem with hfirst | hrest
    · obtain ⟨-, rfl⟩ := LinkEffect.replied.inj hfirst
      exact .lost _ rfl
    · exact cause_of_fail _ rfl ticket reply pending queue (by simpa using hrest)
  | resolved pending text n t reply' hphase hanswer hentry =>
    obtain ⟨rfl, rfl⟩ := LinkEffect.replied.inj (List.mem_singleton.mp hmem)
    refine .answer text n reply hanswer ?_
    obtain ⟨before, after, hsplit, -⟩ := Pending.entry?_eq_some pending n _ hentry
    rw [pending_of_phase_open pending hphase, hsplit]
    exact List.mem_append_right _ List.mem_cons_self
  | pushed pending text =>
    obtain ⟨sink, push, he⟩ := mem_pushes config l text _ hmem
    cases he
  | lost pending =>
    exact cause_of_fail _ rfl ticket reply pending l.queue (by simpa using hmem)
  | shutOpen pending =>
    exact cause_of_fail _ rfl ticket reply pending l.queue (by simpa using hmem)
  | shutIdle =>
    have hqueue : .replied ticket reply ∈ failQueue l.queue .closed := by simpa using hmem
    rw [replied_mem_failQueue _ _ _ _ hqueue]
    exact .ended _ rfl

end Link

end HubConsole.Session
