import HubConsole.Proofs.Session.Attempts
import HubConsole.Proofs.Session.Conservation
import HubConsole.Proofs.Session.Posts

namespace HubConsole.Session

open HubConsole.Rpc

@[simp] def LinkEffect.refused? : LinkEffect → Option Nat
  | .replied ticket (.error .closed) => some ticket
  | _ => none

/-- The tickets of the calls that are told that the link has ended. -/
abbrev refused : List LinkEffect → List Nat := view LinkEffect.refused?

theorem mem_refused_iff (ticket : Nat) (effects : List LinkEffect) :
    ticket ∈ refused effects ↔ .replied ticket (.error .closed) ∈ effects := by
  unfold refused view
  rw [List.mem_filterMap]
  constructor
  · rintro ⟨effect, hmem, hticket⟩
    unfold LinkEffect.refused? at hticket
    split at hticket
    · obtain rfl := Option.some.inj hticket
      exact hmem
    · cases hticket
  · exact fun h => ⟨_, h, rfl⟩

theorem refused_append (fs gs : List LinkEffect) : refused (fs ++ gs) = refused fs ++ refused gs :=
  view_append _ fs gs

@[simp] theorem refused_failAll (pending : Pending) :
    refused (pending.failAll .connectionClosed) = [] := by
  refine List.filterMap_eq_nil_iff.mpr fun effect hmem => ?_
  obtain ⟨id, ticket, -, rfl⟩ := (Pending.mem_failAll_iff _ _ _).mp hmem
  rfl

@[simp] theorem refused_failQueue_connectionClosed (queue : List Call) :
    refused (Link.failQueue queue .connectionClosed) = [] := by
  refine List.filterMap_eq_nil_iff.mpr fun effect hmem => ?_
  obtain ⟨c, -, rfl⟩ := List.mem_map.mp hmem
  rfl

@[simp] theorem refused_failQueue_closed (queue : List Call) :
    refused (Link.failQueue queue .closed) = queue.map Call.ticket := by
  induction queue with
  | nil => rfl
  | cons c queue ih =>
    change refused (.replied c.ticket (.error .closed) :: Link.failQueue queue .closed) = _
    rw [refused, view_cons]
    exact congrArg (c.ticket :: ·) ih

@[simp] theorem refused_pushes (config : Config) (l : Link) (text : String) :
    refused (l.pushes config text) = [] :=
  Link.filterMap_pushes _ (fun _ _ => rfl) config l text

namespace Link

variable {config : Config} {l : Link} {e : LinkEvent} {r : Link × List LinkEffect}

/-- The hub's answer to a call is never that the link has ended. -/
theorem refused_of_answer {text : String} {n ticket : Nat} {reply : Reply}
    (h : answer? config text = some (n, reply)) : refused [.replied ticket reply] = [] := by
  cases reply with
  | ok outcome => rfl
  | error fault =>
    obtain ⟨frame, rfl⟩ := answer?_error config text n fault h
    rfl

/-- A call leaves the queue once: it is sent, turned away, or told something else. -/
theorem Move.refused_balance (h : Move config l e r) (ticket : Nat) :
    (refused r.2).count ticket +
        (((wire r.2).filterMap fun _ => l.caller? e).map Call.ticket).count ticket +
        (r.1.queue.map Call.ticket).count ticket ≤
      (l.queue.map Call.ticket).count ticket + e.ticket?.toList.count ticket := by
  cases h with
  -- A call that was sent is no longer in the queue, and its answer is not a refusal.
  | resolved pending text n t reply hphase hanswer =>
    rw [refused_of_answer hanswer]
    simp
  | tooLong pending c queue sent fault hphase hqueue | posted pending c queue text hphase hqueue
  | broken pending c queue text hphase hqueue =>
    simp +arith [hqueue, caller?, List.count_cons]
  | subscribed => simp [caller?]
  | _ => simp +arith [List.count_cons]

/-- The tickets of the calls that a run sends, in order. -/
def sent (config : Config) (es : List LinkEvent) : List Nat :=
  ((posts config es).filterMap Post.call?).map Call.ticket

theorem sent_snoc (config : Config) (es : List LinkEvent) (e : LinkEvent) :
    sent config (es ++ [e]) =
      sent config es ++ (((wire ((after config es).step config e).2).filterMap fun _ =>
        (after config es).caller? e).map Call.ticket) := by
  rw [sent, posts_snoc, List.filterMap_append, List.map_append, outgoing, List.filterMap_map]
  rfl

theorem mem_sent_iff (config : Config) (es : List LinkEvent) (ticket : Nat) :
    ticket ∈ sent config es ↔
      ∃ post ∈ posts config es, ∃ c, post.call? = some c ∧ c.ticket = ticket := by
  simp only [sent, List.mem_map, List.mem_filterMap]
  constructor
  · rintro ⟨c, ⟨post, hpost, hcall⟩, hticket⟩
    exact ⟨post, hpost, c, hcall, hticket⟩
  · rintro ⟨post, hpost, c, hcall, hticket⟩
    exact ⟨c, ⟨post, hpost, hcall⟩, hticket⟩

/-- Of the calls that are handed to a link, those that are turned away and those that are sent are others. -/
theorem refused_sent_le_offered (config : Config) (es : List LinkEvent) (ticket : Nat) :
    (refused (effects config es)).count ticket + (sent config es).count ticket +
        ((after config es).queue.map Call.ticket).count ticket ≤ (offered es).count ticket := by
  induction es using List.reverseRecOn with
  | nil => exact Nat.le_refl 0
  | append_singleton es e ih =>
    have hstep := (step_move config (after config es) e).refused_balance ticket
    rw [effects_snoc, after_snoc, sent_snoc, offered_snoc, refused_append]
    simp only [List.count_append]
    omega

/-- A call that is handed over once and is turned away is never sent. -/
theorem not_mem_sent_of_refused {es : List LinkEvent} {ticket : Nat}
    (honce : (offered es).count ticket ≤ 1)
    (h : .replied ticket (.error .closed) ∈ effects config es) : ticket ∉ sent config es := by
  have hrefused := List.count_pos_iff.mpr ((mem_refused_iff ticket _).mpr h)
  have hbalance := refused_sent_le_offered config es ticket
  exact List.count_eq_zero.mp (by omega)

theorem not_mem_sent_of_not_offered {es : List LinkEvent} {ticket : Nat}
    (h : ticket ∉ offered es) : ticket ∉ sent config es := by
  have hoffered := List.count_eq_zero.mpr h
  have hbalance := refused_sent_le_offered config es ticket
  exact List.count_eq_zero.mp (by omega)

/-- A link answers no call that was not handed to it. -/
theorem not_mem_answered_of_not_offered {es : List LinkEvent} {ticket : Nat}
    (h : ticket ∉ offered es) : ticket ∉ answered (effects config es) := by
  have hoffered := List.count_eq_zero.mpr h
  have hbalance := run_balance config es ticket
  exact List.count_eq_zero.mp (by omega)

/-- That the connection did not open in time is not for the link to say. -/
theorem Move.no_timeout (h : Move config l e r) (ticket : Nat) :
    .replied ticket (.error .timeout) ∉ r.2 := by
  intro hmem
  rcases (h.cause ticket _ hmem).isFinal with ⟨_, heq⟩ | ⟨_, heq⟩ | heq | heq <;> cases heq

theorem no_timeout (config : Config) (es : List LinkEvent) (ticket : Nat) :
    .replied ticket (.error .timeout) ∉ effects config es := by
  induction es using List.reverseRecOn with
  | nil => exact List.not_mem_nil
  | append_singleton es e ih =>
    rw [effects_snoc, List.mem_append, not_or]
    exact ⟨ih, (step_move config _ e).no_timeout ticket⟩

theorem Move.no_unresponsive (h : Move config l e r) : .notified .hubNotResponding ∉ r.2 := by
  rw [← mem_notices_iff, h.notices_eq]
  split
  · split <;> split <;> simp
  · split <;> simp

end Link
end HubConsole.Session
