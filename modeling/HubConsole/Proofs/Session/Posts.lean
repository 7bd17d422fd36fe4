import HubConsole.Proofs.Session.Flight
import Mathlib.Data.List.Nodup

namespace HubConsole.Session

open HubConsole.Json HubConsole.Rpc

/-- A request as it is sent: its id and the call that it is for; the subscription is for none. -/
structure Post where
  id : Nat
  call? : Option Call

def Post.request (post : Post) : Request :=
  match post.call? with
  | some c => Request.call post.id c.method c.params
  | none => Request.subscribe post.id Topic.all

namespace Link

/-- The call that an event takes from the queue. -/
def caller? (l : Link) : LinkEvent → Option Call
  | .taken _ => l.queue.head?
  | _ => none

/-- The calls that an event adds to the queue. -/
def accepts (l : Link) : LinkEvent → List Call
  | .queued c => if l.state = .closed then [] else [c]
  | _ => []

/-- What a step sends, under the last id that is given out. -/
def outgoing (config : Config) (l : Link) (e : LinkEvent) : List Post :=
  (wire (l.step config e).2).map fun _ => ⟨(l.step config e).1.lastId, l.caller? e⟩

/-- All that a run sends, in order. -/
def posts (config : Config) (es : List LinkEvent) : List Post :=
  (start config).collect config (outgoing config) es

/-- The calls that a run accepts, in order. -/
def accepted (config : Config) (es : List LinkEvent) : List Call :=
  (start config).collect config accepts es

theorem posts_snoc (config : Config) (es : List LinkEvent) (e : LinkEvent) :
    posts config (es ++ [e]) = posts config es ++ outgoing config (after config es) e :=
  collect_snoc config _ es e

theorem accepted_snoc (config : Config) (es : List LinkEvent) (e : LinkEvent) :
    accepted config (es ++ [e]) = accepted config es ++ accepts (after config es) e :=
  collect_snoc config _ es e

variable {config : Config} {l : Link} {e : LinkEvent}

/-- A step sends nothing, or one request with the next id: the subscription, or the call that is taken. -/
inductive Sending (config : Config) (l : Link) : LinkEvent → Link × List LinkEffect → Prop
  | silent (e : LinkEvent) (r : Link × List LinkEffect) (hid : l.lastId ≤ r.1.lastId)
      (hwire : wire r.2 = []) (hqueue : r.1.queue.Sublist (l.queue ++ l.accepts e)) :
      Sending config l e r
  | subscription (r : Link × List LinkEffect) (hid : r.1.lastId = l.lastId + 1)
      (hwire : wire r.2 = [Request.subscribe (l.lastId + 1) Topic.all])
      (hqueue : r.1.queue = l.queue) : Sending config l (.connected true) r
  | call (c : Call) (r : Link × List LinkEffect) (hid : r.1.lastId = l.lastId + 1)
      (hwire : wire r.2 = [Request.call (l.lastId + 1) c.method c.params])
      (hqueue : l.queue = c :: r.1.queue) : Sending config l (.taken true) r

/-- The steps that leave the queue alone or drop calls from it, and send nothing. -/
private theorem silent_of_sublist (r : Link × List LinkEffect) (hid : l.lastId ≤ r.1.lastId)
    (hwire : wire r.2 = []) (hqueue : r.1.queue.Sublist l.queue) : Sending config l e r :=
  .silent e r hid hwire (hqueue.trans (List.sublist_append_left _ _))

theorem Move.sending {r : Link × List LinkEffect} (h : Move config l e r) :
    Sending config l e r := by
  have hsame : l.queue.Sublist l.queue := List.Sublist.refl _
  have hnone : List.Sublist [] l.queue := List.nil_sublist _
  have hnext : l.lastId ≤ l.lastId + 1 := Nat.le_succ _
  cases h with
  | accepted c hstate =>
    refine .silent _ _ (Nat.le_refl _) rfl ?_
    simp [accepts, hstate]
  | ignored | turnedAway | attempted | failed | resolved | confirmed | unmatched | registered =>
    exact silent_of_sublist _ (Nat.le_refl _) (by simp) hsame
  | pushed => exact silent_of_sublist _ (Nat.le_refl _) (wire_pushes _ _ _) hsame
  | exhausted | lost | shutOpen | shutIdle =>
    exact silent_of_sublist _ (Nat.le_refl _) (by simp) hnone
  | subscribed => exact .subscription _ rfl rfl rfl
  | unsubscribed => exact silent_of_sublist _ hnext rfl hsame
  | tooLong pending c queue sent fault hphase hqueue =>
    refine silent_of_sublist _ hnext rfl ?_
    rw [hqueue]
    exact List.sublist_cons_self c queue
  | posted pending c queue text hphase hqueue =>
    exact .call c _ rfl rfl hqueue
  | broken => exact silent_of_sublist _ hnext (by simp) hnone

theorem step_sending (config : Config) (l : Link) (e : LinkEvent) :
    Sending config l e (l.step config e) :=
  (step_move config l e).sending

/-- What a step sends, by the kinds of sending. -/
theorem outgoing_cases (config : Config) (l : Link) (e : LinkEvent) :
    (outgoing config l e = [] ∧ l.lastId ≤ (l.step config e).1.lastId) ∨
      ∃ post, outgoing config l e = [post] ∧ post.id = l.lastId + 1 ∧
        (l.step config e).1.lastId = l.lastId + 1 := by
  have h := step_sending config l e
  unfold outgoing
  generalize l.step config e = r at h ⊢
  cases h with
  | silent e r hid hwire =>
    rw [hwire]
    exact .inl ⟨rfl, hid⟩
  | subscription r hid hwire =>
    rw [hwire]
    exact .inr ⟨_, rfl, hid, hid⟩
  | call c r hid hwire =>
    rw [hwire]
    exact .inr ⟨_, rfl, hid, hid⟩

theorem outgoing_request (config : Config) (l : Link) (e : LinkEvent) :
    (outgoing config l e).map Post.request = wire (l.step config e).2 := by
  have h := step_sending config l e
  unfold outgoing
  generalize l.step config e = r at h ⊢
  cases h with
  | silent e r hid hwire =>
    rw [hwire]
    rfl
  | subscription r hid hwire =>
    rw [hwire, hid]
    rfl
  | call c r hid hwire hqueue =>
    rw [hwire, hid, caller?, hqueue]
    rfl

/-- A call that is sent is the first of the queue, and a call comes to the queue last. -/
theorem outgoing_queue (config : Config) (l : Link) (e : LinkEvent) :
    ((outgoing config l e).filterMap Post.call? ++ (l.step config e).1.queue).Sublist
      (l.queue ++ l.accepts e) := by
  have h := step_sending config l e
  unfold outgoing
  generalize l.step config e = r at h ⊢
  cases h with
  | silent e r hid hwire hqueue =>
    rw [hwire]
    exact hqueue
  | subscription r hid hwire hqueue =>
    rw [hwire, hqueue]
    exact List.sublist_append_left _ _
  | call c r hid hwire hqueue =>
    rw [hwire, caller?, hqueue]
    exact List.sublist_append_left _ _

theorem lastId_mono (config : Config) (es fs : List LinkEvent) :
    (after config es).lastId ≤ (after config (es ++ fs)).lastId := by
  induction fs using List.reverseRecOn with
  | nil => simp
  | append_singleton fs e ih =>
    rw [← List.append_assoc, after_snoc]
    rcases outgoing_cases config (after config (es ++ fs)) e with ⟨-, hle⟩ | ⟨post, -, -, hid⟩
    · omega
    · omega

/-- The ids that are sent grow, and the last id is not less than any of them. -/
theorem posts_increasing (config : Config) (es : List LinkEvent) :
    (posts config es).Pairwise (fun first second => first.id < second.id) ∧
      ∀ post ∈ posts config es, post.id ≤ (after config es).lastId := by
  induction es using List.reverseRecOn with
  | nil => exact ⟨.nil, fun post hmem => absurd hmem List.not_mem_nil⟩
  | append_singleton es e ih =>
    obtain ⟨hpairwise, hle⟩ := ih
    rw [posts_snoc, after_snoc]
    rcases outgoing_cases config (after config es) e with ⟨hnone, hid⟩ | ⟨new, hnew, hpost, hid⟩
    · rw [hnone, List.append_nil]
      exact ⟨hpairwise, fun post hmem => Nat.le_trans (hle post hmem) hid⟩
    · rw [hnew]
      constructor
      · refine List.pairwise_append.mpr ⟨hpairwise, List.pairwise_singleton _ _, ?_⟩
        intro post hmem last hlast
        rw [List.mem_singleton.mp hlast, hpost]
        exact Nat.lt_succ_of_le (hle post hmem)
      · intro post hmem
        rcases List.mem_append.mp hmem with hmem | hmem
        · have hold := hle post hmem
          omega
        · obtain rfl := List.mem_singleton.mp hmem
          omega

/-- No two requests have the same id. -/
theorem posts_unique (config : Config) (es : List LinkEvent) (post post' : Post)
    (hmem : post ∈ posts config es) (hmem' : post' ∈ posts config es) (hid : post.id = post'.id) :
    post = post' := by
  have hne := (posts_increasing config es).1.imp Nat.ne_of_lt
  have hnodup : ((posts config es).map Post.id).Nodup := List.pairwise_map.mpr hne
  exact List.inj_on_of_nodup_map hnodup hmem hmem' hid

theorem posts_request (config : Config) (es : List LinkEvent) :
    (posts config es).map Post.request = wire (effects config es) := by
  induction es using List.reverseRecOn with
  | nil => rfl
  | append_singleton es e ih =>
    rw [posts_snoc, List.map_append, ih, outgoing_request, effects_snoc, wire_append]

/-- The calls that were sent and the ones that wait came in this order. -/
theorem posts_queue (config : Config) (es : List LinkEvent) :
    ((posts config es).filterMap Post.call? ++ (after config es).queue).Sublist
      (accepted config es) := by
  induction es using List.reverseRecOn with
  | nil => exact List.nil_sublist _
  | append_singleton es e ih =>
    rw [posts_snoc, after_snoc, accepted_snoc, List.filterMap_append, List.append_assoc]
    have hstep := outgoing_queue config (after config es) e
    refine (hstep.append_left _).trans ?_
    rw [← List.append_assoc]
    exact ih.append_right _

theorem mem_posts_append (config : Config) (es fs : List LinkEvent) (post : Post)
    (h : post ∈ posts config es) : post ∈ posts config (es ++ fs) := by
  unfold posts at h ⊢
  rw [collect_append]
  exact List.mem_append_left _ h

theorem Sends.outgoing_eq {c : Call} {id : Nat} (h : Sends config l c id) :
    outgoing config l (.taken true) = [⟨id, some c⟩] := by
  unfold outgoing
  rw [h.step_eq, caller?, h.1]
  rfl

end Link

end HubConsole.Session
