import HubConsole.Proofs.Session.Attempts

namespace HubConsole.Session

open HubConsole.Rpc

/-- The states that are published while an attempt, and the connection that it opens, lasts. -/
def Attempt.states : Attempt → List State
  | .opened => [.connecting, .open, .disconnected]
  | .failed => [.connecting, .disconnected]

/-- The states of a link from the start over some attempts and their connections. -/
def rounds (as : List Attempt) : List State := .disconnected :: as.flatMap Attempt.states

/-- States in the order of some rounds with the end after them, which may cut off one more attempt; they may
stop anywhere. -/
def IsPath (as : List Attempt) (states : List State) : Prop :=
  ∃ cut, (cut = [] ∨ cut = [.connecting]) ∧ states <+: rounds as ++ cut ++ [.closed]

/-- The path of a link that is in a state. -/
def Trail (as : List Attempt) (states : List State) : State → Prop
  | .disconnected => states = rounds as
  | .connecting => states = rounds as ++ [.connecting]
  | .open => states ++ [.disconnected] = rounds as
  | .closed => ∃ cut, (cut = [] ∨ cut = [.connecting]) ∧ states = rounds as ++ cut ++ [.closed]

theorem rounds_snoc (as : List Attempt) (a : Attempt) :
    rounds (as ++ [a]) = rounds as ++ a.states := by
  simp [rounds]

theorem Trail.isPath {as : List Attempt} {states : List State} {s : State}
    (h : Trail as states s) : IsPath as states := by
  cases s with
  | disconnected =>
    refine ⟨[], .inl rfl, ?_⟩
    rw [h, List.append_nil]
    exact List.prefix_append _ _
  | connecting =>
    refine ⟨[.connecting], .inr rfl, ?_⟩
    rw [h]
    exact List.prefix_append _ _
  | «open» =>
    refine ⟨[], .inl rfl, ?_⟩
    rw [← h, List.append_nil, List.append_assoc]
    exact List.prefix_append _ _
  | closed =>
    obtain ⟨cut, hcut, rfl⟩ := h
    exact ⟨cut, hcut, List.prefix_refl _⟩

theorem IsPath.shorter {as : List Attempt} {states states' : List State} (h : IsPath as states)
    (hfirst : states' <+: states) : IsPath as states' := by
  obtain ⟨cut, hcut, hpath⟩ := h
  exact ⟨cut, hcut, hfirst.trans hpath⟩

theorem Link.Passage.trail {as : List Attempt} {states new : List State} {s s' : State}
    {a? : Option Attempt} (h : Link.Passage s a? new s') (ht : Trail as states s) :
    Trail (as ++ a?.toList) (states ++ new) s' := by
  cases h with
  | still s => simpa using ht
  | attempted =>
    have hs : states = rounds as := ht
    simp [Trail, hs]
  | opened =>
    have hs : states = rounds as ++ [.connecting] := ht
    simp [Trail, hs, rounds_snoc, Attempt.states]
  | failed =>
    have hs : states = rounds as ++ [.connecting] := ht
    simp [Trail, hs, rounds_snoc, Attempt.states]
  | exhausted =>
    have hs : states = rounds as ++ [.connecting] := ht
    refine ⟨[], .inl rfl, ?_⟩
    simp [hs, rounds_snoc, Attempt.states]
  | lost =>
    have hs : states ++ [.disconnected] = rounds as := ht
    simp [Trail, hs]
  | shutOpen =>
    have hs : states ++ [.disconnected] = rounds as := ht
    refine ⟨[], .inl rfl, ?_⟩
    simp [← hs]
  | shutIdle s hidle =>
    rcases hidle with rfl | rfl
    · have hs : states = rounds as := ht
      exact ⟨[], .inl rfl, by simp [hs]⟩
    · have hs : states = rounds as ++ [.connecting] := ht
      exact ⟨[.connecting], .inr rfl, by simp [hs]⟩

/-- Effects that only callers notice. -/
def OnlyReplies (effects : List LinkEffect) : Prop :=
  ∀ effect ∈ effects, ∃ ticket reply, effect = .replied ticket reply

theorem onlyReplies_failQueue (queue : List Call) (e : CallError) :
    OnlyReplies (Link.failQueue queue e) := by
  intro effect hmem
  obtain ⟨c, -, rfl⟩ := List.mem_map.mp hmem
  exact ⟨_, _, rfl⟩

theorem OnlyReplies.append {fs gs : List LinkEffect} (hf : OnlyReplies fs) (hg : OnlyReplies gs) :
    OnlyReplies (fs ++ gs) := by
  intro effect hmem
  rcases List.mem_append.mp hmem with hmem | hmem
  · exact hf effect hmem
  · exact hg effect hmem

theorem OnlyReplies.not_mem {fs : List LinkEffect} (h : OnlyReplies fs) (effect : LinkEffect)
    (heffect : effect.ticket? = none) : effect ∉ fs := by
  intro hmem
  obtain ⟨ticket, reply, rfl⟩ := h effect hmem
  cases heffect

namespace Link

variable {config : Config} {l : Link} {e : LinkEvent} {r : Link × List LinkEffect}

theorem trail_after (config : Config) (es : List LinkEvent) :
    Trail (attempts config es) (.disconnected :: published (effects config es))
      (after config es).state := by
  induction es using List.reverseRecOn with
  | nil => rfl
  | append_singleton es e ih =>
    have hpassage := (step_move config (after config es) e).passage
    have hsplit : published (effects config es ++ ((after config es).step config e).2) =
        published (effects config es) ++ published ((after config es).step config e).2 :=
      view_append _ _ _
    rw [attempts_snoc, effects_snoc, after_snoc, hsplit, ← List.cons_append]
    exact hpassage.trail ih

/-- Once a link has ended, it only turns calls away. -/
theorem Move.of_closed (h : Move config l e r) (hclosed : l.state = .closed) :
    r.1.state = .closed ∧ OnlyReplies r.2 := by
  cases h with
  | ignored | registered => exact ⟨hclosed, by simp [OnlyReplies]⟩
  | turnedAway c => exact ⟨hclosed, by simp [OnlyReplies]⟩
  | accepted c hstate => exact absurd hclosed hstate
  | shutIdle hstate => simp [hclosed] at hstate
  | attempted _ hphase | subscribed hphase | unsubscribed _ hphase | failed hphase
  | exhausted hphase | tooLong _ _ _ _ _ hphase | posted _ _ _ _ hphase | broken _ _ _ _ hphase
  | resolved _ _ _ _ _ hphase | confirmed _ _ _ _ hphase | unmatched _ _ _ _ hphase
  | pushed _ _ hphase | lost _ hphase | shutOpen _ hphase => simp [state, hphase] at hclosed

/-- An effect that ends a link in its step, with something after it that only replies may follow, is followed
by that over every run. -/
theorem effects_after (config : Config) (effect : LinkEffect) (P : List LinkEffect → Prop)
    (hP : ∀ fs gs, P fs → OnlyReplies gs → P (fs ++ gs))
    (hmove : ∀ l e r before rest, Move config l e r → r.2 = before ++ effect :: rest →
      r.1.state = .closed ∧ P rest)
    (es : List LinkEvent) (before rest : List LinkEffect)
    (h : effects config es = before ++ effect :: rest) :
    (after config es).state = .closed ∧ P rest := by
  induction es using List.reverseRecOn generalizing rest with
  | nil => simp [effects, run] at h
  | append_singleton es e ih =>
    have hstep := step_move config (after config es) e
    rw [effects_snoc] at h
    rw [after_snoc]
    rcases List.append_eq_append_iff.mp h with ⟨front, -, hlast⟩ | ⟨back, hfirst, hlast⟩
    · exact hmove _ _ _ front rest hstep hlast
    · rcases List.cons_eq_append_iff.mp hlast with ⟨rfl, hall⟩ | ⟨back, rfl, rfl⟩
      · exact hmove _ _ _ [] rest hstep hall
      · obtain ⟨hclosed, hback⟩ := ih back hfirst
        obtain ⟨hstate, hreplies⟩ := hstep.of_closed hclosed
        exact ⟨hstate, hP _ _ hback hreplies⟩

theorem Move.after_closed (h : Move config l e r) (before rest : List LinkEffect)
    (hsplit : r.2 = before ++ .published .closed :: rest) :
    r.1.state = .closed ∧ OnlyReplies rest := by
  have hmem : .closed ∈ published r.2 := by simp [hsplit]
  -- Only calls of the queue are answered after the end, and nothing before it is the end.
  have hrest (front : List LinkEffect) (queue : List Call) (hfront : .closed ∉ published front)
      (heq : r.2 = front ++ .published .closed :: failQueue queue .closed) : OnlyReplies rest := by
    have hqueue := onlyReplies_failQueue queue .closed
    have hfirst : .published .closed ∉ front := mt (mem_published_iff _ _).mpr hfront
    have hlast : .published .closed ∉ failQueue queue .closed := hqueue.not_mem _ rfl
    have hsame := heq.symm.trans hsplit
    obtain ⟨-, -, rfl⟩ := (List.append_cons_inj_of_notMem hfirst hlast).mp hsame
    exact hqueue
  cases h with
  | exhausted hphase hleft =>
    let told : List LinkEffect := if l.announced then [] else [.notified .hubUnreachable]
    let front := .published .disconnected :: told ++ [.notified (.reconnectExhausted (l.failures + 1))]
    exact ⟨rfl, hrest front l.queue (by simp [front, told]) (by simp [front, told])⟩
  | shutOpen pending hphase =>
    let failed := pending.failAll .connectionClosed
    let front := failed ++ .published .disconnected :: failQueue l.queue .connectionClosed
    exact ⟨rfl, hrest front [] (by simp [front, failed]) rfl⟩
  | shutIdle hstate => exact ⟨rfl, hrest [] l.queue (by simp) rfl⟩
  | _ => simp at hmem

/-- Giving up is followed by the end of the link, and that by replies. -/
theorem Move.after_exhausted (h : Move config l e r) (n : Nat) (before rest : List LinkEffect)
    (hsplit : r.2 = before ++ .notified (.reconnectExhausted n) :: rest) :
    r.1.state = .closed ∧ ∃ replies, rest = .published .closed :: replies ∧ OnlyReplies replies := by
  have hmem : .reconnectExhausted n ∈ notices r.2 := by simp [hsplit]
  cases h with
  | exhausted hphase hleft =>
    let told : List LinkEffect := if l.announced then [] else [.notified .hubUnreachable]
    let front := .published .disconnected :: told
    have hqueue := onlyReplies_failQueue l.queue .closed
    have hn : n = l.failures + 1 := by
      cases l.announced <;> simpa using hmem
    have hfirst : .notified (.reconnectExhausted n) ∉ front := by
      cases htold : l.announced <;> simp [front, told, htold]
    have hlast : .notified (.reconnectExhausted n) ∉ .published .closed :: failQueue l.queue .closed := by
      simpa using hqueue.not_mem _ rfl
    subst hn
    obtain ⟨-, -, rfl⟩ := (List.append_cons_inj_of_notMem hfirst hlast).mp hsplit
    exact ⟨rfl, _, rfl, hqueue⟩
  | _ => simp at hmem

/-- The end is published once, and only replies come after it. -/
theorem closed_once (config : Config) (es : List LinkEvent) (before rest : List LinkEffect)
    (h : effects config es = before ++ .published .closed :: rest) :
    .published .closed ∉ before ∧ OnlyReplies rest := by
  have hlast := effects_after config (.published .closed) OnlyReplies
    (fun _ _ hfs hgs => hfs.append hgs) (fun _ _ _ before rest hmove => hmove.after_closed before rest) es
  refine ⟨?_, (hlast before rest h).2⟩
  intro hmem
  obtain ⟨front, back, rfl⟩ := List.append_of_mem hmem
  have hearlier := (hlast front (back ++ .published .closed :: rest) (by simp [h])).2
  exact hearlier.not_mem (.published .closed) rfl (by simp)

/-- The link gives up once, and then it ends. -/
theorem exhausted_once (config : Config) (es : List LinkEvent) (n : Nat)
    (before rest : List LinkEffect)
    (h : effects config es = before ++ .notified (.reconnectExhausted n) :: rest) :
    (∀ m, .notified (.reconnectExhausted m) ∉ before) ∧
      ∃ replies, rest = .published .closed :: replies ∧ OnlyReplies replies := by
  let Ends (rest : List LinkEffect) : Prop :=
    ∃ replies, rest = .published .closed :: replies ∧ OnlyReplies replies
  have hends (fs gs : List LinkEffect) (hfs : Ends fs) (hgs : OnlyReplies gs) : Ends (fs ++ gs) := by
    obtain ⟨replies, rfl, hreplies⟩ := hfs
    exact ⟨replies ++ gs, rfl, hreplies.append hgs⟩
  have hlast (m : Nat) := effects_after config (.notified (.reconnectExhausted m)) Ends hends
    (fun _ _ _ before rest hmove => hmove.after_exhausted m before rest) es
  refine ⟨?_, (hlast n before rest h).2⟩
  intro m hmem
  obtain ⟨front, back, rfl⟩ := List.append_of_mem hmem
  obtain ⟨replies, hback, hreplies⟩ :=
    (hlast m front (back ++ .notified (.reconnectExhausted n) :: rest) (by simp [h])).2
  have hafter : .notified (.reconnectExhausted n) ∈ .published .closed :: replies := by
    rw [← hback]
    simp
  rcases List.mem_cons.mp hafter with hsame | hreply
  · cases hsame
  · exact hreplies.not_mem _ rfl hreply

/-- While a link goes on, fewer attempts have failed in a row than may fail. -/
theorem failures_lt (config : Config) (es : List LinkEvent) :
    (after config es).state ≠ .closed → (after config es).failures < max 1 config.maxReconnect := by
  refine after_induction config
    (fun l => l.state ≠ .closed → l.failures < max 1 config.maxReconnect) ?_ ?_ es
  · intro h
    change 0 < max 1 config.maxReconnect
    omega
  · intro l e r ih hmove hopen
    have hbefore : l.state ≠ .closed := fun h => hopen (hmove.of_closed h).1
    have hless := ih hbefore
    cases hmove with
    | subscribed | unsubscribed =>
      change 0 < max 1 config.maxReconnect
      omega
    | failed hphase hleft =>
      change l.failures + 1 < max 1 config.maxReconnect
      omega
    | exhausted | shutOpen | shutIdle => exact absurd rfl hopen
    | _ => exact hless

theorem mem_exhausted_iff (h : Move config l e r) (n : Nat) :
    .notified (.reconnectExhausted n) ∈ r.2 ↔
      l.attempt? e = some .failed ∧ config.maxReconnect ≤ l.failures + 1 ∧ n = l.failures + 1 := by
  rw [← mem_notices_iff, h.notices_eq]
  by_cases hfailed : l.attempt? e = some .failed
  · by_cases hleft : config.maxReconnect ≤ l.failures + 1
    · cases l.announced <;> simp [hfailed, hleft]
    · cases l.announced <;> simp [hfailed, hleft]
  · simp only [hfailed, if_false, false_and, iff_false]
    split <;> simp

/-- The link has given up just when as many attempts have failed as may fail in a row. -/
theorem exhausted_iff (config : Config) (es : List LinkEvent) :
    (∃ n, .notified (.reconnectExhausted n) ∈ effects config es) ↔
      max 1 config.maxReconnect ≤ (after config es).failures := by
  induction es using List.reverseRecOn with
  | nil => simp [effects, run, after, start]
  | append_singleton es e ih =>
    have hmove := step_move config (after config es) e
    have hsplit : (∃ n, .notified (.reconnectExhausted n) ∈ effects config (es ++ [e])) ↔
        (∃ n, .notified (.reconnectExhausted n) ∈ effects config es) ∨
          ∃ n, .notified (.reconnectExhausted n) ∈ ((after config es).step config e).2 := by
      simp only [effects_snoc, List.mem_append, exists_or]
    simp only [hsplit, ih, mem_exhausted_iff hmove, after_snoc, hmove.failures_eq]
    cases hattempt : (after config es).attempt? e with
    | none => simp
    | some a =>
      have hstate := state_of_attempt? a hattempt
      have hless := failures_lt config es (by simp [hstate])
      have hbefore : ¬max 1 config.maxReconnect ≤ (after config es).failures := Nat.not_le.mpr hless
      cases a with
      | opened => simp [hbefore]
      | failed =>
        simp only [hbefore, false_or, true_and, exists_and_left, exists_eq, and_true]
        omega

theorem eq_of_mem_exhausted (config : Config) (es : List LinkEvent) (n : Nat)
    (h : .notified (.reconnectExhausted n) ∈ effects config es) : n = max 1 config.maxReconnect := by
  induction es using List.reverseRecOn with
  | nil => simp [effects, run] at h
  | append_singleton es e ih =>
    rw [effects_snoc] at h
    rcases List.mem_append.mp h with hmem | hmem
    · exact ih hmem
    · obtain ⟨hattempt, hleft, rfl⟩ := (mem_exhausted_iff (step_move config _ e) n).mp hmem
      have hstate := state_of_attempt? _ hattempt
      have hless := failures_lt config es (by simp [hstate])
      omega

/-- The life of a link. At every moment the states that it has published follow a path: rounds of an attempt
and, if it opens a connection, of that, and at last the end, directly after a round or in place of an attempt's
end. The end is published once, and nothing comes after it but replies to calls. The link gives up once, when
just as many attempts as may fail in a row have failed, and then it ends at once; until then fewer have failed
since its last connection. -/
theorem states_follow_path (config : Config) (es : List LinkEvent) :
    let most := max 1 config.maxReconnect
    (∀ seen, seen <+: effects config es →
      IsPath (attempts config es) (.disconnected :: published seen)) ∧
    (∀ before rest, effects config es = before ++ .published .closed :: rest →
      .published .closed ∉ before ∧ OnlyReplies rest) ∧
    (∀ n before rest, effects config es = before ++ .notified (.reconnectExhausted n) :: rest →
      n = most ∧ (∀ m, .notified (.reconnectExhausted m) ∉ before) ∧
        ∃ replies, rest = .published .closed :: replies ∧ OnlyReplies replies) ∧
    ((∃ n, .notified (.reconnectExhausted n) ∈ effects config es) ↔
      List.replicate most .failed <:+ attempts config es) ∧
    ((∀ n, .notified (.reconnectExhausted n) ∉ effects config es) →
      failedSince (attempts config es) < most) := by
  intro most
  have hexhausted : (∃ n, .notified (.reconnectExhausted n) ∈ effects config es) ↔
      most ≤ failedSince (attempts config es) := by
    rw [exhausted_iff, failures_after]
  refine ⟨?_, closed_once config es, ?_, ?_, ?_⟩
  · intro seen hseen
    have hpath := (trail_after config es).isPath
    have hfirst : published seen <+: published (effects config es) := hseen.filterMap _
    exact hpath.shorter (List.cons_prefix_cons.mpr ⟨rfl, hfirst⟩)
  · intro n before rest hsplit
    have hmem : .notified (.reconnectExhausted n) ∈ effects config es := by simp [hsplit]
    exact ⟨eq_of_mem_exhausted config es n hmem, exhausted_once config es n before rest hsplit⟩
  · rw [hexhausted, replicate_suffix_iff]
  · intro hnone
    refine Nat.not_le.mp fun hmost => ?_
    obtain ⟨n, hmem⟩ := hexhausted.mpr hmost
    exact hnone n hmem

/-- One connection, with a push and an answer on it, and then two attempts that fail, which is all there may be. -/
example :
    let config : Config := { Config.new "ws://h" "" with maxReconnect := 2 }
    let es := [.registered .network 3, .attempted, .connected true, .queued ⟨7, "log_getTargets", .array []⟩,
      .taken true, .received "\x7b\"method\":\"dashboard_updated\",\"params\":[\x7b\x7d]\x7d",
      .received "\x7b\"id\":2,\"result\":null\x7d", .lost, .attempted, .refused, .attempted, .refused]
    answered (effects config es) = [7] ∧
      published (effects config es) =
        [.connecting, .open, .disconnected, .connecting, .disconnected, .connecting, .disconnected, .closed] ∧
      notices (effects config es) = [.hubUnreachable, .reconnectExhausted 2] := by
  decide +kernel

end Link
end HubConsole.Session
