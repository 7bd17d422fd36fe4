import HubConsole.Proofs.Session.Run

namespace HubConsole.Session

open HubConsole.Json HubConsole.Rpc

/-- The push that a text brings, if it is a notification of a known topic with parameters that fit. -/
def push? (config : Config) (text : String) : Option Push :=
  match Frame.decode text config.maxFrameBytes with
  | .ok (.notification topic params) =>
    match Push.ofNotification topic params with
    | .ok push => push
    | .error _ => none
  | _ => none

/-- The sink that was registered last for a topic. -/
def registered (es : List LinkEvent) (topic : Topic) : Option Nat :=
  es.reverse.findSome? fun
    | .registered t sink => if t = topic then some sink else none
    | _ => none

/-- A push that has come, and the sink that was registered last for its topic at that moment. -/
structure Arrival where
  push : Push
  sink? : Option Nat

/-- What arrives with an event, after the events before it. Texts come on an open connection only. -/
def arrival? (config : Config) (before : List LinkEvent) : LinkEvent → Option Arrival
  | .received text =>
    if (Link.after config before).state = .open then
      (push? config text).map fun push => ⟨push, registered before push.topic⟩
    else none
  | _ => none

/-- What arrives over some events, after the events before them. -/
def arrivals (config : Config) (before : List LinkEvent) : List LinkEvent → List Arrival
  | [] => []
  | e :: es => (arrival? config before e).toList ++ arrivals config (before ++ [e]) es

/-- What is passed on of an arrival, and to which sink. -/
@[simp] def Arrival.delivery? (a : Arrival) : Option (Nat × Push) := a.sink?.map fun sink => (sink, a.push)

@[simp] def LinkEffect.delivery? : LinkEffect → Option (Nat × Push)
  | .delivered sink push => some (sink, push)
  | _ => none

/-- All pushes that are passed on, each with its sink, in order. -/
def deliveries (effects : List LinkEffect) : List (Nat × Push) :=
  effects.filterMap LinkEffect.delivery?

/-- The pushes that one sink gets, in order. -/
def inbox (sink : Nat) (effects : List LinkEffect) : List Push :=
  ((deliveries effects).filter fun d => d.1 = sink).map Prod.snd

/-- The pushes of one topic that any sink gets, in order. -/
def topicInbox (topic : Topic) (effects : List LinkEffect) : List Push :=
  ((deliveries effects).filter fun d => d.2.topic = topic).map Prod.snd

@[simp] theorem deliveries_nil : deliveries [] = [] := rfl

@[simp] theorem deliveries_cons (f : LinkEffect) (fs : List LinkEffect) :
    deliveries (f :: fs) = f.delivery?.toList ++ deliveries fs := by
  unfold deliveries
  rw [List.filterMap_cons]
  cases f.delivery? <;> rfl

@[simp] theorem deliveries_append (fs gs : List LinkEffect) :
    deliveries (fs ++ gs) = deliveries fs ++ deliveries gs :=
  List.filterMap_append

@[simp] theorem deliveries_failAll (pending : Pending) (e : CallError) :
    deliveries (pending.failAll e) = [] :=
  Pending.filterMap_failAll _ (fun _ _ => rfl) pending e

@[simp] theorem deliveries_failQueue (queue : List Call) (e : CallError) :
    deliveries (Link.failQueue queue e) = [] :=
  Link.filterMap_failQueue _ (fun _ _ => rfl) queue e

@[simp] theorem deliveries_announcement (told : Bool) :
    deliveries (if told then [] else [.notified .hubUnreachable]) = [] := by
  cases told <;> rfl

/-- Of the pushes that are passed on, those with a property are the arrivals that have it with their sink. -/
theorem filter_delivered (p : Nat × Push → Bool) (as : List Arrival) :
    ((as.filterMap Arrival.delivery?).filter p).map Prod.snd =
      (as.filter fun a => a.sink?.any fun sink => p (sink, a.push)).map Arrival.push := by
  induction as with
  | nil => rfl
  | cons a as ih =>
    obtain ⟨push, sink?⟩ := a
    cases sink? with
    | none => simpa [List.filterMap_cons] using ih
    | some sink => by_cases hp : p (sink, push) <;> simpa [List.filterMap_cons, hp] using ih

/-- A text that answers a request brings no push. -/
theorem push?_of_answer (config : Config) (text : String) (a : Nat × Reply)
    (h : answer? config text = some a) : push? config text = none := by
  unfold answer? at h
  unfold push?
  split at h
  · next hdecode => rw [hdecode]
  · next hdecode => rw [hdecode]
  · cases h

theorem registered_snoc (es : List LinkEvent) (e : LinkEvent) (topic : Topic) :
    registered (es ++ [e]) topic =
      match e with
      | .registered t sink => if t = topic then some sink else registered es topic
      | _ => registered es topic := by
  unfold registered
  rw [List.reverse_append, List.reverse_singleton, List.singleton_append, List.findSome?_cons]
  cases e with
  | registered t sink => by_cases h : t = topic <;> simp [h]
  | _ => rfl

/-- With no registration among them, events leave the sinks as they are. -/
theorem registered_append (before since : List LinkEvent) (topic : Topic)
    (h : ∀ t sink, .registered t sink ∉ since) :
    registered (before ++ since) topic = registered before topic := by
  induction since using List.reverseRecOn with
  | nil => rw [List.append_nil]
  | append_singleton since e ih =>
    have hearlier : ∀ t sink, .registered t sink ∉ since := fun t sink hmem =>
      h t sink (List.mem_append_left _ hmem)
    rw [← List.append_assoc, registered_snoc, ih hearlier]
    cases e with
    | registered t sink => exact absurd List.mem_concat_self (h t sink)
    | _ => rfl

/-- With no registration among them, all that events bring meets the sinks that are there. -/
theorem sink?_of_mem_arrivals (config : Config) (before since : List LinkEvent)
    (h : ∀ t sink, .registered t sink ∉ since) (a : Arrival)
    (hmem : a ∈ arrivals config before since) : a.sink? = registered before a.push.topic := by
  induction since generalizing before with
  | nil => cases hmem
  | cons e since ih =>
    have hlater : ∀ t sink, .registered t sink ∉ since := fun t sink hmem =>
      h t sink (List.mem_cons_of_mem e hmem)
    rw [arrivals, List.mem_append] at hmem
    rcases hmem with hfirst | hrest
    · rw [Option.mem_toList] at hfirst
      cases e with
      | received text =>
        unfold arrival? at hfirst
        dsimp only at hfirst
        split at hfirst
        · obtain ⟨push, -, rfl⟩ := Option.map_eq_some_iff.mp hfirst
          rfl
        · cases hfirst
      | _ => cases hfirst
    · rw [ih (before ++ [e]) hlater hrest]
      refine registered_append before [e] a.push.topic ?_
      intro t sink hsingle
      exact h t sink (List.mem_singleton.mp hsingle ▸ List.mem_cons_self)

namespace Link

variable {config : Config} {l : Link}

theorem deliveries_pushes (config : Config) (l : Link) (text : String) :
    deliveries (l.pushes config text) =
      ((push? config text).bind fun push =>
        (l.sinks.lookup push.topic).map fun sink => (sink, push)).toList := by
  unfold pushes push?
  cases Frame.decode text config.maxFrameBytes with
  | error e => rfl
  | ok frame =>
    cases frame with
    | response id outcome => rfl
    | notification topic params =>
      dsimp only
      cases Push.ofNotification topic params with
      | error fault => rfl
      | ok found =>
        cases found with
        | none => rfl
        | some push =>
          simp only [deliver, Option.bind_some]
          cases l.sinks.lookup push.topic <;> rfl

/-- What a move passes on: the push of a text that comes on an open connection, to the sink of its topic. -/
theorem Move.deliveries {e : LinkEvent} {r : Link × List LinkEffect} (h : Move config l e r) :
    deliveries r.2 =
      match e with
      | .received text =>
        if l.state = .open then
          ((push? config text).bind fun push =>
            (l.sinks.lookup push.topic).map fun sink => (sink, push)).toList
        else []
      | _ => [] := by
  cases h with
  | ignored e hfits =>
    cases e with
    | received text =>
      have hclosed : l.state ≠ .open := hfits
      simp [hclosed]
    | _ => rfl
  | resolved pending text n ticket reply hphase hanswer =>
    simp [push?_of_answer config text _ hanswer]
  | confirmed pending text n reply hphase hanswer =>
    simp [push?_of_answer config text _ hanswer]
  | unmatched pending text n reply hphase hanswer =>
    simp [push?_of_answer config text _ hanswer]
  | pushed pending text hphase =>
    simp only [state_of_phase_open pending hphase, if_true]
    exact deliveries_pushes config l text
  | accepted | turnedAway | attempted | subscribed | unsubscribed | failed | exhausted | tooLong
  | posted | broken | lost | shutOpen | shutIdle | registered => simp

theorem Move.sinks {e : LinkEvent} {r : Link × List LinkEffect} (h : Move config l e r) :
    r.1.sinks =
      match e with
      | .registered topic sink => (topic, sink) :: l.sinks
      | _ => l.sinks := by
  cases h with
  | ignored e hfits =>
    cases e with
    | registered topic sink => exact absurd trivial hfits
    | _ => rfl
  | _ => rfl

/-- A link knows the sink that was registered last. -/
theorem lookup_sinks_after (config : Config) (es : List LinkEvent) (topic : Topic) :
    (after config es).sinks.lookup topic = registered es topic := by
  induction es using List.reverseRecOn with
  | nil => rfl
  | append_singleton es e ih =>
    rw [after_snoc, (step_move config _ e).sinks, registered_snoc]
    cases e with
    | registered t sink =>
      dsimp only
      by_cases htopic : t = topic
      · subst htopic
        rw [List.lookup_cons_self, if_pos rfl]
      · have hother : (topic == t) = false := beq_false_of_ne (fun h => htopic h.symm)
        rw [List.lookup_cons, hother, if_neg htopic, ← ih]
    | _ => exact ih

/-- A step passes on what arrives with its event, if there is a sink for it. -/
theorem deliveries_step (config : Config) (es : List LinkEvent) (e : LinkEvent) :
    deliveries ((after config es).step config e).2 =
      (arrival? config es e).toList.filterMap Arrival.delivery? := by
  rw [(step_move config _ e).deliveries]
  cases e with
  | received text =>
    unfold arrival?
    dsimp only
    split
    · cases push? config text with
      | none => rfl
      | some push =>
        simp only [Option.bind_some, lookup_sinks_after, Option.map_some, Option.toList_some]
        cases registered es push.topic <;> rfl
    · rfl
  | _ => rfl

theorem deliveries_run (config : Config) (before es : List LinkEvent) :
    deliveries ((after config before).run config es).2 =
      (arrivals config before es).filterMap Arrival.delivery? := by
  induction es generalizing before with
  | nil => rfl
  | cons e es ih =>
    have hrest := ih (before ++ [e])
    rw [after_snoc] at hrest
    rw [run, deliveries_append, arrivals, List.filterMap_append, deliveries_step, hrest]

/-- The link with no request in flight, all else the same. -/
def hushed (l : Link) : Link :=
  match l.phase with
  | .open _ => { l with phase := .open [] }
  | _ => l

theorem hushed_of_open (pending : Pending) (h : l.phase = .open pending) :
    l.hushed = { l with phase := .open [] } := by
  simp [hushed, h]

theorem hushed_of_not_open (h : l.state ≠ .open) : l.hushed = l := by
  unfold state at h
  unfold hushed
  split at h <;> simp_all

/-- A text leaves all but the requests in flight as it is. -/
theorem hushed_receive (config : Config) (l : Link) (text : String) :
    (l.step config (.received text)).1.hushed = l.hushed := by
  have hmove := step_move config l (.received text)
  generalize l.step config (.received text) = r at hmove ⊢
  cases hmove with
  | ignored | unmatched | pushed => rfl
  | resolved pending text n ticket reply hphase =>
    rw [hushed_of_open pending hphase]
    rfl
  | confirmed pending text n reply hphase =>
    rw [hushed_of_open pending hphase]
    rfl

/-- What is passed on does not depend on the requests in flight, now or later. -/
theorem step_hushed (config : Config) (l : Link) (e : LinkEvent) :
    (l.hushed.step config e).1.hushed = (l.step config e).1.hushed ∧
      deliveries (l.hushed.step config e).2 = deliveries (l.step config e).2 := by
  by_cases hopen : l.state = .open
  · have hphase := phase_of_state_open hopen
    rw [hushed_of_open _ hphase]
    cases e with
    | received text =>
      rw [hushed_receive, hushed_receive, (step_move config _ _).deliveries,
        (step_move config l _).deliveries, hopen]
      exact ⟨by simp [hushed, hphase], rfl⟩
    | taken sent =>
      simp only [step, hphase]
      cases hqueue : l.queue with
      | nil => simp [hushed, hphase, hqueue]
      | cons c queue =>
        simp only [send]
        split
        · simp [hushed]
        · cases sent <;> simp [hushed, lose, endConnection, pause]
    | queued c => simp [step, hphase, hushed]
    | attempted | connected | refused => simp [step, hphase, hushed]
    | lost => simp [step, hphase, hushed, lose, endConnection, pause]
    | shutDown => simp [step, shutDown, hphase, hushed, endConnection, finish]
    | registered topic sink => simp [step, hphase, hushed]
  · rw [hushed_of_not_open hopen]
    exact ⟨rfl, rfl⟩

theorem deliveries_run_of_hushed (config : Config) (l l' : Link) (h : l.hushed = l'.hushed)
    (es : List LinkEvent) : deliveries (l.run config es).2 = deliveries (l'.run config es).2 := by
  induction es generalizing l l' with
  | nil => rfl
  | cons e es ih =>
    obtain ⟨hlink, hfirst⟩ := step_hushed config l e
    obtain ⟨hlink', hfirst'⟩ := step_hushed config l' e
    rw [h] at hlink hfirst
    rw [run, run, deliveries_append, deliveries_append, ← hfirst, ← hfirst',
      ih _ _ (hlink.symm.trans hlink')]

/-- Pushes reach the sinks. Over every run the pushes passed on are those that arrived while a sink was
registered for their topic, in order of arrival, each once and to the sink registered last; so the sinks of a
topic get the arrivals of the topic, a sink gets the arrivals that it was registered last for, and one that
is registered for all topics gets all that arrives. A notification changes nothing about the link, its calls
in flight included. A text that brings no push, whether a response, a notification that is not for this side
or no frame at all, passes nothing on and makes no difference to what is passed on later. -/
theorem pushes_reach_last_sink (config : Config) (es : List LinkEvent) :
    deliveries (effects config es) = (arrivals config [] es).filterMap Arrival.delivery? ∧
    (∀ topic, topicInbox topic (effects config es) =
      ((arrivals config [] es).filter fun a => a.sink?.isSome ∧ a.push.topic = topic).map
        Arrival.push) ∧
    (∀ sink, inbox sink (effects config es) =
      ((arrivals config [] es).filter fun a => a.sink? = some sink).map Arrival.push) ∧
    (∀ before since sink, (∀ topic, registered before topic = some sink) →
      (∀ t s, .registered t s ∉ since) →
        inbox sink ((after config before).run config since).2 =
          (arrivals config before since).map Arrival.push) ∧
    (∀ text topic params,
      Frame.decode text config.maxFrameBytes = .ok (.notification topic params) →
        ((after config es).step config (.received text)).1 = after config es ∧
          answered ((after config es).step config (.received text)).2 = []) ∧
    (∀ text, push? config text = none →
      deliveries ((after config es).step config (.received text)).2 = [] ∧
        ∀ since, deliveries (((after config es).step config (.received text)).1.run config since).2 =
          deliveries ((after config es).run config since).2) := by
  have hall : deliveries (effects config es) = (arrivals config [] es).filterMap Arrival.delivery? :=
    deliveries_run config [] es
  refine ⟨hall, ?_, ?_, ?_, ?_, ?_⟩
  · intro topic
    rw [topicInbox, hall, filter_delivered]
    congr 1
    refine List.filter_congr ?_
    intro a _
    cases a.sink? <;> simp
  · intro sink
    rw [inbox, hall, filter_delivered]
    congr 1
    refine List.filter_congr ?_
    intro a _
    cases a.sink? <;> simp
  · intro before since sink hsink hnone
    rw [inbox, deliveries_run, filter_delivered]
    congr 1
    refine List.filter_eq_self.mpr ?_
    intro a hmem
    rw [sink?_of_mem_arrivals config before since hnone a hmem, hsink]
    simp
  · intro text topic params hdecode
    have hanswer : answer? config text = none := by simp only [answer?, hdecode]
    have hmove := step_move config (after config es) (.received text)
    generalize (after config es).step config (.received text) = r at hmove ⊢
    cases hmove with
    | ignored => exact ⟨rfl, rfl⟩
    | pushed => exact ⟨rfl, answered_pushes _ _ _⟩
    | resolved _ _ _ _ _ _ hsome => simp [hanswer] at hsome
    | confirmed _ _ _ _ _ hsome => simp [hanswer] at hsome
    | unmatched _ _ _ _ _ hsome => simp [hanswer] at hsome
  · intro text hnone
    constructor
    · rw [(step_move config _ _).deliveries]
      simp [hnone]
    · intro since
      exact deliveries_run_of_hushed config _ _ (hushed_receive config _ text) since

/-- Another sink is registered between two pushes, and a call is answered there too. -/
example :
    let config := Config.new "ws://h" ""
    let linked (a b : String) := LinkEvent.received ("\x7b\"method\":\"dashboard_updated\",\"params\":" ++
      "[\x7b\"connectionsAdded\":[\x7b\"nodeA\":\"" ++ a ++ "\",\"nodeB\":\"" ++ b ++ "\"\x7d]\x7d]\x7d")
    let links : Push → Option (List HubConsole.Link)
      | .network delta => delta.linksAdded
      | .node _ => none
    let es := [.registered .network 3, .attempted, .connected true, .queued ⟨7, "log_getTargets", .array []⟩,
      .taken true, linked "a" "b", .registered .network 4, .received "\x7b\"id\":2,\"result\":null\x7d",
      linked "b" "a"]
    (after config es).state = .open ∧ answered (effects config es) = [7] ∧
      (deliveries (effects config es)).map (fun d => (d.1, links d.2)) =
        [(3, some [⟨"a", "b"⟩]), (4, some [⟨"b", "a"⟩])] := by
  decide +kernel

end Link
end HubConsole.Session
