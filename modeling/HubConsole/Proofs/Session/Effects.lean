import HubConsole.Session.Link

namespace HubConsole.Session

open HubConsole.Json HubConsole.Rpc

/-- The id that a text answers, and the reply it makes: the outcome of a response, or the error of a text
that is no frame. -/
def answer? (config : Config) (text : String) : Option (Nat × Reply) :=
  match Frame.decode text config.maxFrameBytes with
  | .error e => ((Frame.recoverId? text).bind Id.toNat?).map fun n => (n, .error (.frame e))
  | .ok (.response id outcome) => id.toNat?.map fun n => (n, .ok outcome)
  | .ok (.notification _ _) => none

theorem answer?_eq_some_ok_iff (config : Config) (text : String) (n : Nat) (outcome : Outcome) :
    answer? config text = some (n, .ok outcome) ↔
      ∃ id, Frame.decode text config.maxFrameBytes = .ok (.response id outcome) ∧
        id.toNat? = some n := by
  unfold answer?
  cases h : Frame.decode text config.maxFrameBytes with
  | error e =>
    simp only [Option.map_eq_some_iff, Prod.mk.injEq, reduceCtorEq, and_false, exists_false,
      false_and]
  | ok frame =>
    cases frame with
    | notification topic params => simp
    | response id outcome' =>
      simp only [Option.map_eq_some_iff, Prod.mk.injEq, Except.ok.injEq, Frame.response.injEq]
      constructor
      · intro h
        obtain ⟨m, hm, rfl, rfl⟩ := h
        exact ⟨id, ⟨rfl, rfl⟩, hm⟩
      · intro h
        obtain ⟨id', ⟨rfl, rfl⟩, hn⟩ := h
        exact ⟨n, hn, rfl, rfl⟩

theorem answer?_error (config : Config) (text : String) (n : Nat) (e : CallError)
    (h : answer? config text = some (n, .error e)) : ∃ fault, e = .frame fault := by
  unfold answer? at h
  split at h
  · obtain ⟨m, -, he⟩ := Option.map_eq_some_iff.mp h
    simp only [Prod.mk.injEq, Except.error.injEq] at he
    exact ⟨_, he.2.symm⟩
  · obtain ⟨m, -, he⟩ := Option.map_eq_some_iff.mp h
    simp at he
  · cases h

@[simp] def LinkEvent.text? : LinkEvent → Option String
  | .received text => some text
  | _ => none

namespace LinkEffect

@[simp] def ticket? : LinkEffect → Option Nat
  | .replied ticket _ => some ticket
  | _ => none

@[simp] def request? : LinkEffect → Option Request
  | .sent request => some request
  | _ => none

end LinkEffect

/-- The tickets that effects reply to, in order. -/
def answered (effects : List LinkEffect) : List Nat := effects.filterMap LinkEffect.ticket?

/-- The requests that effects put on the wire, in order. -/
def wire (effects : List LinkEffect) : List Request := effects.filterMap LinkEffect.request?

@[simp] theorem answered_nil : answered [] = [] := rfl

@[simp] theorem answered_cons (f : LinkEffect) (fs : List LinkEffect) :
    answered (f :: fs) = f.ticket?.toList ++ answered fs := by
  unfold answered
  rw [List.filterMap_cons]
  cases f.ticket? <;> rfl

@[simp] theorem wire_nil : wire [] = [] := rfl

@[simp] theorem wire_cons (f : LinkEffect) (fs : List LinkEffect) :
    wire (f :: fs) = f.request?.toList ++ wire fs := by
  unfold wire
  rw [List.filterMap_cons]
  cases f.request? <;> rfl

@[simp] theorem answered_append (fs gs : List LinkEffect) :
    answered (fs ++ gs) = answered fs ++ answered gs :=
  List.filterMap_append

@[simp] theorem wire_append (fs gs : List LinkEffect) :
    wire (fs ++ gs) = wire fs ++ wire gs :=
  List.filterMap_append

theorem mem_answered_iff (effects : List LinkEffect) (ticket : Nat) :
    ticket ∈ answered effects ↔ ∃ reply, .replied ticket reply ∈ effects := by
  unfold answered
  rw [List.mem_filterMap]
  constructor
  · intro h
    obtain ⟨effect, hmem, ht⟩ := h
    cases effect <;> simp only [LinkEffect.ticket?, Option.some.injEq, reduceCtorEq] at ht
    exact ⟨_, ht ▸ hmem⟩
  · intro h
    obtain ⟨reply, hmem⟩ := h
    exact ⟨_, hmem, rfl⟩

namespace Pending

/-- The tickets of the calls in flight. -/
def tickets (pending : Pending) : List Nat :=
  pending.filterMap fun p =>
    match p.2 with
    | .call ticket => some ticket
    | .subscription => none

@[simp] theorem answered_failAll (pending : Pending) (e : CallError) :
    answered (pending.failAll e) = pending.tickets := by
  unfold answered failAll tickets
  rw [List.filterMap_filterMap]
  congr 1
  funext p
  cases p.2 <;> rfl

theorem mem_failAll_iff (pending : Pending) (e : CallError) (effect : LinkEffect) :
    effect ∈ pending.failAll e ↔
      ∃ id ticket, (id, Entry.call ticket) ∈ pending ∧ effect = .replied ticket (.error e) := by
  unfold failAll
  rw [List.mem_filterMap]
  constructor
  · intro h
    obtain ⟨⟨id, entry⟩, hmem, he⟩ := h
    cases entry with
    | call ticket => exact ⟨id, ticket, hmem, (Option.some.inj he).symm⟩
    | subscription => cases he
  · intro h
    obtain ⟨id, ticket, hmem, rfl⟩ := h
    exact ⟨(id, .call ticket), hmem, rfl⟩

/-- Whatever takes no notice of replies finds nothing here. -/
theorem filterMap_failAll {α : Type} (f : LinkEffect → Option α)
    (hf : ∀ ticket reply, f (.replied ticket reply) = none) (pending : Pending) (e : CallError) :
    (pending.failAll e).filterMap f = [] := by
  refine List.filterMap_eq_nil_iff.mpr ?_
  intro effect hmem
  obtain ⟨id, ticket, -, rfl⟩ := (mem_failAll_iff _ _ _).mp hmem
  exact hf ticket _

@[simp] theorem wire_failAll (pending : Pending) (e : CallError) : wire (pending.failAll e) = [] :=
  filterMap_failAll _ (fun _ _ => rfl) pending e

theorem replied_mem_failAll (pending : Pending) (e : CallError) (ticket : Nat) (reply : Reply)
    (h : .replied ticket reply ∈ pending.failAll e) : reply = .error e := by
  obtain ⟨id, t, -, he⟩ := (Pending.mem_failAll_iff _ _ _).mp h
  exact (LinkEffect.replied.inj he).2

/-- The entry that is found is the one that is erased. -/
theorem entry?_eq_some (pending : Pending) (id : Nat) (entry : Entry)
    (h : pending.entry? id = some entry) :
    ∃ before after, pending = before ++ (id, entry) :: after ∧
      pending.erase id = before ++ after := by
  obtain ⟨⟨id', entry'⟩, hfind, he⟩ := Option.map_eq_some_iff.mp h
  obtain ⟨hid, before, after, hsplit, hbefore⟩ := List.find?_eq_some_iff_append.mp hfind
  have hsame : id' = id := by simpa using hid
  subst hsame
  change entry' = entry at he
  subst he
  refine ⟨before, after, hsplit, ?_⟩
  unfold erase
  rw [hsplit, List.eraseP_append_right]
  · simp
  · intro p hp
    simpa using hbefore p hp

/-- Where no id occurs twice, only one entry is erased. -/
theorem mem_erase_iff (pending : Pending) (id : Nat) (entry : Entry)
    (hinc : pending.Pairwise fun p q => p.1 < q.1) (h : pending.entry? id = some entry)
    (p : Nat × Entry) : p ∈ pending.erase id ↔ p ∈ pending ∧ p.1 ≠ id := by
  obtain ⟨before, after, hsplit, herase⟩ := entry?_eq_some pending id entry h
  rw [hsplit] at hinc
  rw [herase, hsplit, List.mem_append, List.mem_append, List.mem_cons]
  obtain ⟨-, hafter, hbefore⟩ := List.pairwise_append.mp hinc
  have hless : ∀ q ∈ before, q.1 < id := fun q hq => hbefore q hq _ List.mem_cons_self
  have hmore : ∀ q ∈ after, id < q.1 := (List.pairwise_cons.mp hafter).1
  constructor
  · intro h
    rcases h with hmem | hmem
    · exact ⟨.inl hmem, Nat.ne_of_lt (hless p hmem)⟩
    · exact ⟨.inr (.inr hmem), Nat.ne_of_gt (hmore p hmem)⟩
  · intro h
    obtain ⟨hmem | rfl | hmem, hne⟩ := h
    · exact .inl hmem
    · exact absurd rfl hne
    · exact .inr hmem

theorem entry?_unique (pending : Pending) (id : Nat) (entry entry' : Entry)
    (hinc : pending.Pairwise fun p q => p.1 < q.1) (h : pending.entry? id = some entry)
    (hmem : (id, entry') ∈ pending) : entry = entry' := by
  obtain ⟨before, after, hsplit, herase⟩ := entry?_eq_some pending id entry h
  have hgone : (id, entry') ∉ before ++ after := by
    rw [← herase, mem_erase_iff pending id entry hinc h]
    simp
  rw [List.mem_append, not_or] at hgone
  rw [hsplit, List.mem_append, List.mem_cons] at hmem
  rcases hmem with hmem | hmem | hmem
  · exact absurd hmem hgone.1
  · exact (Prod.mk.inj hmem).2.symm
  · exact absurd hmem hgone.2

theorem entry?_eq_none (pending : Pending) (id : Nat) (h : pending.entry? id = none)
    (p : Nat × Entry) (hmem : p ∈ pending) : p.1 ≠ id := by
  unfold entry? at h
  rw [Option.map_eq_none_iff, List.find?_eq_none] at h
  simpa using h p hmem

@[simp] theorem tickets_nil : tickets [] = [] := rfl

@[simp] theorem tickets_append (fs gs : Pending) : tickets (fs ++ gs) = tickets fs ++ tickets gs :=
  List.filterMap_append

@[simp] theorem tickets_cons (id : Nat) (entry : Entry) (rest : Pending) :
    tickets ((id, entry) :: rest) =
      (match entry with
        | .call ticket => [ticket]
        | .subscription => []) ++ tickets rest := by
  cases entry <;> rfl

theorem count_tickets_erase (pending : Pending) (id : Nat) (entry : Entry) (ticket : Nat)
    (h : pending.entry? id = some entry) :
    pending.tickets.count ticket =
      (pending.erase id).tickets.count ticket + (if entry = .call ticket then 1 else 0) := by
  obtain ⟨before, after, hsplit, herase⟩ := entry?_eq_some pending id entry h
  rw [herase, hsplit, tickets_append, tickets_append, tickets_cons]
  cases entry with
  | call t =>
    simp only [List.count_append, List.count_cons, List.count_nil, Entry.call.injEq, beq_iff_eq]
    omega
  | subscription => simp

end Pending

namespace Link

@[simp] theorem answered_failQueue (queue : List Call) (e : CallError) :
    answered (failQueue queue e) = queue.map Call.ticket := by
  induction queue with
  | nil => rfl
  | cons c queue ih =>
    change answered (.replied c.ticket (.error e) :: failQueue queue e) = _
    rw [answered_cons, ih]
    rfl

theorem filterMap_failQueue {α : Type} (f : LinkEffect → Option α)
    (hf : ∀ ticket reply, f (.replied ticket reply) = none) (queue : List Call) (e : CallError) :
    (failQueue queue e).filterMap f = [] := by
  refine List.filterMap_eq_nil_iff.mpr ?_
  intro effect hmem
  obtain ⟨c, -, rfl⟩ := List.mem_map.mp hmem
  exact hf c.ticket _

@[simp] theorem wire_failQueue (queue : List Call) (e : CallError) :
    wire (failQueue queue e) = [] :=
  filterMap_failQueue _ (fun _ _ => rfl) queue e

theorem replied_mem_failQueue (queue : List Call) (e : CallError) (ticket : Nat) (reply : Reply)
    (h : .replied ticket reply ∈ failQueue queue e) : reply = .error e := by
  obtain ⟨c, -, he⟩ := List.mem_map.mp h
  exact (LinkEffect.replied.inj he).2.symm

/-- What a notification passes on to the sinks. -/
def pushes (config : Config) (l : Link) (text : String) : List LinkEffect :=
  match Frame.decode text config.maxFrameBytes with
  | .ok (.notification topic params) =>
    match Push.ofNotification topic params with
    | .ok (some push) => l.deliver push
    | _ => []
  | _ => []

theorem receive_of_answer (config : Config) (l : Link) (pending : Pending) (text : String) (n : Nat)
    (reply : Reply) (h : answer? config text = some (n, reply)) :
    l.receive config pending text = pending.resolve (some n) reply := by
  unfold answer? at h
  unfold receive
  cases hdecode : Frame.decode text config.maxFrameBytes with
  | error e =>
    simp only [hdecode] at h
    obtain ⟨m, hm, he⟩ := Option.map_eq_some_iff.mp h
    obtain ⟨rfl, rfl⟩ := Prod.mk.inj he
    simp only [hm]
  | ok frame =>
    simp only [hdecode] at h
    cases frame with
    | response id outcome =>
      obtain ⟨m, hm, he⟩ := Option.map_eq_some_iff.mp h
      obtain ⟨rfl, rfl⟩ := Prod.mk.inj he
      simp only [hm]
    | notification topic params => cases h

theorem receive_of_no_answer (config : Config) (l : Link) (pending : Pending) (text : String)
    (h : answer? config text = none) :
    l.receive config pending text = (pending, l.pushes config text) := by
  unfold answer? at h
  unfold receive pushes
  cases hdecode : Frame.decode text config.maxFrameBytes with
  | error e =>
    simp only [hdecode] at h
    simp only [Option.map_eq_none_iff.mp h]
    rfl
  | ok frame =>
    simp only [hdecode] at h
    cases frame with
    | response id outcome =>
      simp only [Option.map_eq_none_iff.mp h]
      rfl
    | notification topic params =>
      dsimp only
      cases Push.ofNotification topic params with
      | error fault => rfl
      | ok push? =>
        cases push? with
        | none => rfl
        | some push => rfl

theorem mem_pushes (config : Config) (l : Link) (text : String) (effect : LinkEffect)
    (h : effect ∈ l.pushes config text) : ∃ sink push, effect = .delivered sink push := by
  unfold pushes at h
  split at h
  · split at h
    · unfold deliver at h
      split at h
      · exact ⟨_, _, List.mem_singleton.mp h⟩
      · cases h
    · cases h
  · cases h

theorem filterMap_pushes {α : Type} (f : LinkEffect → Option α)
    (hf : ∀ sink push, f (.delivered sink push) = none) (config : Config) (l : Link)
    (text : String) : (l.pushes config text).filterMap f = [] := by
  refine List.filterMap_eq_nil_iff.mpr ?_
  intro effect hmem
  obtain ⟨sink, push, rfl⟩ := mem_pushes config l text _ hmem
  exact hf sink push

@[simp] theorem answered_pushes (config : Config) (l : Link) (text : String) :
    answered (l.pushes config text) = [] :=
  filterMap_pushes _ (fun _ _ => rfl) config l text

@[simp] theorem wire_pushes (config : Config) (l : Link) (text : String) :
    wire (l.pushes config text) = [] :=
  filterMap_pushes _ (fun _ _ => rfl) config l text

/-- Whether the user is told that the hub is gone is nothing to the callers. -/
@[simp] theorem answered_announcement (told : Bool) :
    answered (if told then [] else [.notified .hubUnreachable]) = [] := by
  cases told <;> rfl

@[simp] theorem wire_announcement (told : Bool) :
    wire (if told then [] else [.notified .hubUnreachable]) = [] := by
  cases told <;> rfl

end Link

end HubConsole.Session
