import HubConsole.Proofs.Console.TrialRun
import HubConsole.Proofs.Json.Indented

namespace HubConsole.Console

open HubConsole.Json HubConsole.Rpc HubConsole.Session

/-- What is due for an error that the hub answers with. -/
inductive Report where
  | told (notice : Notice)
  | shown (error : ErrorObject)
  | failed (error : ErrorObject)

namespace Report

def notice? : Report → Option Notice
  | .told notice => some notice
  | .shown _ | .failed _ => none

/-- The text that shows the error. -/
def document? : Report → Option String
  | .shown e => some (Value.indentedText (.object
      [("code", .ofInt e.code), ("data", e.data.getD .null), ("message", .string e.message)]))
  | .told _ | .failed _ => none

def failure? : Report → Option ErrorObject
  | .failed e => some e
  | .told _ | .shown _ => none

/-- The text that shows an error is read as an object with its code, its data and its message. -/
theorem ofText_document {e : ErrorObject} {text : String} (h : (shown e).document? = some text)
    (hcode : Fits e.code) (hdata : ∀ x ∈ (e.data.getD .null).doubles, ReadsBack x) :
    Source.ofText text =
      (.object [(some "code", .number (some (.int e.code hcode))),
        (some "data", (e.data.getD .null).toSource), (some "message", .string (some e.message))] true,
        true) := by
  have hnumber : Value.ofInt e.code = .number (.int e.code hcode) := dif_pos hcode
  obtain rfl := Option.some.inj h
  rw [hnumber]
  refine Source.ofText_indentedText _ ?_
  intro x hx
  simp only [Value.doubles, Value.memberDoubles, List.nil_append, List.append_nil] at hx
  exact hdata x hx

end Report

/-- The error that the hub answers with. -/
def hubError? : Reply → Option ErrorObject
  | .ok (.error e) => some e
  | .ok (.ok _) | .error _ => none

/-- What is due for the errors in a course, in the order in which they came. -/
def Course.reports (report : ErrorObject → Report) (c : Course) : List Report :=
  (c.exchanges.filterMap fun x => hubError? x.reply).map report

/-- The error of the hub that a failure carries. -/
def Failure.hubError? : Failure → Option ErrorObject
  | .call _ (.rpc e) => some e
  | _ => none

/-- The error of the hub that the command fails with. -/
def Course.failure? (c : Course) : Option ErrorObject :=
  match c.result with
  | some (.error f) => f.hubError?
  | _ => none

/-- What a dialogue owes. -/
inductive Duty where
  /-- Nothing; it goes on or ends well. -/
  | free
  /-- Nothing; it may fail for a reason of its own. -/
  | excused
  | due (report : Report)

namespace Duty

/-- What a reply makes of it. -/
def ofReply (report : ErrorObject → Report) (reply : Reply) : Duty :=
  match hubError? reply with
  | some e => .due (report e)
  | none => .excused

def report? : Duty → Option Report
  | .due report => some report
  | .free | .excused => none

/-- Nothing speaks for a failure. -/
def EndsWell : Duty → Prop
  | .free => True
  | .excused => False
  | .due report => report.failure? = none

end Duty

/-- A dialogue that settles what it owes at once, and from then on deals with every reply in this way. What is
due stands in the index, so a dialogue can neither put it off nor forget it. -/
inductive Settles (report : ErrorObject → Report) : Duty → Dialogue → Prop
  | stop : Settles report .free .stop
  | print (text : String) (next : Dialogue) (h : Settles report .free next) :
      Settles report .free (.print text next)
  | state (next : State → Dialogue) (h : ∀ state, Settles report .free (next state)) :
      Settles report .free (.state next)
  | ask (method : String) (params : Value) (next : Reply → Dialogue)
      (h : ∀ reply, FromSession reply → Settles report (.ofReply report reply) (next reply)) :
      Settles report .free (.ask method params next)
  | goOn (d : Dialogue) (h : Settles report .free d) : Settles report .excused d
  | fail (f : Failure) (h : f.hubError? = none) : Settles report .excused (.fail f)
  | told (notice : Notice) (next : Dialogue) (h : Settles report .free next) :
      Settles report (.due (.told notice)) (.raise notice next)
  | shown (e : ErrorObject) :
      Settles report (.due (.shown e)) (.print (Commands.errorDocument e).indentedText .stop)
  | failed (context : String) (e : ErrorObject) :
      Settles report (.due (.failed e)) (.fail (.call context (.rpc e)))

/-- A course that settles what was owed at its start. -/
structure Settled (report : ErrorObject → Report) (duty : Duty) (c : Course) : Prop where
  ends : ∃ result, c.result = some result
  notices : c.notices = (duty.report?.toList ++ c.reports report).filterMap Report.notice?
  failures : c.failure?.toList = (duty.report?.toList ++ c.reports report).filterMap Report.failure?
  unasked : c.exchanges = [] → duty.EndsWell → c.result = some (.ok ())
  endsWell : ∀ asked x e, c.exchanges = asked ++ [x] → hubError? x.reply = some e →
    (report e).failure? = none → c.result = some (.ok ())

theorem Course.reports_after (report : ErrorObject → Report) (x : Exchange) (c : Course) :
    (c.after [x] []).reports report = (Duty.ofReply report x.reply).report?.toList ++ c.reports report := by
  show (List.filterMap (fun x => hubError? x.reply) (x :: c.exchanges)).map report = _
  rw [List.filterMap_cons]
  unfold Duty.ofReply
  cases hubError? x.reply <;> rfl

namespace Settled

variable {report : ErrorObject → Report} {duty : Duty} {c : Course}

/-- In a course without calls there is only what was owed. -/
theorem of_no_exchanges (hnone : c.exchanges = []) (hends : ∃ result, c.result = some result)
    (hnotices : c.notices = (duty.report?.toList ++ c.reports report).filterMap Report.notice?)
    (hfailures : c.failure?.toList = (duty.report?.toList ++ c.reports report).filterMap Report.failure?)
    (hwell : duty.EndsWell → c.result = some (.ok ())) : Settled report duty c where
  ends := hends
  notices := hnotices
  failures := hfailures
  unasked := fun _ => hwell
  endsWell := by
    intro asked x e hexchanges
    rw [hnone] at hexchanges
    exact absurd hexchanges.symm (List.append_ne_nil_of_right_ne_nil asked (List.cons_ne_nil x []))

/-- What a reply calls for is settled in what comes after it. -/
theorem asked (x : Exchange) (h : Settled report (.ofReply report x.reply) c) :
    Settled report .free (c.after [x] []) where
  ends := h.ends
  notices := by
    rw [Course.reports_after]
    exact h.notices
  failures := by
    rw [Course.reports_after]
    exact h.failures
  unasked := nofun
  endsWell := by
    intro asked y e hexchanges herror hreport
    have hsplit : x :: c.exchanges = asked ++ [y] := hexchanges
    -- The reply is the last one, or there is a last one after it.
    rcases List.cons_eq_append_iff.mp hsplit with ⟨rfl, hlast⟩ | ⟨rest, -, hrest⟩
    · obtain ⟨rfl, hnone⟩ := List.cons.inj hlast
      refine h.unasked hnone.symm ?_
      show (Duty.ofReply report y.reply).EndsWell
      unfold Duty.ofReply
      rw [herror]
      exact hreport
    · exact h.endsWell rest y e hrest herror hreport

theorem told (notice : Notice) (h : Settled report .free c) :
    Settled report (.due (.told notice)) (c.after [] [notice]) where
  ends := h.ends
  notices := congrArg (notice :: ·) h.notices
  failures := h.failures
  unasked := fun hnone _ => h.unasked hnone trivial
  endsWell := h.endsWell

end Settled

/-- A dialogue that settles what it owes does so in every course, whatever the replies. -/
theorem Settles.settled {report : ErrorObject → Report} {duty : Duty} {d : Dialogue}
    (h : Settles report duty d) (states : List State) (replies : List Reply)
    (hreplies : ∀ reply ∈ replies, FromSession reply) : Settled report duty (d.converse states replies) := by
  induction h generalizing states replies with
  | stop => exact .of_no_exchanges rfl ⟨_, rfl⟩ rfl rfl fun _ => rfl
  | print text next h ih =>
    obtain ⟨hends, hnotices, hfailures, hunasked, hwell⟩ := ih states replies hreplies
    exact ⟨hends, hnotices, hfailures, hunasked, hwell⟩
  | state next h ih => exact ih _ states.tail replies hreplies
  | ask method params next h ih =>
    have hfirst : FromSession (Dialogue.firstReply replies) := by
      cases replies with
      | nil => exact fun e => nofun
      | cons reply rest => exact hreplies reply List.mem_cons_self
    have hrest : ∀ reply ∈ replies.tail, FromSession reply :=
      fun reply hmem => hreplies reply (List.mem_of_mem_tail hmem)
    exact .asked ⟨method, params, _⟩ (ih _ hfirst states replies.tail hrest)
  | goOn d h ih =>
    obtain ⟨hends, hnotices, hfailures, -, hwell⟩ := ih states replies hreplies
    exact ⟨hends, hnotices, hfailures, nofun, hwell⟩
  | fail f h =>
    refine .of_no_exchanges rfl ⟨_, rfl⟩ rfl ?_ nofun
    show f.hubError?.toList = []
    rw [h]
    rfl
  | told notice next h ih => exact .told notice (ih states replies hreplies)
  | shown e => exact .of_no_exchanges rfl ⟨_, rfl⟩ rfl rfl fun _ => rfl
  | failed context e => exact .of_no_exchanges rfl ⟨_, rfl⟩ rfl rfl nofun

namespace Settles

variable {report : ErrorObject → Report}

/-- A call settles what is due if the errors that all calls have in common are told, and the caller goes on
without the answer and deals with the others. -/
theorem call (hcommon : ∀ e common, CommonError.ofCode? e.code = some common →
      report e = .told (.ofCommon common))
    {α : Type} (m : Method α) (next : CallResult α → Dialogue)
    (hvalue : ∀ a, Settles report .free (next (.ok (.value a))))
    (hsuppressed : ∀ common, Settles report .free (next (.ok (.suppressed common))))
    (hfault : ∀ e, (∀ o, e ≠ .rpc o) → Settles report .excused (next (.error e)))
    (hother : ∀ e, CommonError.ofCode? e.code = none →
      Settles report (.due (report e)) (next (.error (.rpc e)))) :
    Settles report .free (.call m next) := by
  refine .ask m.name m.params _ fun reply hreply => ?_
  match reply with
  | .error e => exact hfault e fun o h => hreply o (by rw [h])
  | .ok (.ok v) =>
    show Settles report .excused
      (.raiseAll (settle m.read m.name (.ok v)).2 (next (settle m.read m.name (.ok v)).1))
    unfold settle
    dsimp only
    split
    · exact .goOn _ (hvalue _)
    · exact hfault _ fun o h => nomatch h
  | .ok (.error e) =>
    show Settles report (.due (report e))
      (.raiseAll (settle m.read m.name (.error e)).2 (next (settle m.read m.name (.error e)).1))
    unfold settle
    dsimp only
    split
    · next common hcode =>
      rw [hcommon e common hcode]
      exact .told _ _ (hsuppressed common)
    · next hcode => exact hother e hcode

end Settles

/-- In a trial the notices about calls are those of the dialogue. -/
theorem Settles.notices_run {report : ErrorObject → Report} {duty : Duty} {d : Dialogue}
    (h : Settles report duty d) (t : Trial) (ht : ∀ reply ∈ t.replies, FromSession reply.2) :
    (t.run d).1.notices.filter Notice.isOfCall =
      (t.notices ++ (d.converse (t.seen d) (t.heard d)).notices).filter Notice.isOfCall := by
  induction h generalizing t with
  | stop | fail | shown | failed =>
    exact congrArg (List.filter Notice.isOfCall) (List.append_nil t.notices).symm
  | print text next h ih => exact ih (t.print text) ht
  | state next h ih => exact ih t.manager.state t ht
  | goOn d h ih => exact ih t ht
  | ask method params next h ih =>
    obtain ⟨hserves, hreply⟩ := t.serves_exchange method params
    have hrun := ih _ (hreply ht) (t.exchange method params).1 (hserves.fromSession ht)
    rw [List.filter_append, hserves.notices, ← List.filter_append] at hrun
    exact hrun
  | told notice next h ih =>
    have hrun := ih { t with notices := t.notices ++ [notice] } ht
    rw [List.append_assoc] at hrun
    exact hrun

/-- Errors are dealt with as in most calls: the ones that all calls have in common are told, and the command
fails with the others. -/
structure Usual (report : ErrorObject → Report) : Prop where
  common : ∀ e common, CommonError.ofCode? e.code = some common → report e = .told (.ofCommon common)
  other : ∀ e, CommonError.ofCode? e.code = none → report e = .failed e

namespace Usual

variable {report : ErrorObject → Report}

theorem call (hu : Usual report) (context : String) {α : Type} (m : Method α)
    (next : CallResult α → Dialogue) (hfail : ∀ e, next (.error e) = .fail (.call context e))
    (hvalue : ∀ a, Settles report .free (next (.ok (.value a))))
    (hsuppressed : ∀ common, Settles report .free (next (.ok (.suppressed common)))) :
    Settles report .free (.call m next) := by
  refine .call hu.common m next hvalue hsuppressed (fun e he => ?_) (fun e hcode => ?_)
  · rw [hfail e]
    refine .fail _ ?_
    cases e with
    | rpc o => exact absurd rfl (he o)
    | timeout | closed | connectionClosed | frame | decode => rfl
  · rw [hfail, hu.other e hcode]
    exact .failed context e

end Usual

end HubConsole.Console
