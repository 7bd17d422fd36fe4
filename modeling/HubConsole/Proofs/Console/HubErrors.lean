import HubConsole.Proofs.Console.Duties
import HubConsole.Proofs.Console.LogRequests

namespace HubConsole.Console

open HubConsole.Dashboard HubConsole.Json HubConsole.Rpc HubConsole.Session

namespace Command

/-- Whether the command ends by itself. -/
def IsOneShot : Command → Prop
  | .watch _ _ _ => False
  | .logs options => options.follow = false
  | .network _ _ | .nodeInfo _ | .nodeStart _ _ | .nodeStop _ | .nodeUpdate _ _ _ _ | .targets
  | .graph _ _ | .rpc _ _ => True

/-- Whether the command shows what the hub answers as it is. -/
def IsRaw : Command → Prop
  | .rpc _ _ => True
  | _ => False

/-- The notice for the code of an error. Three codes have one whatever is called, and three more when a node
is started. -/
def notice? (cmd : Command) (code : Int) : Option Notice :=
  if code = 0 then some .nodeNotRunning
  else if code = -1 then some .agentNotFound
  else if code = -32603 then some .internalError
  else
    match cmd with
    | .nodeStart node _ =>
      if code = -10001 then some (.alreadyRunning node)
      else if code = -10002 then some (.envParse node)
      else if code = -10003 then some (.updating node)
      else none
    | _ => none

/-- What is due for an error that answers a call of the command. -/
def report (cmd : Command) (e : ErrorObject) : Report :=
  match cmd.notice? e.code with
  | some notice => .told notice
  | none =>
    match cmd with
    | .rpc _ _ => .shown e
    | _ => .failed e

end Command

/-- Every error that the hub answers with in the course is reported, and just once. There is a notice for each
that calls for one and there are no other notices; the command fails with the one error that is to fail it and
with no other, and a last error that is told or shown lets it end well; a raw call prints the error that is to
be shown, and nothing else. -/
structure ErrorsReported (cmd : Command) (c : Course) : Prop where
  ends : ∃ result, c.result = some result
  notices : c.notices = (c.reports cmd.report).filterMap Report.notice?
  failures : c.failure?.toList = (c.reports cmd.report).filterMap Report.failure?
  endsWell : ∀ asked x e, c.exchanges = asked ++ [x] → hubError? x.reply = some e →
    (cmd.report e).failure? = none → c.result = some (.ok ())
  documents : cmd.IsRaw → c.reports cmd.report ≠ [] →
    c.printed = (c.reports cmd.report).filterMap Report.document?

theorem Settles.showDetail {report : ErrorObject → Report} (s : Settings) (b : Board) (node : String)
    (d : Node.Detail) (next : Board → Dialogue) (h : ∀ b, Settles report .free (next b)) :
    Settles report .free (Commands.showDetail s b node d next) := by
  unfold Commands.showDetail
  dsimp only
  split
  · exact .print _ _ (h _)
  · exact h _

namespace Usual

variable {report : ErrorObject → Report}

theorem refreshNetwork (hu : Usual report) (b : Board) (next : Board → Dialogue)
    (h : ∀ b, Settles report .free (next b)) : Settles report .free (Commands.refreshNetwork b next) := by
  unfold Commands.refreshNetwork
  dsimp only
  split
  · exact hu.call _ _ _ (fun _ => rfl) (fun _ => h _) (fun _ => h _)
  · exact h b

theorem refreshTargets (hu : Usual report) (b : Board) (next : Board → Dialogue)
    (h : ∀ b, Settles report .free (next b)) : Settles report .free (Commands.refreshTargets b next) := by
  unfold Commands.refreshTargets
  dsimp only
  split
  · exact hu.call _ _ _ (fun _ => rfl) (fun _ => h _) (fun _ => h _)
  · exact h b

theorem network (hu : Usual report) (s : Settings) (b : Board) (key : Node.SortKey) (descending : Bool) :
    Settles report .free (Commands.network s b key descending fun _ => .stop) :=
  hu.refreshNetwork b _ fun _ => .state _ fun _ => .print _ _ (.print _ _ .stop)

theorem nodeInfo (hu : Usual report) (s : Settings) (b : Board) (node : String) :
    Settles report .free (Commands.nodeInfo s b node fun _ => .stop) :=
  hu.call _ _ _ (fun _ => rfl) (fun d => Settles.showDetail s b node d _ fun _ => .stop) (fun _ => .stop)

theorem nodeStop (hu : Usual report) (s : Settings) (b : Board) (node : String) :
    Settles report .free (Commands.nodeStop s b node) :=
  hu.call _ _ _ (fun _ => rfl) (fun d => Settles.showDetail s b node d _ fun _ => .stop) (fun _ => .stop)

theorem nodeUpdate (hu : Usual report) (node : String) (commit binaryUrl checksum : Option String) :
    Settles report .excused (Commands.nodeUpdate node commit binaryUrl checksum) := by
  unfold Commands.nodeUpdate
  split
  · exact .fail _ rfl
  · exact .goOn _ (hu.call _ _ _ (fun _ => rfl) (fun _ => .print _ _ .stop) (fun _ => .stop))

theorem fetchPage (hu : Usual report) (b : Board) (next : Board → Dialogue)
    (h : ∀ b, Settles report .free (next b)) : Settles report .free (Commands.fetchPage b next) := by
  unfold Commands.fetchPage
  exact hu.call _ _ _ (fun _ => rfl) (fun _ => h _) (fun _ => h _)

theorem fetchMore (hu : Usual report) (b : Board) (next : Board → Dialogue)
    (h : ∀ b, Settles report .free (next b)) (left : Nat) :
    Settles report .free (Commands.fetchMore b next left) := by
  induction left generalizing b with
  | zero => exact h b
  | succ left ih =>
    unfold Commands.fetchMore
    split
    · exact h b
    · exact hu.fetchPage _ _ ih

theorem showQuery (hu : Usual report) (o : LogsOptions) (b : Board) :
    Settles report .free (Commands.showQuery o b) := by
  refine hu.fetchPage _ _ fun b => hu.fetchMore b _ (fun b => ?_) _
  split
  · exact .print _ _ .stop
  · exact .stop

theorem chooseTargets (hu : Usual report) (o : LogsOptions) (b : Board) :
    Settles report .free (Commands.chooseTargets o b) := by
  unfold Commands.chooseTargets
  split
  · exact hu.refreshTargets b _ (hu.showQuery o)
  · exact hu.showQuery o b

theorem logs (hu : Usual report) (b : Board) (o : LogsOptions) (hfollow : o.follow = false) :
    Settles report .free (Commands.logs b o) := by
  rw [Commands.logs_eq b o hfollow]
  split
  · exact hu.refreshNetwork b _ (hu.chooseTargets o)
  · exact hu.chooseTargets o b

theorem targets (hu : Usual report) (b : Board) : Settles report .free (Commands.targets b) := by
  refine hu.refreshTargets b _ fun b => ?_
  split
  · exact .print _ _ .stop
  · exact .stop

theorem showTraffic (hu : Usual report) (b : Board) (m : Method (Graph.Rows Graph.NodeRow)) :
    Settles report .free (Commands.showTraffic b m) :=
  hu.call _ _ _ (fun _ => rfl) (fun _ => .print _ _ .stop) (fun _ => .stop)

theorem graph (hu : Usual report) (b : Board) (kind : GraphKind) (o : GraphOptions) :
    Settles report .free (Commands.graph b kind o) := by
  unfold Commands.graph
  cases kind with
  | all | average => exact hu.showTraffic _ _
  | node node => exact hu.call _ _ _ (fun _ => rfl) (fun _ => .print _ _ .stop) (fun _ => .stop)

end Usual

namespace Command

/-- A code with a meaning in common is told whatever the command is. -/
theorem notice?_of_common (cmd : Command) (code : Int) (common : CommonError)
    (h : CommonError.ofCode? code = some common) : cmd.notice? code = some (.ofCommon common) := by
  obtain rfl := (CommonError.ofCode?_eq_some_iff code common).mp h
  cases common <;> rfl

theorem report_of_common (cmd : Command) (e : ErrorObject) (common : CommonError)
    (h : CommonError.ofCode? e.code = some common) : cmd.report e = .told (.ofCommon common) := by
  unfold report
  rw [cmd.notice?_of_common e.code common h]

/-- A code that has no meaning in common is told only if a node is started. -/
theorem notice?_of_other (cmd : Command) (code : Int) (h : CommonError.ofCode? code = none) :
    cmd.notice? code =
      match cmd with
      | .nodeStart node _ =>
        if code = -10001 then some (.alreadyRunning node)
        else if code = -10002 then some (.envParse node)
        else if code = -10003 then some (.updating node)
        else none
      | _ => none := by
  unfold CommonError.ofCode? at h
  split at h
  · cases h
  · next hzero =>
    split at h
    · cases h
    · next hone =>
      split at h
      · cases h
      · next hinternal =>
        unfold notice?
        rw [if_neg hzero, if_neg hone, if_neg hinternal]

/-- Only a start and a raw call deal with errors in a way of their own. -/
def IsUsual : Command → Prop
  | .nodeStart _ _ | .rpc _ _ => False
  | _ => True

theorem usual_report (cmd : Command) (husual : cmd.IsUsual) : Usual cmd.report where
  common := cmd.report_of_common
  other := by
    intro e h
    have hnotice := cmd.notice?_of_other e.code h
    unfold report
    cases cmd with
    | nodeStart | rpc => exact husual.elim
    | network | nodeInfo | nodeStop | nodeUpdate | logs | targets | graph | watch => rw [hnotice]

theorem report_nodeStart (node : String) (option : Node.StartOption) (e : ErrorObject)
    (h : CommonError.ofCode? e.code = none) :
    (Command.nodeStart node option).report e =
      if e.code = -10001 then .told (.alreadyRunning node)
      else if e.code = -10002 then .told (.envParse node)
      else if e.code = -10003 then .told (.updating node)
      else .failed e := by
  unfold report
  rw [notice?_of_other _ e.code h]
  split_ifs <;> rfl

theorem report_rpc (method : String) (params : Option String) (e : ErrorObject)
    (h : CommonError.ofCode? e.code = none) : (Command.rpc method params).report e = .shown e := by
  unfold report
  rw [notice?_of_other _ e.code h]

end Command

theorem settleStart_of_common (node : String) (option : Node.StartOption) (e : ErrorObject)
    (common : CommonError) (h : CommonError.ofCode? e.code = some common) :
    settleStart node option (.ok (.error e)) = (.ok (.suppressed common), [.ofCommon common]) := by
  unfold settleStart Method.settle settle
  dsimp only
  rw [h]

theorem settleStart_of_other (node : String) (option : Node.StartOption) (e : ErrorObject)
    (h : CommonError.ofCode? e.code = none) :
    settleStart node option (.ok (.error e)) =
      (.error (StartError.ofCall node (.rpc e)).1, (StartError.ofCall node (.rpc e)).2) := by
  unfold settleStart Method.settle settle
  dsimp only
  rw [h]
  rfl

/-- The codes that a start has for itself are told like the ones in common. -/
theorem settles_nodeStart (s : Settings) (b : Board) (node : String) (option : Node.StartOption) :
    Settles (Command.nodeStart node option).report .free (Commands.nodeStart s b node option) := by
  refine .ask _ _ _ fun reply hreply => ?_
  match reply with
  | .error e =>
    cases e with
    | rpc o => exact absurd rfl (hreply o)
    | timeout | closed | connectionClosed | frame | decode => exact .fail _ rfl
  | .ok (.ok v) =>
    unfold settleStart Method.settle settle
    dsimp only
    cases (Hub.nodeStart node option).read.ofValue v with
    | ok d => exact .goOn _ (.showDetail s b node d _ fun _ => .stop)
    | error _ => exact .fail _ rfl
  | .ok (.error e) =>
    -- The codes in common come first, and none of them is one of the start's own.
    show Settles _ (.due ((Command.nodeStart node option).report e)) _
    dsimp only
    cases hcode : CommonError.ofCode? e.code with
    | some common =>
      rw [Command.report_of_common _ e common hcode, settleStart_of_common node option e common hcode]
      exact .told _ _ .stop
    | none =>
      rw [Command.report_nodeStart node option e hcode, settleStart_of_other node option e hcode]
      unfold StartError.ofCall alreadyRunningCode envParseCode updatingCode
      dsimp only
      by_cases hrunning : e.code = -10001
      · rw [if_pos hrunning, if_pos hrunning]
        exact .told _ _ .stop
      rw [if_neg hrunning, if_neg hrunning]
      by_cases hparse : e.code = -10002
      · rw [if_pos hparse, if_pos hparse]
        exact .told _ _ .stop
      rw [if_neg hparse, if_neg hparse]
      by_cases hupdating : e.code = -10003
      · rw [if_pos hupdating, if_pos hupdating]
        exact .told _ _ .stop
      rw [if_neg hupdating, if_neg hupdating]
      exact .failed _ e

/-- A raw call shows what other calls fail with. -/
theorem settles_rpc (method : String) (params : Option String) :
    Settles (Command.rpc method params).report .excused (Commands.rpc method params) := by
  unfold Commands.rpc
  dsimp only
  split
  · next failure hfailure =>
    refine .fail _ ?_
    split at hfailure
    · cases hfailure
    · split at hfailure
      · cases hfailure
      · obtain rfl := Except.error.inj hfailure
        rfl
  · refine .goOn _ (.call (Command.rpc method params).report_of_common _ _ (fun v => .print _ _ .stop)
      (fun _ => .stop) (fun e he => ?_) (fun e hcode => ?_))
    · cases e with
      | rpc o => exact absurd rfl (he o)
      | timeout | closed | connectionClosed | frame | decode => exact .fail _ rfl
    · rw [Command.report_rpc method params e hcode]
      exact .shown e

/-- A command that ends by itself settles what its replies call for. -/
theorem settles_dialogue (s : Settings) (now : Time.Instant) (cmd : Command) (h : cmd.IsOneShot) :
    Settles cmd.report .excused (cmd.dialogue s now) := by
  cases cmd with
  | network key descending =>
    exact .goOn _ ((Command.usual_report (.network key descending) trivial).network ..)
  | nodeInfo node => exact .goOn _ ((Command.usual_report (.nodeInfo node) trivial).nodeInfo ..)
  | nodeStart node option => exact .goOn _ (settles_nodeStart ..)
  | nodeStop node => exact .goOn _ ((Command.usual_report (.nodeStop node) trivial).nodeStop ..)
  | nodeUpdate node commit url checksum =>
    exact (Command.usual_report (.nodeUpdate node commit url checksum) trivial).nodeUpdate ..
  | logs options => exact .goOn _ ((Command.usual_report (.logs options) trivial).logs _ _ h)
  | targets => exact .goOn _ ((Command.usual_report .targets trivial).targets _)
  | graph kind options => exact .goOn _ ((Command.usual_report (.graph kind options) trivial).graph ..)
  | rpc method params => exact settles_rpc method params
  | watch nodes key descending => exact h.elim

/-- What is told of a hub's error is about a call. -/
theorem Command.isOfCall_of_notice? (cmd : Command) (code : Int) (notice : Notice)
    (h : cmd.notice? code = some notice) : notice.isOfCall = true := by
  cases hcode : CommonError.ofCode? code with
  | some common =>
    obtain rfl := Option.some.inj (h.symm.trans (cmd.notice?_of_common code common hcode))
    cases common <;> rfl
  | none =>
    rw [cmd.notice?_of_other code hcode] at h
    cases cmd with
    | nodeStart node option =>
      dsimp only at h
      split_ifs at h <;> obtain rfl := Option.some.inj h <;> rfl
    | _ => cases h

theorem Command.isOfCall_of_report (cmd : Command) (errors : List ErrorObject) :
    ∀ notice ∈ (errors.map cmd.report).filterMap Report.notice?, notice.isOfCall = true := by
  intro notice hmem
  obtain ⟨r, hr, hnotice⟩ := List.mem_filterMap.mp hmem
  obtain ⟨e, -, rfl⟩ := List.mem_map.mp hr
  unfold report at hnotice
  split at hnotice
  · next told htold =>
    obtain rfl := Option.some.inj hnotice
    exact cmd.isOfCall_of_notice? e.code _ htold
  · cases cmd <;> cases hnotice

/-- A raw call that is answered with an error prints what is to be shown of it, and nothing else. -/
theorem printed_rpc (method : String) (params : Option String) (states : List State) (replies : List Reply) :
    let c := (Commands.rpc method params).converse states replies
    let reports := c.reports (Command.rpc method params).report
    reports ≠ [] → c.printed = reports.filterMap Report.document? := by
  unfold Commands.rpc
  dsimp only
  split
  · exact fun h => absurd rfl h
  · next given _ =>
    intro h
    have hcall (next : CallResult Value → Dialogue) :
        (Dialogue.call (Hub.raw method given) next).converse states replies =
        ((Dialogue.raiseAll ((Hub.raw method given).settle (Dialogue.firstReply replies)).2
          (next ((Hub.raw method given).settle (Dialogue.firstReply replies)).1)).converse
            states replies.tail).after [⟨method, given, Dialogue.firstReply replies⟩] [] := rfl
    rw [hcall, Course.reports_after] at h ⊢
    match hreply : Dialogue.firstReply replies with
    | .error e =>
      rw [hreply] at h
      cases e <;> exact absurd rfl h
    | .ok (.ok v) =>
      rw [hreply] at h
      unfold Method.settle settle at h
      dsimp only at h
      split at h <;> exact absurd rfl h
    | .ok (.error e) =>
      unfold Duty.ofReply hubError? Method.settle settle
      dsimp only
      cases hcode : CommonError.ofCode? e.code with
      | some common =>
        rw [Command.report_of_common _ e common hcode]
        rfl
      | none =>
        rw [Command.report_rpc method params e hcode]
        rfl

theorem errorsReported_converse (s : Settings) (now : Time.Instant) (cmd : Command) (h : cmd.IsOneShot)
    (states : List State) (replies : List Reply) (hreplies : ∀ reply ∈ replies, FromSession reply) :
    ErrorsReported cmd ((cmd.dialogue s now).converse states replies) := by
  have hsettled := (settles_dialogue s now cmd h).settled states replies hreplies
  refine ⟨hsettled.ends, hsettled.notices, hsettled.failures, hsettled.endsWell, fun hraw => ?_⟩
  cases cmd with
  | rpc method params => exact printed_rpc method params states replies
  | _ => exact hraw.elim

/-- Every error that the hub answers a command with is reported just once and none is lost, whatever the replies
are: the user is told, with the notice of its kind, and the command does not fail; or a raw call shows the code,
the message and the data, and no notice is raised; or the command fails with the error, and no notice is raised.
So it is in every trial, where the command ends as its dialogue does, prints the same, and nothing else is told
about calls. -/
theorem hub_errors_reported_once (s : Settings) (now : Time.Instant) (cmd : Command) (h : cmd.IsOneShot) :
    let d := cmd.dialogue s now
    (∀ states replies, (∀ reply ∈ replies, FromSession reply) →
      ErrorsReported cmd (d.converse states replies)) ∧
    ∀ config clock script hangUp refuse,
      let t := Trial.start config clock script hangUp refuse
      let c := d.converse (t.seen d) (t.heard d)
      ErrorsReported cmd c ∧ c.result = some (t.run d).2 ∧ (t.run d).1.printed = c.printed ∧
        (t.run d).1.notices.filter Notice.isOfCall = c.notices := by
  intro d
  refine ⟨errorsReported_converse s now cmd h, ?_⟩
  intro config clock script hangUp refuse t c
  have hstart : ∀ reply ∈ t.replies, FromSession reply.2 := fun reply => nofun
  have hreported : ErrorsReported cmd c :=
    errorsReported_converse s now cmd h _ _ (t.fromSession_heard d hstart)
  obtain ⟨result, hresult⟩ := hreported.ends
  obtain ⟨hrun, hprinted⟩ := t.run_eq_converse d result hresult
  have hcalls : c.notices.filter Notice.isOfCall = c.notices := by
    rw [hreported.notices]
    exact List.filter_eq_self.mpr (cmd.isOfCall_of_report _)
  refine ⟨hreported, ?_, hprinted, ?_⟩
  · rw [hrun]
    exact hresult
  · exact ((settles_dialogue s now cmd h).notices_run t hstart).trans hcalls

/-- An error of the environment of a node is told when the node is started. -/
theorem bad_environment_told_at_start :
    let s := Settings.resolve ⟨none, none, none⟩ ⟨none, none, none, none, none⟩
    let cmd := Command.nodeStart "a" ⟨"X", ""⟩
    let e : ErrorObject := ⟨-10002, "no value", none⟩
    let c := (cmd.dialogue s ⟨0, 0⟩).converse [] [.ok (.error e)]
    cmd.IsOneShot ∧ FromSession (.ok (.error e)) ∧ ErrorsReported cmd c ∧ c.notices = [.envParse "a"] ∧
      c.failure?.isNone := by
  intro s cmd e c
  have hreply : FromSession (.ok (.error e)) := fun o => nofun
  have hreported : ErrorsReported cmd c :=
    (hub_errors_reported_once s ⟨0, 0⟩ cmd trivial).1 [] [.ok (.error e)]
      (List.forall_mem_singleton.mpr hreply)
  exact ⟨trivial, hreply, hreported, rfl, rfl⟩

/-- A raw call shows an error with all that it says. -/
example :
    let s := Settings.resolve ⟨none, none, none⟩ ⟨none, none, none, none, none⟩
    let e : ErrorObject := ⟨-32000, "no such node", some (.array [.string "x", .null])⟩
    let c := ((Command.rpc "node_getInfo" (some "[\"x\"]")).dialogue s ⟨0, 0⟩).converse [] [.ok (.error e)]
    c.printed = ["\x7b\n  \"code\": -32000,\n  \"data\": [\n    \"x\",\n    null\n  ],\n" ++
      "  \"message\": \"no such node\"\n\x7d"] := by
  decide +kernel

end HubConsole.Console
