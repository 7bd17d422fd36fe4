import HubConsole.Proofs.Console.LogPages
import HubConsole.Proofs.Console.LogParams
import HubConsole.Proofs.Dashboard.LogEnd
import HubConsole.Proofs.Session.Endings

namespace HubConsole.Console

open HubConsole.Dashboard HubConsole.Json HubConsole.Log HubConsole.Session

/-- A list is the one that is given; if that is empty the hub is asked, and the list is what it names, or
empty if its answer is an error that is passed over. -/
inductive Chosen {α : Type} [Wire α] (given : List String) (method : String) (names : α → List String) :
    List Exchange → List String → Prop
  | given (h : given ≠ []) : Chosen given method names [] given
  | named (h : given = []) (reply : Reply) (a : α) (hanswer : Gives reply a) :
      Chosen given method names [⟨method, .array [], reply⟩] (names a)
  | suppressed (h : given = []) (reply : Reply) (hanswer : PassedOver reply) :
      Chosen given method names [⟨method, .array [], reply⟩] []

/-- Requests for pages, each with the number of its page and the reply to it: no more than so many, and none
after a page that is not full. -/
structure Paged (size most : Nat) (asked : List (Nat × Reply)) : Prop where
  few : asked.length ≤ most
  full : ∀ earlier a later, asked = earlier ++ a :: later → ∀ a' ∈ earlier, ∀ page : Page,
    Gives a'.2 page → size ≤ page.records.length

/-- The course of a command that asks for records. If the nodes or the targets are to be found out and cannot
be, it fails before it asks for any. Else the records of these are asked for, page by page and beginning with
the first page. All that differs between the requests for records is the page. -/
inductive AsksFor (o : LogsOptions) (c : Course) : Prop
  | withoutNodes (f : Failure) (hresult : c.result = some (.error f)) (h : o.nodes = []) (reply : Reply)
      (hfails : Fails Network reply)
      (hexchanges : c.exchanges = [⟨"dashboard_getNetwork", .array [], reply⟩])
  | withoutTargets (f : Failure) (hresult : c.result = some (.error f)) (forNodes : List Exchange)
      (nodes : List String) (hnodes : Chosen o.nodes "dashboard_getNetwork" Network.names forNodes nodes)
      (h : o.targets = []) (reply : Reply) (hfails : Fails Targets reply)
      (hexchanges : c.exchanges = forNodes ++ [⟨"log_getTargets", .array [], reply⟩])
  | paged (forNodes : List Exchange) (nodes : List String)
      (hnodes : Chosen o.nodes "dashboard_getNetwork" Network.names forNodes nodes)
      (forTargets : List Exchange) (targets : List String)
      (htargets : Chosen o.targets "log_getTargets" Targets.targets forTargets targets)
      (asked : List (Nat × Reply))
      (hexchanges : c.exchanges = forNodes ++ forTargets ++
        asked.map fun a => ⟨"log_get", o.pageParams nodes targets a.1, a.2⟩)
      (hpaged : Paged o.pageSize (max o.pages 1) asked) (hfirst : asked.head?.map Prod.fst = some 1)

end HubConsole.Console

namespace HubConsole.Dashboard.LogQuery

open HubConsole.Log

/-- What is known of a query before the options come to it: these nodes and targets, and else what it starts
with. -/
structure Prepared (nodes targets : List String) (q : LogQuery) : Prop where
  outstanding : q.outstanding = none
  buffer : q.buffer = none
  idle : q.fetchingTargets = false
  filter : q.filter = ⟨nodes, Level.all, targets⟩
  search : q.search = ""
  unbounded : q.window.useFrom = false ∧ q.window.useTo = false
  perPage : q.perPage = defaultPerPage
  direction : q.direction = .newestFirst

variable {nodes targets : List String} {q : LogQuery}

theorem prepared_start (now : Time.Instant) : Prepared [] [] (start now) := by
  constructor <;> first | rfl | exact ⟨rfl, rfl⟩

theorem Prepared.chooseNodes (h : Prepared nodes targets q) (names : List String) :
    Prepared names targets (q.changeFilters { nodes := some names }) where
  outstanding := h.outstanding
  buffer := h.buffer
  idle := h.idle
  filter := by
    show Log.Filter.mk names q.filter.levels q.filter.targets = _
    rw [h.filter]
  search := h.search
  unbounded := h.unbounded
  perPage := h.perPage
  direction := h.direction

theorem Prepared.setTargets (h : Prepared nodes targets q) (names : List String) :
    Prepared nodes names (q.beginTargets.1.setTargets names) where
  outstanding := h.outstanding
  buffer := h.buffer
  idle := rfl
  filter := by
    show Log.Filter.mk q.filter.nodes q.filter.levels names = _
    rw [h.filter]
  search := h.search
  unbounded := h.unbounded
  perPage := h.perPage
  direction := h.direction

theorem Prepared.targetsFailed (h : Prepared nodes targets q) :
    Prepared nodes targets q.beginTargets.1.targetsFailed :=
  ⟨h.outstanding, h.buffer, rfl, h.filter, h.search, h.unbounded, h.perPage, h.direction⟩

/-- The pages that are there were fetched one after another, and unless the end is known all of them are full. -/
structure Browsed (query : PageRequest) (start : Nat) (pages : List (Nat × List Record))
    (q : LogQuery) : Prop extends Fetched query start pages q where
  full : q.noMoreData = false → ∀ page ∈ pages, query.perPage ≤ page.2.length

namespace Browsed

variable {query : PageRequest} {start : Nat} {pages : List (Nat × List Record)}

theorem perPage_eq (h : Browsed query start pages q) : q.perPage = query.perPage :=
  congrArg PageRequest.perPage (h.request q.page)

theorem more_answered (h : Browsed query start pages q) (records : List Record) :
    Browsed query start (pages ++ [(start + pages.length, records)])
      (q.loadMore.respond q.loadMore.lastToken records).1 := by
  refine ⟨h.toFetched.more_answered records, ?_⟩
  have hsize := h.perPage_eq
  rw [loadMore_of_none h.outstanding]
  rw [respond_of_current _ ⟨q.lastToken + 1, true, q.perPage, q.page + 1, q.page⟩ records rfl]
  intro hflag
  simp only [Bool.or_eq_false_iff, decide_eq_false_iff_not] at hflag
  obtain ⟨hbefore, hlong⟩ := hflag
  intro page hmem
  rcases List.mem_append.mp hmem with hmem | hmem
  · exact h.full hbefore page hmem
  · obtain rfl := List.mem_singleton.mp hmem
    show query.perPage ≤ records.length
    omega

theorem more_failed (h : Browsed query start pages q) :
    Browsed query start pages (q.loadMore.fetchFailed q.loadMore.lastToken) := by
  refine ⟨h.toFetched.more_failed, ?_⟩
  rw [(fetchFailed_flag _ _).1, (loadMore_flag q).1]
  exact h.full

theorem first_answered (h : Browsed query 2 [] q) (records : List Record) :
    Browsed query 1 [(1, records)]
      ((q.beginFetch false).respond (q.beginFetch false).lastToken records).1 := by
  refine ⟨h.toFetched.first_answered records, ?_⟩
  have hsize := h.perPage_eq
  rw [beginFetch_of_none h.outstanding]
  rw [respond_of_current _ ⟨q.lastToken + 1, false, q.perPage, q.page, q.page⟩ records rfl]
  intro hflag
  simp only [Bool.or_eq_false_iff, decide_eq_false_iff_not] at hflag
  intro page hmem
  obtain rfl := List.mem_singleton.mp hmem
  show query.perPage ≤ records.length
  omega

theorem first_failed (h : Browsed query 2 [] q) :
    Browsed query 2 [] ((q.beginFetch false).fetchFailed (q.beginFetch false).lastToken) := by
  refine ⟨h.toFetched.first_failed, ?_⟩
  intro _ page hmem
  cases hmem

end Browsed

end HubConsole.Dashboard.LogQuery

namespace HubConsole.Console

open HubConsole.Dashboard HubConsole.Json HubConsole.Log HubConsole.Session

theorem getD_given {α : Type} (given known : List α) :
    (if given.isEmpty then none else some given).getD known = if given = [] then known else given := by
  cases given <;> rfl

/-- A bound that is given is in use, one that is not is not. -/
theorem bound_given (given : Option Time.Instant) (known : Time.Instant) :
    (if (given.map fun _ => true).getD false then some (given.getD known) else none) = given := by
  cases given <;> rfl

theorem size_given (limit : Option Nat) (known : Nat) :
    (limit.map (max · 1)).getD known = (limit.map (max 1)).getD known := by
  cases limit with
  | none => rfl
  | some n => exact Nat.max_comm n 1

theorem direction_given (ascending : Bool) :
    (if ascending then some Direction.oldestFirst else none).getD .newestFirst =
      if ascending then .oldestFirst else .newestFirst := by
  cases ascending <;> rfl

/-- With the options the query asks for just what they say; what they leave out stays as it was. -/
theorem LogsOptions.request_changeFilters (o : LogsOptions) {nodes targets : List String}
    {q : LogQuery} (h : LogQuery.Prepared nodes targets q) :
    (q.changeFilters o.change).request =
      o.query (if o.nodes = [] then nodes else o.nodes)
        (if o.targets = [] then targets else o.targets) := by
  obtain ⟨hfrom, hto⟩ := h.unbounded
  simp only [LogQuery.request, LogQuery.changeFilters, LogQuery.change, LogsOptions.change,
    LogsOptions.query, TimeWindow.range, h.filter, h.search, h.perPage, h.direction, hfrom, hto,
    LogsOptions.pageSize, getD_given, bound_given, size_given, direction_given, LogQuery.defaultPerPage]

/-- A request for a page of a query, with the reply to it. -/
def PageExchange.ofQuery (query : PageRequest) (a : Nat × Reply) : PageExchange :=
  ⟨{ query with page := a.1 }, a.2⟩

theorem PageExchange.records_of_gives {e : PageExchange} {number : Nat} {records : List Record} {page : Page}
    (hpage : e.page? = some (number, records)) (h : Gives e.reply page) : records = page.records := by
  have hending : e.ending = .ok (.value page) := settle_of_gives _ _ h
  rw [PageExchange.page?, hending] at hpage
  exact (Prod.mk.inj (Option.some.inj hpage)).2.symm

theorem PageExchange.not_gives {e : PageExchange} {page : Page} (hpage : e.page? = none) :
    ¬Gives e.reply page := by
  intro h
  have hending : e.ending = .ok (.value page) := settle_of_gives _ _ h
  rw [PageExchange.page?, hending] at hpage
  cases hpage

theorem PageExchange.exchange_ofQuery (o : LogsOptions) (nodes targets : List String) (a : Nat × Reply) :
    (PageExchange.ofQuery (o.query nodes targets) a).exchange =
      ⟨"log_get", o.pageParams nodes targets a.1, a.2⟩ :=
  congrArg (Exchange.mk "log_get" · a.2) (o.params_query nodes targets a.1)

namespace Commands

open Dialogue

variable {states : List State} {α : Type} [Wire α] {given : List String} {method : String}
  {names : α → List String} {replies : List Reply} {next : Board → Dialogue}
  {Known : List String → Board → Prop}

/-- The dialogue finds a list out and goes on with a board that knows it, or it fails. -/
def Chooses (states : List State) (given : List String) (method : String) (names : α → List String)
    (d : Dialogue) (replies : List Reply) (next : Board → Dialogue)
    (Known : List String → Board → Prop) : Prop :=
  ∃ asked d' rest, Reaches states d replies asked d' rest ∧
    (((∃ f, d' = .fail f) ∧ given = [] ∧
        ∃ reply, Fails α reply ∧ asked = [⟨method, .array [], reply⟩]) ∨
      ∃ known b, d' = next b ∧ Known known b ∧
        Chosen given method names asked (if given = [] then known else given))

theorem chooses_given (h : given ≠ []) (known : List String) (b : Board) (hb : Known known b) :
    Chooses states given method names (next b) replies next Known := by
  refine ⟨[], next b, replies, .refl _ _, .inr ⟨known, b, rfl, hb, ?_⟩⟩
  rw [if_neg h]
  exact .given h

theorem chooses_call (h : given = []) (handler : CallResult α → Dialogue)
    (hvalue : ∀ a, ∃ b, handler (.ok (.value a)) = next b ∧ Known (names a) b)
    (hsuppressed : ∀ e, ∃ b, handler (.ok (.suppressed e)) = next b ∧ Known [] b)
    (herror : ∀ e, ∃ f, handler (.error e) = .fail f) :
    Chooses states given method names (call (Hub.call method []) handler) replies next Known := by
  refine ⟨_, _, _, reaches_call states (Hub.call method []) handler replies, ?_⟩
  rcases settle_cases α method [] (firstReply replies) with
    ⟨a, hending, hgives⟩ | ⟨common, hending, hpassed⟩ | ⟨f, hending, hfails⟩
  · rw [hending]
    obtain ⟨b, hb, hknown⟩ := hvalue a
    refine .inr ⟨names a, b, hb, hknown, ?_⟩
    rw [if_pos h]
    exact .named h _ a hgives
  · rw [hending]
    obtain ⟨b, hb, hknown⟩ := hsuppressed common
    refine .inr ⟨[], b, hb, hknown, ?_⟩
    rw [if_pos h]
    exact .suppressed h _ hpassed
  · rw [hending]
    exact .inl ⟨herror f, h, _, hfails, rfl⟩

/-- The nodes come first; the targets are not known by then. -/
theorem chooses_nodes (states : List State) (replies : List Reply) (o : LogsOptions) (now : Time.Instant)
    (next : Board → Dialogue) :
    Chooses states o.nodes "dashboard_getNetwork" Network.names
      (if o.nodes.isEmpty then refreshNetwork (.start now) next else next (.start now)) replies next
      fun nodes b => b.store.logs.Prepared nodes [] := by
  have hstart := LogQuery.prepared_start now
  split
  · next h =>
    have hbegun : (Board.start now).store.network.beginFetch.2 = true := rfl
    unfold refreshNetwork
    dsimp only
    rw [if_pos hbegun]
    refine chooses_call (List.isEmpty_iff.mp h) _ ?_ ?_ ?_
    · intro n
      exact ⟨_, rfl, hstart.chooseNodes n.names⟩
    · intro e
      exact ⟨_, rfl, hstart⟩
    · intro e
      exact ⟨_, rfl⟩
  · next h => exact chooses_given (mt List.isEmpty_iff.mpr h) [] (.start now) hstart

theorem chooses_targets (states : List State) (replies : List Reply) (o : LogsOptions)
    {nodes : List String} (b : Board) (h : b.store.logs.Prepared nodes []) (next : Board → Dialogue) :
    Chooses states o.targets "log_getTargets" Targets.targets
      (if o.targets.isEmpty then refreshTargets b next else next b) replies next
      fun targets b => b.store.logs.Prepared nodes targets := by
  split
  · next hgiven =>
    have hbegun : b.store.logs.beginTargets.2 = true := by
      show (!b.store.logs.fetchingTargets) = true
      rw [h.idle]
      rfl
    unfold refreshTargets
    dsimp only
    rw [if_pos hbegun]
    refine chooses_call (List.isEmpty_iff.mp hgiven) _ ?_ ?_ ?_
    · intro ts
      exact ⟨_, rfl, h.setTargets ts.targets⟩
    · intro e
      exact ⟨_, rfl, h.targetsFailed⟩
    · intro e
      exact ⟨_, rfl⟩
  · next hgiven => exact chooses_given (mt List.isEmpty_iff.mpr hgiven) [] b h

end Commands

namespace Paged

variable {size most : Nat} {asked : List (Nat × Reply)}

theorem nil (size most : Nat) : Paged size most [] := by
  refine ⟨Nat.zero_le _, ?_⟩
  intro earlier a later hsplit
  simp at hsplit

/-- One more request comes first. If others follow, its answer has to be full. -/
theorem cons (h : Paged size most asked) (a : Nat × Reply)
    (hfull : asked ≠ [] → ∀ page : Page, Gives a.2 page → size ≤ page.records.length) :
    Paged size (most + 1) (a :: asked) := by
  refine ⟨Nat.succ_le_succ h.few, ?_⟩
  intro earlier next later hsplit a' hmem
  cases earlier with
  | nil => cases hmem
  | cons first earlier =>
    obtain ⟨rfl, hrest⟩ := List.cons.inj hsplit
    rcases List.mem_cons.mp hmem with rfl | hmem
    · exact hfull (by simp [hrest])
    · exact h.full earlier next later hrest a' hmem

end Paged

namespace Commands

open Dialogue

variable {states : List State} {query : PageRequest} {start : Nat} {pages : List (Nat × List Record)}

/-- From the dialogue on no more than so many pages of the query are asked for, none after one that is not full,
and then it is the turn of a dialogue of some kind. -/
def AsksPages (states : List State) (query : PageRequest) (most : Nat) (End : Dialogue → Prop) (d : Dialogue)
    (replies : List Reply) (asked : List (Nat × Reply)) : Prop :=
  Paged query.perPage most asked ∧
    ∃ d' rest, Reaches states d replies (asked.map fun a => (PageExchange.ofQuery query a).exchange) d' rest ∧
      End d'

/-- One page is asked for before others. If others follow it, it has to be full. -/
theorem asksPages_fetchPage {most number : Nat} {End : Dialogue → Prop} (b : Board) (next : Board → Dialogue)
    (replies : List Reply) (hrequest : b.store.logs.request = { query with page := number })
    (hfail : ∀ f, End (.fail f))
    (hanswered : ∀ records,
      let after := b.updateLogs fun q => (q.respond b.store.logs.lastToken records).1
      ∃ asked, AsksPages states query most End (next after) replies.tail asked ∧
        (asked ≠ [] → query.perPage ≤ records.length))
    (hmissed :
      let after := b.updateLogs (·.fetchFailed b.store.logs.lastToken)
      ∃ asked, AsksPages states query most End (next after) replies.tail asked) :
    ∃ asked, AsksPages states query (most + 1) End (fetchPage b next) replies
      ((number, firstReply replies) :: asked) := by
  let a : Nat × Reply := (number, firstReply replies)
  have ha : (⟨b.store.logs.request, firstReply replies⟩ : PageExchange) = .ofQuery query a :=
    congrArg (PageExchange.mk · _) hrequest
  have hfetch := reaches_fetchPage states b next replies
  rw [ha] at hfetch
  obtain ⟨d, hreaches, ⟨records, hpage, rfl⟩ | ⟨hpage, rfl⟩ | ⟨hpage, f, rfl⟩⟩ := hfetch
  · obtain ⟨asked, ⟨hpaged, d', rest, hrest, hend⟩, hfull⟩ := hanswered records
    refine ⟨asked, hpaged.cons a fun hmore page hgives => ?_, d', rest, hreaches.trans hrest, hend⟩
    rw [← PageExchange.records_of_gives hpage hgives]
    exact hfull hmore
  · obtain ⟨asked, hpaged, d', rest, hrest, hend⟩ := hmissed
    refine ⟨asked, hpaged.cons a fun _ page hgives => ?_, d', rest, hreaches.trans hrest, hend⟩
    exact absurd hgives (PageExchange.not_gives hpage)
  · exact ⟨[], (Paged.nil _ most).cons a (by simp), _, _, hreaches, hfail f⟩

/-- Each round asks for one page more, if all pages so far are full. -/
theorem asksPages_fetchMore {End : Dialogue → Prop} (left : Nat) (b : Board) (replies : List Reply)
    (next : Board → Dialogue) (hnext : ∀ b, End (next b)) (hfail : ∀ f, End (.fail f))
    (h : b.store.logs.Browsed query start pages) :
    ∃ asked, AsksPages states query left End (fetchMore b next left) replies asked ∧
      (asked ≠ [] → ∀ page ∈ pages, query.perPage ≤ page.2.length) := by
  induction left generalizing b replies pages with
  | zero => exact ⟨[], ⟨.nil _ 0, next b, replies, .refl _ _, hnext b⟩, by simp⟩
  | succ left ih =>
    unfold fetchMore
    split
    · exact ⟨[], ⟨.nil _ _, next b, replies, .refl _ _, hnext b⟩, by simp⟩
    · next hflag =>
      have hpages := h.full (Bool.eq_false_iff.mpr hflag)
      let more := b.updateLogs (·.loadMore)
      let token := more.store.logs.lastToken
      have hasks : ∃ asked, AsksPages states query (left + 1) End
          (fetchPage more fun b => fetchMore b next left) replies
          ((start + pages.length, firstReply replies) :: asked) := by
        refine asksPages_fetchPage more _ replies h.request_loadMore hfail (fun records => ?_) ?_
        · let after := more.updateLogs fun q => (q.respond token records).1
          obtain ⟨asked, hasks, hfull⟩ := ih after replies.tail (h.more_answered records)
          exact ⟨asked, hasks, fun hmore => hfull hmore (start + pages.length, records) (by simp)⟩
        · let after := more.updateLogs (·.fetchFailed token)
          obtain ⟨asked, hasks, -⟩ := ih after replies.tail h.more_failed
          exact ⟨asked, hasks⟩
      obtain ⟨asked, hasks⟩ := hasks
      exact ⟨_, hasks, fun _ => hpages⟩

/-- The command has all that it asks for, or fails. -/
def Ends (d : Dialogue) : Prop := (∃ b, d = showLogs b) ∨ ∃ f, d = .fail f

/-- The first request is for the first page. -/
theorem asksPages_showPages (states : List State) (b : Board) (count : Nat) (replies : List Reply)
    (h : b.store.logs.Browsed query 2 []) :
    ∃ asked, AsksPages states query (max count 1) Ends (showPages b count) replies asked ∧
      asked.head?.map Prod.fst = some 1 := by
  have hnext (b : Board) : Ends (showLogs b) := .inl ⟨b, rfl⟩
  have hfail (f : Failure) : Ends (.fail f) := .inr ⟨f, rfl⟩
  have hmost : max count 1 = count - 1 + 1 := by omega
  rw [hmost]
  let begun := b.updateLogs (·.beginFetch false)
  let token := begun.store.logs.lastToken
  have hasks : ∃ asked, AsksPages states query (count - 1 + 1) Ends
      (fetchPage begun fun b => fetchMore b showLogs (count - 1)) replies
      ((1, firstReply replies) :: asked) := by
    refine asksPages_fetchPage begun _ replies h.request_beginFetch hfail (fun records => ?_) ?_
    · let after := begun.updateLogs fun q => (q.respond token records).1
      obtain ⟨asked, hasks, hfull⟩ :=
        asksPages_fetchMore (count - 1) after replies.tail showLogs hnext hfail (h.first_answered records)
      exact ⟨asked, hasks, fun hmore => hfull hmore (1, records) (by simp)⟩
    · let after := begun.updateLogs (·.fetchFailed token)
      obtain ⟨asked, hasks, -⟩ :=
        asksPages_fetchMore (count - 1) after replies.tail showLogs hnext hfail h.first_failed
      exact ⟨asked, hasks⟩
  obtain ⟨asked, hasks⟩ := hasks
  exact ⟨_, hasks, rfl⟩

/-- The last two parts of the command: the targets are chosen, then the pages are shown. -/
def showQuery (o : LogsOptions) (b : Board) : Dialogue := showPages (withQuery b o) o.pages

def chooseTargets (o : LogsOptions) (b : Board) : Dialogue :=
  if o.targets.isEmpty then refreshTargets b (showQuery o) else showQuery o b

theorem logs_eq (b : Board) (o : LogsOptions) (hfollow : o.follow = false) :
    logs b o = if o.nodes.isEmpty then refreshNetwork b (chooseTargets o) else chooseTargets o b := by
  unfold logs
  simp only [hfollow]
  rfl

theorem browsed_withQuery (b : Board) (o : LogsOptions) {nodes targets : List String}
    (h : b.store.logs.Prepared nodes targets) :
    (withQuery b o).store.logs.Browsed
      (o.query (if o.nodes = [] then nodes else o.nodes) (if o.targets = [] then targets else o.targets))
      2 [] := by
  have hrequest : (withQuery b o).store.logs.request = _ := o.request_changeFilters h
  rw [← hrequest]
  refine ⟨fetched_withQuery b o ⟨h.outstanding, h.buffer⟩, ?_⟩
  intro _ page hmem
  cases hmem

end Commands

open Commands Dialogue

/-- All that the command for logs asks. The options given stand in every request for records, and what they
leave out is the same in all of them: the nodes and the targets that the hub named, all levels, no text to search
for, no bound in time, fifteen records a page, the newest first. The requests are for pages of that one query
from the first page on, no more of them than pages are wanted, and none after a page that is not full. -/
theorem log_requests_carry_options (s : Settings) (now : Time.Instant) (o : LogsOptions)
    (hfollow : o.follow = false) (states : List State) (replies : List Reply) :
    AsksFor o (((Command.logs o).dialogue s now).converse states replies) := by
  have hlogs : (Command.logs o).dialogue s now = _ := logs_eq (.start now) o hfollow
  rw [hlogs]
  obtain ⟨forNodes, d, rest, hnodes, hchoice⟩ := chooses_nodes states replies o now (chooseTargets o)
  rcases hchoice with ⟨⟨f, rfl⟩, hnone, reply, hfails, rfl⟩ | ⟨nodes, b, rfl, hb, hchosen⟩
  · exact .withoutNodes f hnodes.result hnone reply hfails hnodes.exchanges
  · obtain ⟨forTargets, d, rest', htargets, hchoice'⟩ := chooses_targets states rest o b hb (showQuery o)
    rcases hchoice' with ⟨⟨f, rfl⟩, hnone, reply, hfails, rfl⟩ | ⟨targets, b', rfl, hb', hchosen'⟩
    · have hreaches := hnodes.trans htargets
      have hexchanges := hreaches.exchanges.trans (List.append_nil _)
      exact .withoutTargets f hreaches.result forNodes _ hchosen hnone reply hfails hexchanges
    · obtain ⟨asked, ⟨hpaged, d, rest'', hpages, hend⟩, hfirst⟩ :=
        asksPages_showPages states (withQuery b' o) o.pages rest' (browsed_withQuery b' o hb')
      have hreaches := (hnodes.trans htargets).trans hpages
      have hlast : (d.converse states rest'').exchanges = [] := by
        rcases hend with ⟨b'', rfl⟩ | ⟨f, rfl⟩
        · rw [converse_showLogs]
        · rfl
      refine .paged forNodes _ hchosen forTargets _ hchosen' asked ?_ hpaged hfirst
      rw [hreaches.exchanges, hlast, List.append_nil]
      simp only [PageExchange.exchange_ofQuery]

/-- The nodes are asked for and the targets cannot be had; the first of two pages is full, the second is not. -/
theorem second_page_asked_after_full_first :
    let s := Settings.resolve ⟨none, none, none⟩ ⟨none, none, none, none, none⟩
    let o : LogsOptions := ⟨[], [.warn], [], some "sealed", none, some ⟨5, 0⟩, true, some 0, 7, false⟩
    let record : Record := ⟨"7", "b", "warn", "miner", "1970-01-01T00:00:04Z", "sealed"⟩
    let network : Reply :=
      .ok (.ok (Wire.write (Network.mk [Node.Summary.blank "b", Node.Summary.blank "a"] [])))
    let missing : Reply := .ok (.error ⟨-1, "agent not found", none⟩)
    let page (records : List Record) : Reply := .ok (.ok (Wire.write (Page.mk records)))
    let params (number : Value) : Value := .array [.object
      [("filter", .object [("levels", .array [.string "warn"]),
        ("nodeNames", .array [.string "b", .string "a"]), ("targets", .array [])]),
      ("itemPerPage", .number (.int 1 (by decide))), ("orderBy", .string "ASC"), ("page", number),
      ("search", .string "sealed"), ("time", .object [("toTime", .string "1970-01-01T00:00:05Z")])]]
    let c := ((Command.logs o).dialogue s ⟨9, 0⟩).converse [] [network, missing, page [record], page []]
    o.follow = false ∧ AsksFor o c ∧ c.exchanges =
      [⟨"dashboard_getNetwork", .array [], network⟩, ⟨"log_getTargets", .array [], missing⟩,
        ⟨"log_get", params (.number (.int 1 (by decide))), page [record]⟩,
        ⟨"log_get", params (.number (.int 2 (by decide))), page []⟩] := by
  intro s o record network missing page params c
  have htime : (⟨5, 0⟩ : Time.Instant).text = "1970-01-01T00:00:05Z" := by decide +kernel
  have hone : Value.ofNat 1 = .number (.int 1 (by decide)) := rfl
  have htwo : Value.ofNat 2 = .number (.int 2 (by decide)) := rfl
  have hquery (a : Nat × Reply) : (PageExchange.ofQuery (o.query ["b", "a"] []) a).exchange =
      ⟨"log_get", params (.ofNat a.1), a.2⟩ := by
    rw [PageExchange.exchange_ofQuery]
    simp only [params, ← htime, ← hone]
    rfl
  refine ⟨rfl, log_requests_carry_options _ _ _ rfl _ _, ?_⟩
  rw [← hone, ← htwo, ← hquery (1, page [record]), ← hquery (2, page [])]
  rfl

end HubConsole.Console
