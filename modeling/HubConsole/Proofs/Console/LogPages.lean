import HubConsole.Proofs.Console.TrialRun
import HubConsole.Proofs.Dashboard.LogRun

namespace HubConsole.Dashboard.LogQuery

open HubConsole.Log

/-- No request is on its way, and these pages of one query are there, one after another from `start` on. -/
structure Fetched (query : PageRequest) (start : Nat) (pages : List (Nat × List Record))
    (q : LogQuery) : Prop where
  outstanding : q.outstanding = none
  buffer : q.buffer = if pages.isEmpty then none else some (pages.map Prod.snd).flatten
  page : q.page + 1 = start + pages.length
  request : ∀ page, { q with page }.request = { query with page }
  numbers : pages.map Prod.fst = List.range' start pages.length

variable {query : PageRequest} {start : Nat} {pages : List (Nat × List Record)} {q : LogQuery}

theorem loadMore_of_none (h : q.outstanding = none) :
    q.loadMore = { q with
      page := q.page + 1
      lastToken := q.lastToken + 1
      outstanding := some ⟨q.lastToken + 1, true, q.perPage, q.page + 1, q.page⟩ } := by
  unfold loadMore
  rw [abandon_of_none q h]
  rfl

theorem beginFetch_of_none (h : q.outstanding = none) (append : Bool) :
    q.beginFetch append = { q with
      lastToken := q.lastToken + 1
      outstanding := some ⟨q.lastToken + 1, append, q.perPage, q.page, q.page⟩ } := by
  unfold beginFetch
  rw [abandon_of_none q h]
  rfl

/-- A request for more that fails takes its page back. -/
theorem fetchFailed_loadMore (h : q.outstanding = none) :
    q.loadMore.fetchFailed q.loadMore.lastToken =
      { q with lastToken := q.lastToken + 1, outstanding := none } := by
  rw [loadMore_of_none h]
  rw [fetchFailed_of_current _ ⟨q.lastToken + 1, true, q.perPage, q.page + 1, q.page⟩ rfl]
  exact if_pos ⟨rfl, rfl⟩

theorem fetchFailed_beginFetch (h : q.outstanding = none) :
    (q.beginFetch false).fetchFailed (q.beginFetch false).lastToken =
      { q with lastToken := q.lastToken + 1, outstanding := none } := by
  rw [beginFetch_of_none h]
  rw [fetchFailed_of_current _ ⟨q.lastToken + 1, false, q.perPage, q.page, q.page⟩ rfl]
  exact if_neg fun happend => Bool.false_ne_true happend.1

namespace Fetched

theorem request_beginFetch (h : Fetched query 2 [] q) :
    (q.beginFetch false).request = { query with page := 1 } := by
  have hpage : q.page = 1 := Nat.succ.inj h.page
  rw [beginFetch_of_none h.outstanding, ← hpage]
  exact h.request q.page

theorem request_loadMore (h : Fetched query start pages q) :
    q.loadMore.request = { query with page := start + pages.length } := by
  rw [loadMore_of_none h.outstanding, ← h.page]
  exact h.request (q.page + 1)

theorem records_eq (h : Fetched query start pages q) :
    q.records = (pages.map Prod.snd).flatten := by
  rw [LogQuery.records, h.buffer]
  cases pages <;> rfl

theorem isLoaded_eq (h : Fetched query start pages q) : q.isLoaded = !pages.isEmpty := by
  rw [isLoaded, h.buffer]
  cases pages <;> rfl

/-- The next page comes after those that are there. -/
theorem more_answered (h : Fetched query start pages q) (records : List Record) :
    Fetched query start (pages ++ [(start + pages.length, records)])
      (q.loadMore.respond q.loadMore.lastToken records).1 := by
  have hrecords : q.loadMore.records = (pages.map Prod.snd).flatten := by
    rw [loadMore_of_none h.outstanding]
    exact h.records_eq
  have hout : q.loadMore.outstanding =
      some ⟨q.lastToken + 1, true, q.perPage, q.page + 1, q.page⟩ := by
    rw [loadMore_of_none h.outstanding]
  have htoken : q.loadMore.lastToken = q.lastToken + 1 := by rw [loadMore_of_none h.outstanding]
  rw [htoken, respond_of_current q.loadMore _ records hout]
  constructor
  · rfl
  · simp [hrecords]
  · rw [loadMore_of_none h.outstanding, List.length_append, ← Nat.add_assoc, ← h.page]
    rfl
  · rw [loadMore_of_none h.outstanding]
    exact h.request
  · rw [List.map_append, h.numbers, List.length_append, List.length_singleton,
      ← List.range'_append_1]
    rfl

/-- A request for more that fails leaves everything as it was, so the next one is for the same page. -/
theorem more_failed (h : Fetched query start pages q) :
    Fetched query start pages (q.loadMore.fetchFailed q.loadMore.lastToken) := by
  rw [fetchFailed_loadMore h.outstanding]
  exact ⟨rfl, h.buffer, h.page, h.request, h.numbers⟩

theorem first_answered (h : Fetched query 2 [] q) (records : List Record) :
    Fetched query 1 [(1, records)]
      ((q.beginFetch false).respond (q.beginFetch false).lastToken records).1 := by
  rw [beginFetch_of_none h.outstanding]
  rw [respond_of_current _ ⟨q.lastToken + 1, false, q.perPage, q.page, q.page⟩ records rfl]
  refine ⟨rfl, ?_, h.page, h.request, rfl⟩
  simp

/-- A first request that fails leaves everything as it was, but the next one is for the page after it. -/
theorem first_failed (h : Fetched query 2 [] q) :
    Fetched query 2 [] ((q.beginFetch false).fetchFailed (q.beginFetch false).lastToken) := by
  rw [fetchFailed_beginFetch h.outstanding]
  exact ⟨rfl, h.buffer, h.page, h.request, h.numbers⟩

end Fetched

end HubConsole.Dashboard.LogQuery

namespace HubConsole.Console

open HubConsole.Dashboard HubConsole.Json HubConsole.Log HubConsole.Session

/-- A request for a page of records with the reply to it. -/
structure PageExchange where
  request : PageRequest
  reply : Reply

namespace PageExchange

def exchange (e : PageExchange) : Exchange :=
  ⟨(Hub.logPage e.request).name, (Hub.logPage e.request).params, e.reply⟩

/-- How the call ends. -/
def ending (e : PageExchange) : CallResult Page := ((Hub.logPage e.request).settle e.reply).1

/-- The page that the hub answered, with its number. -/
def page? (e : PageExchange) : Option (Nat × List Record) :=
  match e.ending with
  | .ok (.value page) => some (e.request.page, page.records)
  | .ok (.suppressed _) => none
  | .error _ => none

end PageExchange

namespace Commands

open Dialogue

variable {states : List State} {query : PageRequest} {start : Nat} {pages : List (Nat × List Record)}

/-- What the command does in the end. -/
def showLogs (b : Board) : Dialogue :=
  if b.store.logs.isLoaded then .print (View.logLines b.store.logs.records) .stop else .stop

theorem converse_showLogs (states : List State) (b : Board) (replies : List Reply) :
    (showLogs b).converse states replies =
      ⟨[], [], if b.store.logs.isLoaded then [View.logLines b.store.logs.records] else [],
        some (.ok ())⟩ := by
  unfold showLogs
  split <;> rfl

/-- What is done with the answer to a request for a page. -/
def takePage (b : Board) (next : Board → Dialogue) : CallResult Page → Dialogue
  | .ok (.value page) =>
    next (b.updateLogs fun q => (q.respond b.store.logs.lastToken page.records).1)
  | .ok (.suppressed _) => next (b.updateLogs (·.fetchFailed b.store.logs.lastToken))
  | .error e => .fail (.call "failed to fetch logs" e)

theorem fetchPage_eq_call (b : Board) (next : Board → Dialogue) :
    fetchPage b next = call (Hub.logPage b.store.logs.request) (takePage b next) :=
  rfl

/-- A request for a page has three endings: a page, an error that is passed over, and one that is not. -/
theorem reaches_fetchPage (states : List State) (b : Board) (next : Board → Dialogue) (replies : List Reply) :
    let e : PageExchange := ⟨b.store.logs.request, firstReply replies⟩
    let token := b.store.logs.lastToken
    ∃ d, Reaches states (fetchPage b next) replies [e.exchange] d replies.tail ∧
      ((∃ records, e.page? = some (e.request.page, records) ∧
          d = next (b.updateLogs fun q => (q.respond token records).1)) ∨
        (e.page? = none ∧ d = next (b.updateLogs (·.fetchFailed token))) ∨
        (e.page? = none ∧ ∃ f, d = .fail f)) := by
  intro e token
  rw [fetchPage_eq_call]
  refine ⟨_, reaches_call states (Hub.logPage e.request) (takePage b next) replies, ?_⟩
  change (∃ records, e.page? = _ ∧ takePage b next e.ending = _) ∨
    (e.page? = none ∧ takePage b next e.ending = _) ∨
      (e.page? = none ∧ ∃ f, takePage b next e.ending = _)
  unfold PageExchange.page?
  rcases e.ending with f | ⟨page⟩ | ⟨c⟩
  · exact .inr (.inr ⟨rfl, _, rfl⟩)
  · exact .inl ⟨page.records, rfl, rfl⟩
  · exact .inr (.inl ⟨rfl, rfl⟩)

/-- The pages that were answered, among the requests for pages. -/
def answered (asked : List PageExchange) : List (Nat × List Record) :=
  asked.filterMap PageExchange.page?

@[simp] theorem answered_nil : answered [] = [] := rfl

theorem answered_cons (e : PageExchange) (asked : List PageExchange) :
    answered (e :: asked) = e.page?.toList ++ answered asked := by
  unfold answered
  rw [List.filterMap_cons]
  cases e.page? <;> rfl

/-- The number of the first page that can be shown: the first one if the first request was answered by a
page. -/
def firstPage (asked : List PageExchange) : Nat :=
  if (asked.head?.bind PageExchange.page?).isSome then 1 else 2

theorem firstPage_cons (e : PageExchange) (asked : List PageExchange) :
    firstPage (e :: asked) = if e.page?.isSome then 1 else 2 :=
  rfl

/-- These requests are made, all for pages of one query, and then the command either fails or shows the pages
that are there. -/
structure Shows (states : List State) (query : PageRequest) (start : Nat)
    (pages : List (Nat × List Record)) (d : Dialogue) (replies : List Reply)
    (asked : List PageExchange) : Prop where
  requests : ∀ e ∈ asked, e.request = { query with page := e.request.page }
  course : ∃ b d' rest, Reaches states d replies (asked.map PageExchange.exchange) d' rest ∧
    b.store.logs.Fetched query start pages ∧ (d' = showLogs b ∨ ∃ f, d' = .fail f)

theorem Shows.cons {d d₁ : Dialogue} {replies rest : List Reply} {asked : List PageExchange}
    (e : PageExchange) (he : e.request = { query with page := e.request.page })
    (h : Reaches states d replies [e.exchange] d₁ rest)
    (hrest : Shows states query start pages d₁ rest asked) :
    Shows states query start pages d replies (e :: asked) := by
  obtain ⟨hrequests, b, d', rest', hreaches, hfetched, hend⟩ := hrest
  exact ⟨List.forall_mem_cons.mpr ⟨he, hrequests⟩, b, d', rest', h.trans hreaches, hfetched, hend⟩

theorem shows_fail (b : Board) (f : Failure) (replies : List Reply)
    (h : b.store.logs.Fetched query start pages) :
    Shows states query start pages (.fail f) replies [] where
  requests := by simp
  course := ⟨b, _, replies, .refl _ _, h, .inr ⟨f, rfl⟩⟩

/-- Nothing more is asked for. -/
theorem shows_showLogs (b : Board) (replies : List Reply)
    (h : b.store.logs.Fetched query start pages) :
    ∃ asked, (∀ e ∈ asked, start + pages.length ≤ e.request.page) ∧
      Shows states query start (pages ++ answered asked) (showLogs b) replies asked := by
  refine ⟨[], by simp, by simp, b, _, replies, .refl _ _, ?_, .inl rfl⟩
  rw [answered_nil, List.append_nil]
  exact h

/-- Each round asks for the page after those that are there. -/
theorem shows_fetchMore (left : Nat) (b : Board) (replies : List Reply)
    (h : b.store.logs.Fetched query start pages) :
    ∃ asked, (∀ e ∈ asked, start + pages.length ≤ e.request.page) ∧
      Shows states query start (pages ++ answered asked) (fetchMore b showLogs left) replies asked := by
  induction left generalizing b replies pages with
  | zero => exact shows_showLogs b replies h
  | succ left ih =>
    unfold fetchMore
    split
    · exact shows_showLogs b replies h
    · let more := b.updateLogs (·.loadMore)
      let token := more.store.logs.lastToken
      let e : PageExchange := ⟨more.store.logs.request, firstReply replies⟩
      have he : e.request = { query with page := start + pages.length } := h.request_loadMore
      have hquery : e.request = { query with page := e.request.page } := by rw [he]
      have hleast : start + pages.length ≤ e.request.page :=
        Nat.le_of_eq (congrArg PageRequest.page he).symm
      obtain ⟨d, hreaches, ⟨records, hpage, rfl⟩ | ⟨hpage, rfl⟩ | ⟨hpage, f, rfl⟩⟩ :=
        reaches_fetchPage states more (fun b => fetchMore b showLogs left) replies
      · let next := more.updateLogs fun q => (q.respond token records).1
        obtain ⟨asked, hlater, hshows⟩ := ih next replies.tail (h.more_answered records)
        refine ⟨e :: asked, List.forall_mem_cons.mpr ⟨hleast, ?_⟩, .cons e hquery hreaches ?_⟩
        · intro e' he'
          have := hlater e' he'
          rw [List.length_append] at this
          omega
        · rw [answered_cons, hpage, Option.toList_some, List.singleton_append, List.append_cons, he]
          exact hshows
      · let next := more.updateLogs (·.fetchFailed token)
        obtain ⟨asked, hlater, hshows⟩ := ih next replies.tail h.more_failed
        refine ⟨e :: asked, List.forall_mem_cons.mpr ⟨hleast, hlater⟩, .cons e hquery hreaches ?_⟩
        rw [answered_cons, hpage]
        exact hshows
      · refine ⟨[e], by simpa using hleast, .cons e hquery hreaches ?_⟩
        rw [answered_cons, hpage]
        exact shows_fail b f replies.tail (by simpa using h)

/-- The first request is for the first page, and no other one is. -/
theorem shows_showPages (states : List State) (b : Board) (count : Nat) (replies : List Reply)
    (h : b.store.logs.Fetched query 2 []) :
    ∃ e later, e.request.page = 1 ∧ (∀ e ∈ later, 2 ≤ e.request.page) ∧
      Shows states query (firstPage (e :: later)) (answered (e :: later)) (showPages b count) replies
        (e :: later) := by
  let begun := b.updateLogs (·.beginFetch false)
  let token := begun.store.logs.lastToken
  let e : PageExchange := ⟨begun.store.logs.request, firstReply replies⟩
  have he : e.request = { query with page := 1 } := h.request_beginFetch
  have hone : e.request.page = 1 := by rw [he]
  have hquery : e.request = { query with page := e.request.page } := by rw [he]
  obtain ⟨d, hreaches, ⟨records, hpage, rfl⟩ | ⟨hpage, rfl⟩ | ⟨hpage, f, rfl⟩⟩ :=
    reaches_fetchPage states begun (fun b => fetchMore b showLogs (count - 1)) replies
  · let next := begun.updateLogs fun q => (q.respond token records).1
    obtain ⟨later, hlater, hshows⟩ :=
      shows_fetchMore (count - 1) next replies.tail (h.first_answered records)
    refine ⟨e, later, hone, hlater, .cons e hquery hreaches ?_⟩
    rw [firstPage_cons, answered_cons, hpage, hone]
    exact hshows
  · let next := begun.updateLogs (·.fetchFailed token)
    obtain ⟨later, hlater, hshows⟩ := shows_fetchMore (count - 1) next replies.tail h.first_failed
    refine ⟨e, later, hone, hlater, .cons e hquery hreaches ?_⟩
    rw [firstPage_cons, answered_cons, hpage]
    exact hshows
  · refine ⟨e, [], hone, by simp, .cons e hquery hreaches ?_⟩
    rw [firstPage_cons, answered_cons, hpage]
    exact shows_fail b f replies.tail h

/-- No records were asked for yet, and none are there. -/
def Unasked (b : Board) : Prop :=
  b.store.logs.outstanding = none ∧ b.store.logs.buffer = none

/-- The dialogue asks for other things than pages, and then it fails or goes on with a board that has no
records. -/
def Prepares (states : List State) (d : Dialogue) (replies : List Reply) (next : Board → Dialogue) : Prop :=
  ∃ asked d' rest, Reaches states d replies asked d' rest ∧ (∀ e ∈ asked, e.method ≠ "log_get") ∧
    ((∃ f, d' = .fail f) ∨ ∃ b, d' = next b ∧ Unasked b)

theorem prepares_next (b : Board) (next : Board → Dialogue) (replies : List Reply) (h : Unasked b) :
    Prepares states (next b) replies next :=
  ⟨[], _, replies, .refl _ _, by simp, .inr ⟨b, rfl, h⟩⟩

theorem Prepares.trans {d : Dialogue} {replies : List Reply} {next next' : Board → Dialogue}
    (h : Prepares states d replies next)
    (hnext : ∀ b rest, Unasked b → Prepares states (next b) rest next') :
    Prepares states d replies next' := by
  obtain ⟨asked, d', rest, hreaches, hasked, ⟨f, rfl⟩ | ⟨b, rfl, hb⟩⟩ := h
  · exact ⟨asked, _, rest, hreaches, hasked, .inl ⟨f, rfl⟩⟩
  · obtain ⟨asked', d', rest', hreaches', hasked', hend⟩ := hnext b rest hb
    refine ⟨asked ++ asked', d', rest', hreaches.trans hreaches', ?_, hend⟩
    intro e he
    exact (List.mem_append.mp he).elim (hasked e) (hasked' e)

theorem prepares_refreshNetwork (b : Board) (next : Board → Dialogue) (replies : List Reply)
    (h : Unasked b) : Prepares states (refreshNetwork b next) replies next := by
  unfold refreshNetwork
  dsimp only
  split
  · refine ⟨_, _, _, reaches_call states _ _ replies, by simp [Hub.network, Hub.call], ?_⟩
    rcases (Hub.network.settle (firstReply replies)).1 with f | ⟨n⟩ | ⟨c⟩
    · exact .inl ⟨_, rfl⟩
    · exact .inr ⟨_, rfl, h⟩
    · exact .inr ⟨_, rfl, h⟩
  · exact prepares_next b next replies h

theorem prepares_refreshTargets (b : Board) (next : Board → Dialogue) (replies : List Reply)
    (h : Unasked b) : Prepares states (refreshTargets b next) replies next := by
  unfold refreshTargets
  dsimp only
  split
  · refine ⟨_, _, _, reaches_call states _ _ replies, by simp [Hub.logTargets, Hub.call], ?_⟩
    rcases (Hub.logTargets.settle (firstReply replies)).1 with f | ⟨ts⟩ | ⟨c⟩
    · exact .inl ⟨_, rfl⟩
    · exact .inr ⟨_, rfl, h⟩
    · exact .inr ⟨_, rfl, h⟩
  · exact prepares_next b next replies h

/-- The board with the query that the options ask for. -/
def withQuery (b : Board) (o : LogsOptions) : Board := b.updateLogs (·.changeFilters o.change)

theorem prepares_logs (states : List State) (b : Board) (o : LogsOptions) (hfollow : o.follow = false)
    (replies : List Reply) (h : Unasked b) :
    Prepares states (logs b o) replies fun b => showPages (withQuery b o) o.pages := by
  have hshow (b : Board) (rest : List Reply) (hb : Unasked b) :
      Prepares states (if o.follow then .follow (withQuery b o) else showPages (withQuery b o) o.pages)
        rest fun b => showPages (withQuery b o) o.pages := by
    rw [hfollow]
    exact prepares_next b (fun b => showPages (withQuery b o) o.pages) rest hb
  have htargets (b : Board) (rest : List Reply) (hb : Unasked b) :
      Prepares states
        (if o.targets.isEmpty then
          refreshTargets b fun b =>
            if o.follow then .follow (withQuery b o) else showPages (withQuery b o) o.pages
        else if o.follow then .follow (withQuery b o) else showPages (withQuery b o) o.pages)
        rest fun b => showPages (withQuery b o) o.pages := by
    split
    · exact (prepares_refreshTargets b _ rest hb).trans hshow
    · exact hshow b rest hb
  unfold logs
  dsimp only
  split
  · exact (prepares_refreshNetwork b _ replies h).trans htargets
  · exact htargets b replies h

/-- A board without records that changes its query starts with the first page of it. -/
theorem fetched_withQuery (b : Board) (o : LogsOptions) (h : Unasked b) :
    (withQuery b o).store.logs.Fetched (withQuery b o).store.logs.request 2 [] :=
  ⟨h.1, h.2, rfl, fun _ => rfl, rfl⟩

end Commands

open Commands

/-- The course of a command that shows pages. It asks for some things `before`, and then for pages of one
query; the first request is for the first page, and no other one is. The pages that were answered follow one
another without a gap, each of them once. If no call failed and some page was answered, the command prints
the records of those pages, in order; else it prints nothing. -/
structure PagesShown (before : List Exchange) (query : PageRequest) (asked : List PageExchange)
    (c : Course) : Prop where
  exchanges : c.exchanges = before ++ asked.map PageExchange.exchange
  before : ∀ e ∈ before, e.method ≠ "log_get"
  requests : ∀ e ∈ asked, e.request = { query with page := e.request.page }
  first : ∀ e ∈ asked.head?, e.request.page = 1
  later : ∀ e ∈ asked.tail, 2 ≤ e.request.page
  numbers : (answered asked).map Prod.fst =
    List.range' (firstPage asked) (answered asked).length
  ending :
    (c.result = some (.ok ()) ∧ answered asked ≠ [] ∧
        c.printed = [View.logLines ((answered asked).map Prod.snd).flatten]) ∨
      (c.result = some (.ok ()) ∧ answered asked = [] ∧ c.printed = []) ∨
      ∃ f, c.result = some (.error f) ∧ c.printed = []

theorem PagesShown.exists_result {before : List Exchange} {query : PageRequest}
    {asked : List PageExchange} {c : Course} (h : PagesShown before query asked c) :
    ∃ r, c.result = some r := by
  rcases h.ending with ⟨hresult, -⟩ | ⟨hresult, -⟩ | ⟨f, hresult, -⟩
  · exact ⟨_, hresult⟩
  · exact ⟨_, hresult⟩
  · exact ⟨_, hresult⟩

theorem exists_pagesShown_logs (s : Settings) (now : Time.Instant) (o : LogsOptions)
    (states : List State) (replies : List Reply) (hfollow : o.follow = false) :
    ∃ before query asked,
      PagesShown before query asked
        (((Command.logs o).dialogue s now).converse states replies) := by
  let c := ((Command.logs o).dialogue s now).converse states replies
  have hstart : Unasked (.start now) := ⟨rfl, rfl⟩
  obtain ⟨before, d, rest, hbefore, hmethods, ⟨f, rfl⟩ | ⟨b, rfl, hb⟩⟩ :=
    prepares_logs states (.start now) o hfollow replies hstart
  · refine ⟨before, (LogQuery.start now).request, [], ?_⟩
    constructor
    case exchanges => exact hbefore.exchanges
    case before => exact hmethods
    case ending => exact .inr (.inr ⟨f, hbefore.result, hbefore.printed⟩)
    all_goals simp
  · obtain ⟨e, later, hone, hlater, hrequests, b', d', rest', hasked, hfetched, hend⟩ :=
      shows_showPages states (withQuery b o) o.pages rest (fetched_withQuery b o hb)
    let asked := e :: later
    have hreaches := hbefore.trans hasked
    have hexchanges :
        c.exchanges = before ++ asked.map PageExchange.exchange ++ (d'.converse states rest').exchanges :=
      hreaches.exchanges
    have hresult : c.result = (d'.converse states rest').result := hreaches.result
    have hprinted : c.printed = (d'.converse states rest').printed := hreaches.printed
    refine ⟨before, (withQuery b o).store.logs.request, asked, ?_⟩
    constructor
    case before => exact hmethods
    case requests => exact hrequests
    case first => simpa [asked] using hone
    case later => exact hlater
    case numbers => exact hfetched.numbers
    case exchanges =>
      rw [hexchanges]
      rcases hend with rfl | ⟨f, rfl⟩
      · rw [converse_showLogs, List.append_nil]
      · exact List.append_nil _
    case ending =>
      rcases hend with rfl | ⟨f, rfl⟩
      · rw [converse_showLogs] at hresult hprinted
        rw [hfetched.isLoaded_eq, hfetched.records_eq] at hprinted
        by_cases hpages : answered asked = []
        · rw [hpages] at hprinted
          exact .inr (.inl ⟨hresult, hpages, hprinted⟩)
        · rw [List.isEmpty_eq_false_iff.mpr hpages] at hprinted
          exact .inl ⟨hresult, hpages, hprinted⟩
      · exact .inr (.inr ⟨f, hresult, hprinted⟩)

/-- What the command for logs shows are pages of one query, one after another: from the first page on if the
answer to the first request was a page, and else from the second. In a trial it prints just that. -/
theorem logs_show_consecutive_pages (s : Settings) (now : Time.Instant) (o : LogsOptions)
    (hfollow : o.follow = false) :
    let d := (Command.logs o).dialogue s now
    (∀ states replies, ∃ before query asked,
      PagesShown before query asked (d.converse states replies)) ∧
    ∀ t : Trial,
      let c := d.converse (t.seen d) (t.heard d)
      c.result = some (t.run d).2 ∧ (t.run d).1.printed = t.printed ++ c.printed := by
  intro d
  refine ⟨fun states replies => exists_pagesShown_logs s now o states replies hfollow, fun t => ?_⟩
  obtain ⟨before, query, asked, hshown⟩ :=
    exists_pagesShown_logs s now o (t.seen d) (t.heard d) hfollow
  obtain ⟨r, hr⟩ := hshown.exists_result
  obtain ⟨hresult, hprinted⟩ := t.run_eq_converse d r hr
  exact ⟨hr.trans (congrArg some hresult.symm), hprinted⟩

/-- Two pages of one record each are asked for, and the hub answers both. -/
theorem two_pages_shown :
    let s := Settings.resolve ⟨none, none, none⟩ ⟨none, none, none, none, none⟩
    let o : LogsOptions := ⟨["a"], [], ["miner"], none, none, none, false, some 1, 2, false⟩
    let record (id : String) : Record := ⟨id, "a", "info", "miner", "2018-10-01T12:00:00Z", "sealed"⟩
    let page (id : String) : Reply := .ok (.ok (Wire.write (Page.mk [record id])))
    let c := ((Command.logs o).dialogue s ⟨0, 0⟩).converse [] [page "7", page "6"]
    o.follow = false ∧ (∃ before query asked, PagesShown before query asked c) ∧
      c.printed = [View.logLines [record "7", record "6"]] :=
  ⟨rfl, (logs_show_consecutive_pages _ _ _ rfl).1 _ _, rfl⟩

/-- When the first of two requests is answered by an error that is passed over, the second page alone is
shown. -/
theorem second_page_without_first :
    let s := Settings.resolve ⟨none, none, none⟩ ⟨none, none, none, none, none⟩
    let o : LogsOptions := ⟨["a"], [], ["miner"], none, none, none, false, some 1, 2, false⟩
    let query : PageRequest :=
      ⟨⟨["a"], Level.all, ["miner"]⟩, "", ⟨none, none⟩, 1, 1, .newestFirst⟩
    let record : Record := ⟨"7", "a", "info", "miner", "2018-10-01T12:00:00Z", "sealed"⟩
    let missing : Reply := .ok (.error ⟨-1, "agent not found", none⟩)
    let page : Reply := .ok (.ok (Wire.write (Page.mk [record])))
    let c := ((Command.logs o).dialogue s ⟨0, 0⟩).converse [] [missing, page]
    c.result = some (.ok ()) ∧ c.printed = [View.logLines [record]] ∧
      c.exchanges = [PageExchange.exchange ⟨query, missing⟩,
        PageExchange.exchange ⟨{ query with page := 2 }, page⟩] :=
  ⟨rfl, rfl, rfl⟩

end HubConsole.Console
