import HubConsole.Log.Basic

namespace HubConsole.Dashboard

open HubConsole.Log HubConsole.Time

/-- The bounds of the query. They are kept while they are not in use. -/
structure TimeWindow where
  fromTime : Instant
  toTime : Instant
  useFrom : Bool
  useTo : Bool
  deriving DecidableEq

namespace TimeWindow

def lastDays (now : Instant) (days : Nat) : TimeWindow := ⟨now.minusDays days, now, false, false⟩

/-- The bounds in use. -/
def range (w : TimeWindow) : Range :=
  ⟨if w.useFrom then some w.fromTime else none, if w.useTo then some w.toTime else none⟩

end TimeWindow

/-- A change of the query; what is not given stays. -/
structure FilterChange where
  nodes : Option (List String) := none
  levels : Option (List Level) := none
  targets : Option (List String) := none
  search : Option String := none
  fromTime : Option Instant := none
  toTime : Option Instant := none
  useFrom : Option Bool := none
  useTo : Option Bool := none
  perPage : Option Nat := none
  direction : Option Direction := none
  deriving DecidableEq

def FilterChange.touchesTime (c : FilterChange) : Bool :=
  c.fromTime.isSome || c.toTime.isSome || c.useFrom.isSome || c.useTo.isSome

/-- A request that has no answer yet. -/
structure Pending where
  token : Nat
  append : Bool
  perPage : Nat
  page : Nat
  /-- The page to go back to when the request fails. -/
  pageBefore : Nat
  deriving DecidableEq

/-- What is asked for, page by page, and the records that came back. Every request gets a token, greater than all
before it, and only an answer with the token of the last request counts. -/
structure LogQuery where
  filter : Filter
  search : String
  window : TimeWindow
  page : Nat
  perPage : Nat
  direction : Direction
  /-- None until the first answer. -/
  buffer : Option (List Record)
  noMoreData : Bool
  lastToken : Nat
  outstanding : Option Pending
  /-- The targets that the hub knows; none until it was asked. -/
  targets : Option (List String)
  fetchingTargets : Bool
  autoRefresh : Bool
  deriving DecidableEq

namespace LogQuery

def defaultPerPage : Nat := 15

def defaultDays : Nat := 7

def start (now : Instant) : LogQuery where
  filter := ⟨[], Level.all, []⟩
  search := ""
  window := .lastDays now defaultDays
  page := 1
  perPage := defaultPerPage
  direction := .newestFirst
  buffer := none
  noMoreData := false
  lastToken := 0
  outstanding := none
  targets := none
  fetchingTargets := false
  autoRefresh := false

def records (q : LogQuery) : List Record := q.buffer.getD []

def isLoaded (q : LogQuery) : Bool := q.buffer.isSome

def isFetching (q : LogQuery) : Bool := q.outstanding.isSome

/-- The request that the query stands for now. -/
def request (q : LogQuery) : PageRequest :=
  ⟨q.filter, q.search, q.window.range, q.page, q.perPage, q.direction⟩

/-- Changes the query and goes back to the first page. A page holds at least one record. -/
def change (q : LogQuery) (c : FilterChange) : LogQuery :=
  { q with
    filter :=
      ⟨c.nodes.getD q.filter.nodes, c.levels.getD q.filter.levels,
        c.targets.getD q.filter.targets⟩
    search := c.search.getD q.search
    window :=
      ⟨c.fromTime.getD q.window.fromTime, c.toTime.getD q.window.toTime,
        c.useFrom.getD q.window.useFrom, c.useTo.getD q.window.useTo⟩
    perPage := (c.perPage.map (max · 1)).getD q.perPage
    direction := c.direction.getD q.direction
    page := 1
    noMoreData := false }

/-- A change by hand. One of the bounds in time ends the refreshing. -/
def changeFilters (q : LogQuery) (c : FilterChange) : LogQuery :=
  { q with autoRefresh := q.autoRefresh && !c.touchesTime }.change c

/-- Takes back the page of a request for more, unless the query has changed since. -/
def rollBack (q : LogQuery) (p : Pending) : LogQuery :=
  if p.append ∧ q.page = p.page then { q with page := p.pageBefore } else q

/-- Gives up the request that has no answer yet. -/
def abandon (q : LogQuery) : LogQuery :=
  match q.outstanding with
  | none => q
  | some p => { q with outstanding := none }.rollBack p

def issue (q : LogQuery) (append : Bool) (pageBefore : Nat) : LogQuery :=
  { q with
    lastToken := q.lastToken + 1
    outstanding := some ⟨q.lastToken + 1, append, q.perPage, q.page, pageBefore⟩ }

/-- Asks for the page the query is at. -/
def beginFetch (q : LogQuery) (append : Bool) : LogQuery := q.abandon.issue append q.abandon.page

/-- Asks for the page after it. -/
def loadMore (q : LogQuery) : LogQuery :=
  { q.abandon with page := q.abandon.page + 1 }.issue true q.abandon.page

/-- The outstanding request, if it has this token. -/
def current? (q : LogQuery) (token : Nat) : Option Pending :=
  q.outstanding.filter (·.token == token)

/-- Takes an answer; also whether it counted. A page that is not full is the last one. -/
def respond (q : LogQuery) (token : Nat) (records : List Record) : LogQuery × Bool :=
  match q.current? token with
  | none => (q, false)
  | some p =>
    ({ q with
        outstanding := none
        buffer := if p.append then some (q.records ++ records) else some records
        noMoreData := q.noMoreData || records.length < p.perPage }, true)

def fetchFailed (q : LogQuery) (token : Nat) : LogQuery :=
  match q.current? token with
  | none => q
  | some p => { q with outstanding := none }.rollBack p

def shouldFetchTargets (q : LogQuery) : Bool := !q.fetchingTargets

/-- Marks the targets as being fetched, unless they are; also whether it did. -/
def beginTargets (q : LogQuery) : LogQuery × Bool :=
  ({ q with fetchingTargets := true }, q.shouldFetchTargets)

def targetsFailed (q : LogQuery) : LogQuery := { q with fetchingTargets := false }

/-- Keeps the targets that the hub knows and asks for all of them. -/
def setTargets (q : LogQuery) (targets : List String) : LogQuery :=
  { q with fetchingTargets := false, targets := some targets }.change { targets := some targets }

/-- Moves the window on to now, newest records first. -/
def advance (q : LogQuery) (now : Instant) : LogQuery :=
  q.change { toTime := some now, useTo := some true, direction := some .newestFirst }

/-- Starts or ends the refreshing; also whether to fetch. -/
def setAutoRefresh (q : LogQuery) (on : Bool) (now : Instant) : LogQuery × Bool :=
  (if on then { q with autoRefresh := true }.advance now else { q with autoRefresh := false }, on)

/-- The time has come to refresh; also whether to fetch. -/
def tick (q : LogQuery) (now : Instant) : LogQuery × Bool :=
  if q.autoRefresh then (q.advance now, true) else (q, false)

end LogQuery
end HubConsole.Dashboard
