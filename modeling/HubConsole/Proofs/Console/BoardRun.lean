import HubConsole.Console.Board
import HubConsole.Proofs.Dashboard.LogToken
import HubConsole.Proofs.Dashboard.NetworkRun

namespace HubConsole.Console.Board

open HubConsole.Dashboard HubConsole.Log HubConsole.Session HubConsole.Time

/-- All that can be done with a board. -/
inductive Action where
  | event (e : Event)
  | setNetwork (n : Network)
  | setDetail (d : Node.Detail)
  | network (a : NetworkStore.Action)
  | logs (a : LogQuery.Action)
  | graph (window : GraphWindow)

/-- The board after an action, and the lines to print. -/
def act (b : Board) : Action → Board × List String
  | .event e => b.apply e
  | .setNetwork n => (b.setNetwork n, [])
  | .setDetail d => (b.setDetail d, [])
  | .network a => (b.updateNetwork (·.act a), [])
  | .logs a => (b.updateLogs fun q => (q.act a).1, [])
  | .graph window => (b.updateGraph fun _ => window, [])

/-- The actions of a run, each with the lines that it prints. -/
def transcript (b : Board) : List Action → List (Action × List String)
  | [] => []
  | a :: as => (a, (b.act a).2) :: (b.act a).1.transcript as

def run (b : Board) (as : List Action) : Board := as.foldl (fun b a => (b.act a).1) b

/-- The board after a run from the start. -/
def after (now : Instant) (as : List Action) : Board := (start now).run as

theorem run_snoc (b : Board) (as : List Action) (a : Action) :
    b.run (as ++ [a]) = ((b.run as).act a).1 :=
  List.foldl_concat ..

theorem after_snoc (now : Instant) (as : List Action) (a : Action) :
    after now (as ++ [a]) = ((after now as).act a).1 :=
  run_snoc ..

theorem transcript_snoc (b : Board) (as : List Action) (a : Action) :
    b.transcript (as ++ [a]) = b.transcript as ++ [(a, ((b.run as).act a).2)] := by
  induction as generalizing b with
  | nil => rfl
  | cons first as ih => simp only [List.cons_append, transcript, ih, run, List.foldl_cons]

/-- What an action is to the log query. -/
def Action.toLogs? : Action → Option LogQuery.Action
  | .event (.logs token (.ok (.value page))) => some (.respond token page.records)
  | .event (.logs token (.ok (.suppressed _))) => some (.fetchFailed token)
  | .event (.logs token (.error _)) => some (.fetchFailed token)
  | .event (.push _) => none
  | .event (.connection _) => none
  | .setNetwork n => some (.changeFilters { nodes := some n.names })
  | .logs a => some a
  | .setDetail _ => none
  | .network _ => none
  | .graph _ => none

/-- A run as the log query sees it. -/
def logActions (as : List Action) : List LogQuery.Action := as.filterMap Action.toLogs?

/-- Printing does not touch the query. -/
theorem logs_apply_page (b : Board) (token : Nat) (page : Page) :
    (b.apply (.logs token (.ok (.value page)))).1.store.logs =
      (b.store.logs.respond token page.records).1 := by
  simp only [apply]
  split <;> rfl

theorem logs_act (b : Board) (a : Action) :
    (b.act a).1.store.logs = (b.store.logs.run a.toLogs?.toList).1 := by
  match a with
  | .event (.logs token (.ok (.value page))) => exact logs_apply_page b token page
  | .event (.logs _ (.ok (.suppressed _))) | .event (.logs _ (.error _)) => rfl
  | .event (.push (.network _)) | .event (.push (.node _)) | .event (.connection _) => rfl
  | .setNetwork _ | .setDetail _ | .network _ | .logs _ | .graph _ => rfl

theorem logs_after (now : Instant) (as : List Action) :
    (after now as).store.logs = LogQuery.after now (logActions as) := by
  induction as using List.reverseRecOn with
  | nil => rfl
  | append_singleton as a ih =>
    have hlast : logActions (as ++ [a]) = logActions as ++ a.toLogs?.toList := by
      simp only [logActions, List.filterMap_append, List.filterMap_cons, List.filterMap_nil]
      cases a.toLogs? <;> rfl
    rw [after_snoc, logs_act, ih, hlast]
    unfold LogQuery.after
    rw [LogQuery.run_append]

end HubConsole.Console.Board
