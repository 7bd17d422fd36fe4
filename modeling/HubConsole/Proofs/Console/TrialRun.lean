import HubConsole.Proofs.Console.Conversation
import HubConsole.Proofs.Console.TrialSession

namespace HubConsole.Console.Trial

open HubConsole.Json HubConsole.Session

/-- The replies that a dialogue gets in a trial, up to where it goes on as a loop. -/
def heard (t : Trial) : Dialogue → List Reply
  | .done _ => []
  | .print text next => (t.print text).heard next
  | .raise notice next => { t with notices := t.notices ++ [notice] }.heard next
  | .flush next => t.flush.heard next
  | .ask method params next =>
    let done := t.exchange method params
    done.2 :: done.1.heard (next done.2)
  | .state next => t.heard (next t.manager.state)
  | .listen next => { t with listening := true }.heard next
  | .loop _ | .follow _ => []

/-- The states that a dialogue sees in a trial, up to where it goes on as a loop. -/
def seen (t : Trial) : Dialogue → List State
  | .done _ => []
  | .print text next => (t.print text).seen next
  | .raise notice next => { t with notices := t.notices ++ [notice] }.seen next
  | .flush next => t.flush.seen next
  | .ask method params next =>
    let done := t.exchange method params
    done.1.seen (next done.2)
  | .state next => t.manager.state :: t.seen (next t.manager.state)
  | .listen next => { t with listening := true }.seen next
  | .loop _ | .follow _ => []

/-- All that a dialogue hears in a trial is what the session gives. -/
theorem fromSession_heard (t : Trial) (d : Dialogue) (h : ∀ reply ∈ t.replies, FromSession reply.2) :
    ∀ reply ∈ t.heard d, FromSession reply := by
  induction d generalizing t with
  | done | loop | follow => exact fun reply => nofun
  | print text next ih => exact ih (t.print text) h
  | raise notice next ih => exact ih { t with notices := t.notices ++ [notice] } h
  | flush next ih => exact ih t.flush h
  | ask method params next ih =>
    obtain ⟨hserves, hreply⟩ := serves_exchange t method params
    intro reply hmem
    rcases List.mem_cons.mp hmem with rfl | hmem
    · exact hreply h
    · exact ih _ _ (hserves.fromSession h) reply hmem
  | state next ih => exact ih t.manager.state t h
  | listen next ih => exact ih { t with listening := true } h

/-- A command that ends without a loop ends in a trial as its dialogue does, and prints the same. -/
theorem run_eq_converse (t : Trial) (d : Dialogue) (result : Except Failure Unit)
    (h : (d.converse (t.seen d) (t.heard d)).result = some result) :
    (t.run d).2 = result ∧
      (t.run d).1.printed = t.printed ++ (d.converse (t.seen d) (t.heard d)).printed := by
  induction d generalizing t with
  | done r => exact ⟨Option.some.inj h, (List.append_nil _).symm⟩
  | print text next ih =>
    obtain ⟨hresult, hprinted⟩ := ih (t.print text) h
    refine ⟨hresult, hprinted.trans ?_⟩
    exact List.append_assoc t.printed [text] _
  | raise notice next ih => exact ih { t with notices := t.notices ++ [notice] } h
  | flush next ih => exact ih t.flush h
  | ask method params next ih =>
    obtain ⟨hresult, hprinted⟩ := ih (t.exchange method params).2 (t.exchange method params).1 h
    rw [(t.serves_exchange method params).1.printed] at hprinted
    exact ⟨hresult, hprinted⟩
  | state next ih => exact ih t.manager.state t h
  | listen next ih => exact ih { t with listening := true } h
  | loop l => cases h
  | follow b => cases h

end HubConsole.Console.Trial
