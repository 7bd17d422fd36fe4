import HubConsole.Proofs.Console.BoardRun

namespace HubConsole.Console.Board

open HubConsole.Dashboard HubConsole.Log HubConsole.Session HubConsole.Time

/-- The records of a buffer whose ids were not seen, from its end to its start; of the records with one id
that is the one nearest the end. -/
def fresh (seen : List String) (buffer : List Record) : List Record :=
  (buffer.reverse.filter (·.id ∉ seen)).eraseDupsBy fun r s => r.id == s.id

theorem unprinted_eq (printed : List String) (rs : List Record) :
    (unprinted printed rs).1 =
      (rs.filter (·.id ∉ printed)).eraseDupsBy fun r s => r.id == s.id := by
  induction rs generalizing printed with
  | nil => rfl
  | cons r rs ih =>
    by_cases hold : r.id ∈ printed
    · simp only [unprinted, if_pos hold, ih]
      rw [List.filter_cons_of_neg (by simpa using hold)]
    · have hrest : rs.filter (·.id ∉ r.id :: printed) =
          (rs.filter (·.id ∉ printed)).filter fun s => decide ((s.id == r.id) = false) := by
        rw [List.filter_filter]
        congr 1
        funext s
        by_cases hsame : s.id = r.id <;> simp [hsame]
      simp only [unprinted, if_neg hold, ih, hrest]
      rw [List.filter_cons_of_pos (by simpa using hold), List.eraseDupsBy_cons]

theorem unprinted_reverse (printed : List String) (buffer : List Record) :
    (unprinted printed buffer.reverse).1 = fresh printed buffer :=
  unprinted_eq printed buffer.reverse

/-- What is marked afterwards: what was marked before and what is printed now. -/
theorem mem_unprinted_marks (printed : List String) (rs : List Record) (id : String) :
    id ∈ (unprinted printed rs).2 ↔
      id ∈ printed ∨ id ∈ (unprinted printed rs).1.map (·.id) := by
  induction rs generalizing printed with
  | nil => simp [unprinted]
  | cons r rs ih =>
    by_cases hold : r.id ∈ printed
    · simp only [unprinted, if_pos hold]
      exact ih printed
    · simp only [unprinted, if_neg hold, ih, List.mem_cons, List.map_cons]
      tauto

/-- Whatever was looked at is marked. -/
theorem mem_marks_of_mem (printed : List String) (rs : List Record) (r : Record) (h : r ∈ rs) :
    r.id ∈ (unprinted printed rs).2 := by
  induction rs generalizing printed with
  | nil => cases h
  | cons first rs ih =>
    by_cases hold : first.id ∈ printed
    · simp only [unprinted, if_pos hold]
      rcases List.mem_cons.mp h with rfl | hlater
      · exact (mem_unprinted_marks printed rs r.id).mpr (.inl hold)
      · exact ih printed hlater
    · simp only [unprinted, if_neg hold]
      rcases List.mem_cons.mp h with rfl | hlater
      · exact (mem_unprinted_marks _ rs r.id).mpr (.inl List.mem_cons_self)
      · exact ih _ hlater

/-- The ids printed at once differ from each other and from those printed before. -/
theorem nodup_append_unprinted (printed : List String) (rs : List Record) (h : printed.Nodup) :
    (printed ++ (unprinted printed rs).1.map (·.id)).Nodup := by
  induction rs generalizing printed with
  | nil => simpa [unprinted] using h
  | cons r rs ih =>
    by_cases hold : r.id ∈ printed
    · simp only [unprinted, if_pos hold]
      exact ih printed h
    · simp only [unprinted, if_neg hold, List.map_cons]
      have hrest := ih (r.id :: printed) (List.nodup_cons.mpr ⟨hold, h⟩)
      exact List.nodup_middle.mpr hrest

/-- Only which ids were seen matters, not in which order or how often. -/
theorem fresh_congr (seen seen' : List String) (h : ∀ id, id ∈ seen ↔ id ∈ seen')
    (buffer : List Record) : fresh seen buffer = fresh seen' buffer := by
  simp only [fresh, h]

theorem lines_printLogs (b : Board) :
    b.printLogs.2 = (fresh b.printed b.store.logs.records).map View.logLine := by
  simp only [printLogs, unprinted_reverse]

theorem mem_printed_printLogs (b : Board) (id : String) :
    id ∈ b.printLogs.1.printed ↔
      id ∈ b.printed ∨ id ∈ (fresh b.printed b.store.logs.records).map (·.id) := by
  rw [← unprinted_reverse]
  exact mem_unprinted_marks b.printed b.store.logs.records.reverse id

/-- Whether the result of a request for log records is an answer that counts. -/
def takes (b : Board) (token : Nat) : CallResult Page → Bool
  | .ok (.value page) => (b.store.logs.respond token page.records).2
  | .ok (.suppressed _) | .error _ => false

/-- What is said of a request for log records that failed. -/
def failureLines : CallResult Page → List String
  | .error e => [s!"log fetch failed: {e.message}"]
  | .ok _ => []

/-- The records that an action prints when these ids were seen. -/
def shows (b : Board) (seen : List String) : Action → List Record
  | .event (.logs token result) =>
    if b.takes token result then fresh seen (b.apply (.logs token result)).1.store.logs.records
    else []
  | _ => []

/-- A run so far and the records that it has printed: the same after another action. -/
def record (s : Board × List Record) (a : Action) : Board × List Record :=
  ((s.1.act a).1, s.2 ++ s.1.shows (s.2.map (·.id)) a)

/-- The records that a run has printed, in order. -/
def shown (now : Instant) (as : List Action) : List Record :=
  (as.foldl record (start now, [])).2

variable {b : Board} {token : Nat} {result : CallResult Page}

theorem shows_of_takes (seen : List String) (h : b.takes token result) :
    b.shows seen (.event (.logs token result)) =
      fresh seen (b.apply (.logs token result)).1.store.logs.records :=
  if_pos h

theorem shows_of_not_takes (seen : List String) (h : ¬b.takes token result) :
    b.shows seen (.event (.logs token result)) = [] :=
  if_neg h

/-- An answer that counts prints what is new in the buffer and marks it. -/
theorem apply_of_takes (h : b.takes token result) :
    let next := b.apply (.logs token result)
    next.2 = (fresh b.printed next.1.store.logs.records).map View.logLine ∧
      ∀ id, id ∈ next.1.printed ↔
        id ∈ b.printed ∨ id ∈ (fresh b.printed next.1.store.logs.records).map (·.id) := by
  match result with
  | .ok (.value page) =>
    have happly : b.apply (.logs token (.ok (.value page))) =
        (b.updateLogs fun _ => (b.store.logs.respond token page.records).1).printLogs := if_pos h
    simp only [happly]
    exact ⟨lines_printLogs _, mem_printed_printLogs _⟩

theorem apply_of_not_takes (h : ¬b.takes token result) :
    (b.apply (.logs token result)).1.printed = b.printed ∧
      (b.apply (.logs token result)).2 = failureLines result := by
  match result with
  | .ok (.value page) =>
    have happly : b.apply (.logs token (.ok (.value page))) =
        (b.updateLogs fun _ => (b.store.logs.respond token page.records).1, []) := if_neg h
    simp only [happly]
    exact ⟨rfl, rfl⟩
  | .ok (.suppressed _) | .error _ => exact ⟨rfl, rfl⟩

/-- How the marks of a board and the records printed so far hang together. -/
structure Marked (rs : List Record) (b : Board) : Prop where
  once : (rs.map (·.id)).Nodup
  marks : ∀ id, id ∈ b.printed ↔ id ∈ rs.map (·.id)

variable {rs : List Record}

/-- Whether the marks or the records are asked, the same is printed next. -/
theorem Marked.fresh_eq (h : Marked rs b) (buffer : List Record) :
    fresh b.printed buffer = fresh (rs.map (·.id)) buffer :=
  fresh_congr _ _ h.marks buffer

theorem Marked.act (h : Marked rs b) (a : Action) :
    Marked (rs ++ b.shows (rs.map (·.id)) a) (b.act a).1 := by
  -- Without new records nothing has to be marked.
  have hquiet (next : Board) (hsame : next.printed = b.printed) : Marked (rs ++ []) next := by
    rw [List.append_nil]
    exact ⟨h.once, hsame ▸ h.marks⟩
  match a with
  | .event (.logs token result) =>
    by_cases htakes : b.takes token result
    · rw [shows_of_takes _ htakes]
      constructor
      · rw [List.map_append, ← unprinted_reverse]
        exact nodup_append_unprinted _ _ h.once
      · intro id
        have hmarks := (apply_of_takes htakes).2 id
        rw [h.fresh_eq, h.marks] at hmarks
        rw [List.map_append, List.mem_append]
        exact hmarks
    · rw [shows_of_not_takes _ htakes]
      exact hquiet _ (apply_of_not_takes htakes).1
  | .event (.push _) | .event (.connection _) => exact hquiet _ rfl
  | .setNetwork _ | .setDetail _ | .network _ | .logs _ | .graph _ => exact hquiet _ rfl

theorem board_record (now : Instant) (as : List Action) :
    (as.foldl record (start now, [])).1 = after now as := by
  induction as using List.reverseRecOn with
  | nil => rfl
  | append_singleton as a ih =>
    rw [List.foldl_concat, after_snoc, record, ih]

theorem shown_snoc (now : Instant) (as : List Action) (a : Action) :
    shown now (as ++ [a]) =
      shown now as ++ (after now as).shows ((shown now as).map (·.id)) a := by
  unfold shown
  rw [List.foldl_concat, record, board_record]

theorem marked_after (now : Instant) (as : List Action) : Marked (shown now as) (after now as) := by
  induction as using List.reverseRecOn with
  | nil => exact ⟨.nil, fun _ => Iff.rfl⟩
  | append_singleton as a ih =>
    rw [shown_snoc, after_snoc]
    exact ih.act a

/-- The actions that bring a page of log records. -/
def Action.bringsPage : Action → Bool
  | .event (.logs _ (.ok (.value _))) => true
  | _ => false

/-- All lines of a run that are printed for pages of log records. -/
def pageLines (now : Instant) (as : List Action) : List String :=
  (((start now).transcript as).filter (·.1.bringsPage)).flatMap Prod.snd

theorem Marked.lines (h : Marked rs b) (a : Action) :
    (if a.bringsPage then (b.act a).2 else []) =
      (b.shows (rs.map (·.id)) a).map View.logLine := by
  match a with
  | .event (.logs token (.ok (.value page))) =>
    simp only [Action.bringsPage, if_true]
    by_cases htakes : b.takes token (.ok (.value page))
    · rw [shows_of_takes _ htakes, ← h.fresh_eq]
      exact (apply_of_takes htakes).1
    · rw [shows_of_not_takes _ htakes]
      exact (apply_of_not_takes htakes).2
  | .event (.logs _ (.ok (.suppressed _))) | .event (.logs _ (.error _)) => rfl
  | .event (.push _) | .event (.connection _) => rfl
  | .setNetwork _ | .setDetail _ | .network _ | .logs _ | .graph _ => rfl

theorem pageLines_eq (now : Instant) (as : List Action) :
    pageLines now as = (shown now as).map View.logLine := by
  induction as using List.reverseRecOn with
  | nil => rfl
  | append_singleton as a ih =>
    have hlast := (marked_after now as).lines a
    rw [shown_snoc, List.map_append, ← ih, ← hlast]
    unfold pageLines
    rw [transcript_snoc, List.filter_append, List.flatMap_append]
    congr 1
    simp only [List.filter_cons, List.filter_nil]
    split
    · exact List.flatMap_singleton ..
    · rfl

/-- Once an answer counts, all its records are in the buffer. -/
theorem mem_records_of_takes (page : Page) (h : b.takes token (.ok (.value page))) (r : Record)
    (hr : r ∈ page.records) :
    r ∈ (b.apply (.logs token (.ok (.value page)))).1.store.logs.records := by
  rw [logs_apply_page]
  cases hcurrent : b.store.logs.current? token with
  | none =>
    rw [takes, LogQuery.respond_of_stale _ token page.records hcurrent] at h
    cases h
  | some p =>
    obtain ⟨hout, rfl⟩ := (LogQuery.current?_eq_some_iff _ token p).mp hcurrent
    rw [LogQuery.respond_of_current _ p page.records hout]
    unfold LogQuery.records
    split <;> simp [hr]

/-- Once another request is begun, no answer to one from before counts. -/
theorem not_takes_of_superseded (now : Instant) (before since : List Action) (token : Nat)
    (hold : token ∈ LogQuery.issuedTokens (LogQuery.effects now (logActions before)))
    (hnew : ∃ a ∈ logActions since, a.issues) (result : CallResult Page) :
    ¬(after now (before ++ since)).takes token result := by
  have hnone := LogQuery.not_awaited_of_superseded now _ _ token hold hnew
  have hrun : logActions (before ++ since) = logActions before ++ logActions since :=
    List.filterMap_append
  match result with
  | .ok (.value page) =>
    rw [takes, logs_after, hrun, LogQuery.respond_iff]
    exact hnone
  | .ok (.suppressed _) | .error _ => exact Bool.false_ne_true

/-- Every record is printed once. In a run no two printed records have one id, and what was printed for pages
of records are their lines. An answer that counts prints what is new in the buffer, from its end to its start,
and has all its records printed then or before. Nothing else prints records or marks any as printed: neither
an answer that does not count, as after a later request, nor a request that is suppressed or fails, which at
most says so. -/
theorem records_printed_once (now : Instant) (as : List Action) :
    let b := after now as
    let seen := (shown now as).map (·.id)
    seen.Nodup ∧ (∀ id, id ∈ b.printed ↔ id ∈ seen) ∧
    pageLines now as = (shown now as).map View.logLine ∧
    (∀ token page, b.takes token (.ok (.value page)) →
      let e := Event.logs token (.ok (.value page))
      let new := fresh seen (b.apply e).1.store.logs.records
      (b.apply e).2 = new.map View.logLine ∧ shown now (as ++ [.event e]) = shown now as ++ new ∧
        ∀ r ∈ page.records, r.id ∈ (b.apply e).1.printed) ∧
    (∀ token result, ¬b.takes token result →
      let e := Event.logs token result
      (b.apply e).2 = failureLines result ∧ shown now (as ++ [.event e]) = shown now as ∧
        (b.apply e).1.printed = b.printed) ∧
    (∀ before since token result, as = before ++ since →
      token ∈ LogQuery.issuedTokens (LogQuery.effects now (logActions before)) →
        (∃ a ∈ logActions since, a.issues) → ¬b.takes token result) := by
  have hmarked := marked_after now as
  refine ⟨hmarked.once, hmarked.marks, pageLines_eq now as, ?_, ?_, ?_⟩
  · intro token page htakes e new
    have hlines := (apply_of_takes htakes).1
    rw [hmarked.fresh_eq] at hlines
    refine ⟨hlines, ?_, ?_⟩
    · rw [shown_snoc, shows_of_takes _ htakes]
    · intro r hr
      have hbuffer := mem_records_of_takes page htakes r hr
      have hmarks := mem_marks_of_mem (after now as).printed _ r (List.mem_reverse.mpr hbuffer)
      rw [mem_unprinted_marks, unprinted_reverse] at hmarks
      exact ((apply_of_takes htakes).2 r.id).mpr hmarks
  · intro token result htakes e
    obtain ⟨hsame, hlines⟩ := apply_of_not_takes htakes
    refine ⟨hlines, ?_, hsame⟩
    rw [shown_snoc, shows_of_not_takes _ htakes, List.append_nil]
  · intro before since token result hsplit hold hnew
    have hnone := not_takes_of_superseded now before since token hold hnew result
    rw [← hsplit] at hnone
    exact hnone

/-- A late answer, two that overlap, and a page with one id twice. -/
example :
    let record (id message : String) : Record := ⟨id, "a", "info", "miner", "2018-10-01T12:00:00Z", message⟩
    let answer (token : Nat) (rs : List Record) : Action := .event (.logs token (.ok (.value ⟨rs⟩)))
    let fetch : Action := .logs (.beginFetch false)
    let as := [fetch, fetch, answer 1 [record "9" "late"],
      answer 2 [record "2" "second", record "1" "first"], fetch,
      answer 3 [record "3" "new", record "2" "second", record "3" "old"]]
    shown ⟨0, 0⟩ as = [record "1" "first", record "2" "second", record "3" "old"] ∧
      pageLines ⟨0, 0⟩ as = ["2018-10-01T12:00:00Z info  a miner first",
        "2018-10-01T12:00:00Z info  a miner second", "2018-10-01T12:00:00Z info  a miner old"] := by
  decide +kernel

end HubConsole.Console.Board
