import CookieConsent.Proofs.Session.Running

/-!
# Events in batches

A run deals with events one at a time, each of them once, and counts each of them once. What it
reports of an event does not depend on what it has reported before; so events can be dealt with in
one batch or in several, and the reports on the batches add up to the report on all of them.

* `consume_eq_foldl`: a run deals with the events up to the first with which the page goes away.
* `total_consume`: how many events a report counts.
* `consume_eq`, `runOn_append`: reports add up.
-/

namespace CookieConsent.Session

/-! ## Adding reports -/

/-- How many events a report counts. -/
def Report.total (report : Report) : Nat := report.handled + report.ignored

/-- The report on some events and on more of them behind. The decision is that of the later ones,
unless no click among them counted. -/
def Report.add (first second : Report) (clickless : Bool) : Report where
  shown := first.shown || second.shown
  decision := if clickless then first.decision else second.decision
  handled := first.handled + second.handled
  ignored := first.ignored + second.ignored
  storageErrors := first.storageErrors ++ second.storageErrors

@[simp] theorem Report.add_empty (report : Report) : report.add {} true = report := by
  simp [add]

/-- Adding reports is associative; a batch is clickless when both its parts are. -/
theorem Report.add_add (first second third : Report) (clickless clickless' : Bool) :
    (first.add second clickless).add third clickless' =
      first.add (second.add third clickless') (clickless && clickless') := by
  cases clickless <;> cases clickless' <;> simp [add, Bool.or_assoc, Nat.add_assoc]

variable {σ : Type} [Storage σ]

/-- What is reported of an event is added to what was reported before. -/
theorem snd_handle (session : Session σ) (report : Report) (event : Event) :
    (session.handle report event).2 =
      report.add (session.handle {} event).2 (session.answer? event).toList.isEmpty := by
  cases event with
  | ready =>
    rw [handle, handle, answer?]
    split <;> simp [Report.add]
  | click action =>
    rw [handle, handle, answer?]
    split <;> simp [Report.add]
  | unload => simp [handle, answer?, Report.add]

/-- What is reported of a run is added to what was reported before. -/
theorem consume_eq (session : Session σ) (report : Report) (events : List Event) :
    session.consume report events =
      ((session.consume {} events).1,
        report.add (session.consume {} events).2 (session.answers events).isEmpty) := by
  induction events generalizing session report with
  | nil => exact congrArg (Prod.mk session) report.add_empty.symm
  | cons event events ih =>
    by_cases stays : event = .unload
    · subst stays
      exact congrArg (Prod.mk session) (session.snd_handle report .unload)
    · rw [consume_cons stays, consume_cons stays, answers_cons stays, fst_handle, fst_handle,
        ih _ (session.handle report event).2, ih _ (session.handle {} event).2, snd_handle,
        Report.add_add]
      cases session.answer? event <;> rfl

/-! ## The events that are dealt with -/

/-- The events up to the first with which the page goes away. -/
def upToUnload (events : List Event) : List Event := events.take (events.idxOf .unload + 1)

theorem upToUnload_cons_unload (events : List Event) :
    upToUnload (.unload :: events) = [.unload] := by
  simp [upToUnload]

/-- What happens before the page goes away belongs to the run. -/
theorem upToUnload_cons {event : Event} (h : event ≠ .unload) (events : List Event) :
    upToUnload (event :: events) = event :: upToUnload events := by
  have other : (event == .unload) = false := by simpa using h
  rw [upToUnload, List.idxOf_cons, other, cond_false, List.take_succ_cons, upToUnload]

/-- A run deals with these events, one behind another. -/
theorem consume_eq_foldl (session : Session σ) (report : Report) (events : List Event) :
    session.consume report events =
      (upToUnload events).foldl (fun state event => state.1.handle state.2 event)
        (session, report) := by
  induction events generalizing session report with
  | nil => rfl
  | cons event events ih =>
    by_cases stays : event = .unload
    · subst stays
      rw [upToUnload_cons_unload]
      rfl
    · rw [consume_cons stays, upToUnload_cons stays, List.foldl_cons, ih]

/-- Every event is counted once. -/
theorem total_handle (session : Session σ) (report : Report) (event : Event) :
    (session.handle report event).2.total = report.total + 1 := by
  cases event with
  | ready =>
    rw [handle]
    split <;> simp [Report.total] <;> omega
  | click action =>
    rw [handle]
    split <;> simp [Report.total] <;> omega
  | unload => simp [handle, Report.total]; omega

/-- A run counts every event that it deals with once. -/
theorem total_consume (session : Session σ) (report : Report) (events : List Event) :
    (session.consume report events).2.total = report.total + (upToUnload events).length := by
  rw [consume_eq_foldl]
  induction upToUnload events generalizing session report with
  | nil => rfl
  | cons event events ih =>
    rw [List.foldl_cons, ih, List.length_cons, total_handle, Nat.add_assoc, Nat.add_comm 1]

/-! ## Batches -/

/-- Handling an event leaves the queue to those who send. -/
theorem queue_handle (session : Session σ) (report : Report) (event : Event) :
    (session.handle report event).1.queue = session.queue := by
  rcases handle_cases session report event with
    ⟨-, -, -, eq⟩ | ⟨action, -, -, -, eq⟩ | ⟨-, -, -, _, _, eq⟩ <;> rw [eq] <;> rfl

/-- A run does not touch the queue. -/
theorem queue_consume (session : Session σ) (report : Report) (events : List Event) :
    (session.consume report events).1.queue = session.queue := by
  rw [consume_eq_foldl]
  induction upToUnload events generalizing session report with
  | nil => rfl
  | cons event events ih => rw [List.foldl_cons, ih, queue_handle]

/-- Once a session runs, it takes no more events. -/
theorem queue_runOn (session : Session σ) (events : List Event) :
    (session.runOn events).1.queue = none := queue_consume _ _ _

/-- Events that do not end the page can be dealt with in two batches, of which the second goes on
where the first has led. -/
theorem runOn_append {front : List Event} (stays : .unload ∉ front) (session : Session σ)
    (back : List Event) :
    session.runOn (front ++ back) =
      (((session.runOn front).1.runOn back).1,
        (session.runOn front).2.add ((session.runOn front).1.runOn back).2
          ((session.runOn front).1.answersOn back).isEmpty) := by
  have closed : { (session.runOn front).1 with queue := none } = (session.runOn front).1 := by
    rw [← session.queue_runOn front]
  rw [runOn, runOn, answersOn, closed, consume_append stays, consume_eq]
  rfl

end CookieConsent.Session
