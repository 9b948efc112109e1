import CookieConsent.Proofs.Banner.Showing
import CookieConsent.Session.Basic

/-!
# What events do to a session

One event does one of three things: it shows the banner, if it is the first to say that the document
is ready; it answers the banner, if it is a click while the banner is on the page; or it only counts.
Everything about runs is derived from these three cases.

* `handle_cases`: what one event can do.
* `answers`: the clicks that count in a run.
-/

namespace CookieConsent.Session

open Time (Instant)

variable {σ : Type} [Storage σ]

/-- The answer that an event is, if it is a click that counts. -/
def answer? (session : Session σ) : Event → Option Action
  | .click action => if session.banner.isShown then some action else none
  | .ready => none
  | .unload => none

def after (session : Session σ) (event : Event) : Session σ := (session.handle {} event).1

/-- The clicks that count when a session deals with events, in order. -/
def answers (session : Session σ) : List Event → List Action
  | [] => []
  | event :: events =>
    (session.answer? event).toList ++
      if event = .unload then [] else (session.after event).answers events

/-- The session in which the document has become ready. -/
def welcomed (session : Session σ) : Session σ :=
  { session with banner := session.banner.welcome.1, isReady := true }

/-- The session in which a click has counted. -/
def answered (session : Session σ) (action : Action) : Session σ :=
  { session with
    banner := session.banner.act action
    storage := (Storage.save session.storage (session.banner.act action).jar).2 }

/-- What is reported of saving. -/
def saveErrors : Except String Unit → List String
  | .ok _ => []
  | .error reason => [(ConsentError.failed "SaveJar" reason).message]

/-- Saving hands the jar to the storage and changes nothing else of the session. -/
theorem save_eq (session : Session σ) :
    session.save =
      ({ session with storage := (Storage.save session.storage session.banner.jar).2 },
        saveErrors (Storage.save session.storage session.banner.jar).1) := by
  unfold save
  rcases Storage.save session.storage session.banner.jar with ⟨_ | _, _⟩ <;> rfl

variable {session : Session σ} {report : Report}

omit [Storage σ] in
/-- A session is opened with its banner and its storage, before the document is ready. -/
theorem make_eq_ok {banner : Banner} {storage : σ} {capacity : Nat}
    (h : make banner storage capacity = .ok session) :
    session.banner = banner ∧ session.storage = storage ∧ session.isReady = false := by
  unfold make at h
  split at h
  · obtain rfl := Except.ok.inj h
    exact ⟨rfl, rfl, rfl⟩
  · cases h

/-- What one event can do: show the banner, answer it, or only count. -/
theorem handle_cases (session : Session σ) (report : Report) (event : Event) :
    (event = .ready ∧ session.isReady = false ∧ session.answer? event = none ∧
      session.handle report event = (session.welcomed,
        { report with
          shown := report.shown || session.banner.welcome.2
          handled := report.handled + 1 })) ∨
    (∃ action, event = .click action ∧ session.banner.isShown = true ∧
      session.answer? event = some action ∧
      session.handle report event = (session.answered action,
        { report with
          decision := (session.banner.act action).state.decision?
          handled := report.handled + 1
          storageErrors := report.storageErrors ++
            saveErrors (Storage.save session.storage (session.banner.act action).jar).1 })) ∨
    ((event = .ready → session.isReady = true) ∧
      (∀ action, event = .click action → session.banner.isShown = false) ∧
      session.answer? event = none ∧
      ∃ handled ignored,
        session.handle report event = (session, { report with handled, ignored })) := by
  -- an event that counts is the first `ready` or a click on the banner; all others are of the third
  -- kind
  cases event with
  | ready =>
    cases ready : session.isReady with
    | false =>
      refine .inl ⟨rfl, rfl, rfl, ?_⟩
      rw [handle, ready]
      rfl
    | true =>
      refine .inr (.inr ⟨fun _ => rfl, nofun, rfl, report.handled,
        report.ignored + 1, ?_⟩)
      rw [handle, ready]
      rfl
  | click action =>
    cases shown : session.banner.isShown with
    | true =>
      refine .inr (.inl ⟨action, rfl, rfl, (by rw [answer?, shown]; rfl), ?_⟩)
      rw [handle, shown, save_eq]
      rfl
    | false =>
      refine .inr (.inr ⟨nofun, fun _ _ => rfl, (by rw [answer?, shown]; rfl),
        report.handled, report.ignored + 1, ?_⟩)
      rw [handle, shown]
      rfl
  | unload =>
    exact .inr (.inr ⟨nofun, nofun, rfl, report.handled + 1,
      report.ignored, rfl⟩)

/-- The first event that says that the document is ready shows the banner, if it has to be shown. -/
theorem handle_ready (waiting : session.isReady = false) (report : Report) :
    session.answer? .ready = none ∧
      session.handle report .ready = (session.welcomed,
        { report with
          shown := report.shown || session.banner.welcome.2
          handled := report.handled + 1 }) := by
  rcases handle_cases session report .ready with ⟨-, -, result⟩ | ⟨_, eq, -⟩ | ⟨ready, -⟩
  · exact result
  · cases eq
  · rw [ready rfl] at waiting
    cases waiting

/-- A click while the banner is shown answers it. -/
theorem handle_click (shown : session.banner.isShown = true) (report : Report) (action : Action) :
    session.answer? (.click action) = some action ∧
      session.handle report (.click action) = (session.answered action,
        { report with
          decision := (session.banner.act action).state.decision?
          handled := report.handled + 1
          storageErrors := report.storageErrors ++
            saveErrors (Storage.save session.storage (session.banner.act action).jar).1 }) := by
  rcases handle_cases session report (.click action) with
    ⟨eq, -⟩ | ⟨_, eq, -, result⟩ | ⟨-, gone, -⟩
  · cases eq
  · cases eq
    exact result
  · rw [gone action rfl] at shown
    cases shown

/-- What becomes of a session does not depend on what has been reported. -/
theorem fst_handle (session : Session σ) (report : Report) (event : Event) :
    (session.handle report event).1 = session.after event := by
  cases event with
  | ready =>
    rw [after, handle, handle]
    split <;> rfl
  | click action =>
    rw [after, handle, handle]
    split <;> rfl
  | unload => rfl

/-! ## Runs -/

@[simp] theorem consume_nil (session : Session σ) (report : Report) :
    session.consume report [] = (session, report) := rfl

/-- Events are handled one by one, each in the session that those before it left. -/
theorem consume_cons {event : Event} (h : event ≠ .unload) (session : Session σ) (report : Report)
    (events : List Event) :
    session.consume report (event :: events) =
      (session.handle report event).1.consume (session.handle report event).2 events := by
  rw [consume]
  exact if_neg h

/-- A run up to some event goes on as a run from there. -/
theorem consume_append {front : List Event} (stays : .unload ∉ front) (session : Session σ)
    (report : Report) (back : List Event) :
    session.consume report (front ++ back) =
      (session.consume report front).1.consume (session.consume report front).2 back := by
  induction front generalizing session report with
  | nil => rfl
  | cons event front ih =>
    have first : event ≠ .unload := fun eq => stays (eq ▸ List.mem_cons_self)
    rw [List.cons_append, consume_cons first, consume_cons first,
      ih fun mem => stays (List.mem_cons_of_mem event mem)]

/-- Answers are given event by event. -/
theorem answers_cons {event : Event} (h : event ≠ .unload) (session : Session σ)
    (events : List Event) :
    session.answers (event :: events) =
      (session.answer? event).toList ++ (session.after event).answers events := by
  rw [answers, if_neg h]

/-- The clicks that count in a run on some events. -/
def answersOn (session : Session σ) (events : List Event) : List Action :=
  { session with queue := none }.answers events

end CookieConsent.Session
