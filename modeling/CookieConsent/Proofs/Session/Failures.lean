import CookieConsent.Proofs.Session.Running
import CookieConsent.Proofs.Storage.Failing

/-!
# Failures stay with the storage

A session saves its cookies behind every click that counts, and never reads them again. So its
storage cannot be told from what it does: sessions over any two storages, of which one may fail when
it likes, deal with the same events in the same way, and only what they report of saving differs.

Which cookies are saved is known from the clicks, and what the storage makes of them is its own
affair.

* `consume_withStorage`: two runs over different storages.
* `storage_consume`: what a run makes of its storage.
* `failed_saves_only_reported`: a run in which saves fail, against one in which none does.
-/

namespace CookieConsent.Session

/-! ## The clicks that count -/

section Clicks

variable {σ : Type} [Storage σ]

/-- The click that counts, if an event is one, and the cookies right behind it. -/
def click? (session : Session σ) (event : Event) : Option (Action × Jar) :=
  (session.answer? event).map fun action => (action, (session.after event).banner.jar)

/-- The clicks that count when a session deals with events, each with the cookies right behind it. -/
def clicked (session : Session σ) : List Event → List (Action × Jar)
  | [] => []
  | event :: events =>
    (session.click? event).toList ++
      if event = .unload then [] else (session.after event).clicked events

/-- The clicks that count in a run on some events, each with the cookies right behind it. -/
def clickedOn (session : Session σ) (events : List Event) : List (Action × Jar) :=
  { session with queue := none }.clicked events

/-- The clicks that count are found event by event. -/
theorem clicked_cons {event : Event} (h : event ≠ .unload) (session : Session σ)
    (events : List Event) :
    session.clicked (event :: events) =
      (session.click? event).toList ++ (session.after event).clicked events := by
  rw [clicked, if_neg h]

/-- Where the banner is on the page before the document is ready, and is put there again then, a
click counts in front of `ready` and another one behind it. -/
theorem clicked_around_ready {banner : Banner} (storage : σ) {action action' : Action}
    (shown : banner.isShown = true) (again : (banner.act action).welcome.1.isShown = true) :
    (Session.mk banner storage none false).clicked [.click action, .ready, .click action'] =
      [(action, (banner.act action).jar),
        (action', ((banner.act action).welcome.1.act action').jar)] := by
  generalize start : Session.mk banner storage none false = session
  have banner_eq : session.banner = banner := by rw [← start]
  have waiting : (session.answered action).isReady = false := by rw [← start]; rfl
  obtain ⟨first, eq⟩ := @handle_click σ _ session (by rw [banner_eq]; exact shown) {} action
  obtain ⟨second, eq'⟩ := handle_ready waiting {}
  have shown' : (session.answered action).welcomed.banner.isShown = true := by
    simp only [welcomed, answered, banner_eq, again]
  obtain ⟨third, eq''⟩ := handle_click shown' {} action'
  have stays : Event.click action ≠ .unload := nofun
  have stays' : Event.ready ≠ .unload := nofun
  have stays'' : Event.click action' ≠ .unload := nofun
  rw [clicked_cons stays, click?, first, after, eq, clicked_cons stays', click?, second, after, eq',
    clicked_cons stays'', click?, third, after, eq'']
  simp only [welcomed, answered, banner_eq, clicked, Option.map_some, Option.map_none,
    Option.toList_some, Option.toList_none, List.nil_append, List.singleton_append]

/-- The clicks that count are the answers that are given. -/
theorem map_fst_clicked (session : Session σ) (events : List Event) :
    (session.clicked events).map Prod.fst = session.answers events := by
  induction events generalizing session with
  | nil => rfl
  | cons event events ih =>
    have first : (session.click? event).toList.map Prod.fst = (session.answer? event).toList := by
      rw [click?]
      cases session.answer? event <;> rfl
    rw [clicked, answers, List.map_append, first]
    split
    · rfl
    · rw [ih]

/-! ## What becomes of the storage -/

/-- Behind a click that counts the cookies are saved, and what goes wrong is reported. -/
theorem storage_handle (session : Session σ) (report : Report) (event : Event) :
    let saves := Storage.saveAll session.storage ((session.click? event).toList.map Prod.snd)
    (session.after event).storage = saves.2 ∧
      (session.handle report event).2.storageErrors =
        report.storageErrors ++ saves.1.flatMap fun save => saveErrors save.2 := by
  rw [click?, ← fst_handle session report]
  rcases handle_cases session report event with
    ⟨-, -, answer, eq⟩ | ⟨action, -, -, answer, eq⟩ | ⟨-, -, answer, _, _, eq⟩
  · rw [answer, eq]
    exact ⟨rfl, (List.append_nil _).symm⟩
  · rw [answer, eq]
    exact ⟨rfl, congrArg (report.storageErrors ++ ·) (List.append_nil _).symm⟩
  · rw [answer, eq]
    exact ⟨rfl, (List.append_nil _).symm⟩

/-- Behind every click that counts the cookies are saved, and what goes wrong is reported in order. -/
theorem storage_consume (session : Session σ) (report : Report) (events : List Event) :
    let saves := Storage.saveAll session.storage ((session.clicked events).map Prod.snd)
    (session.consume report events).1.storage = saves.2 ∧
      (session.consume report events).2.storageErrors =
        report.storageErrors ++ saves.1.flatMap fun save => saveErrors save.2 := by
  induction events generalizing session report with
  | nil => exact ⟨rfl, (List.append_nil _).symm⟩
  | cons event events ih =>
    by_cases stays : event = .unload
    · subst stays
      exact ⟨rfl, (List.append_nil _).symm⟩
    · obtain ⟨storage, errors⟩ := session.storage_handle report event
      obtain ⟨storage', errors'⟩ := ih (session.after event) (session.handle report event).2
      rw [consume_cons stays, clicked_cons stays, List.map_append, Storage.saveAll_append,
        fst_handle, ← storage]
      refine ⟨storage', ?_⟩
      rw [errors', errors, List.flatMap_append, List.append_assoc]

end Clicks

/-! ## Another storage -/

section Over

variable {σ τ : Type}

def withStorage (session : Session σ) (storage : τ) : Session τ :=
  { banner := session.banner, storage, queue := session.queue, isReady := session.isReady }

/-- The report without what went wrong with saving. -/
def Report.silent (report : Report) : Report := { report with storageErrors := [] }

variable [Storage σ] [Storage τ]

/-- An event has the same effect over another storage, apart from what goes wrong with saving. -/
theorem handle_withStorage (session : Session σ) (storage : τ) {report report' : Report}
    (same : report'.silent = report.silent) (event : Event) :
    (∃ storage', ((session.withStorage storage).handle report' event).1 =
      (session.handle report event).1.withStorage storage') ∧
    ((session.withStorage storage).handle report' event).2.silent =
      (session.handle report event).2.silent ∧
    (session.withStorage storage).answer? event = session.answer? event := by
  simp only [Report.silent, Report.mk.injEq, and_true] at same
  obtain ⟨shown, decision, handled, ignored⟩ := same
  have isReady : (session.withStorage storage).isReady = session.isReady := rfl
  have banner : (session.withStorage storage).banner = session.banner := rfl
  cases event with
  | ready =>
    rw [handle, handle, isReady, banner, shown, handled, ignored]
    refine ⟨⟨storage, ?_⟩, ?_, rfl⟩ <;> split <;> simp [Report.silent, decision, withStorage]
  | click action =>
    cases isShown : session.banner.isShown with
    | true =>
      obtain ⟨answer, eq⟩ := handle_click isShown report action
      obtain ⟨answer', eq'⟩ := @handle_click τ _ (session.withStorage storage) isShown report' action
      rw [eq, eq', answer, answer', handled, shown, ignored]
      exact ⟨⟨_, rfl⟩, rfl, rfl⟩
    | false =>
      rw [handle, handle, banner, isShown, answer?, answer?, banner]
      refine ⟨⟨storage, rfl⟩, ?_, rfl⟩
      simp [Report.silent, shown, decision, handled, ignored]
  | unload =>
    refine ⟨⟨storage, rfl⟩, ?_, rfl⟩
    simp [handle, Report.silent, shown, decision, handled, ignored]

/-- Events have the same effect over another storage, apart from what goes wrong with saving. -/
theorem consume_withStorage (session : Session σ) (storage : τ) {report report' : Report}
    (same : report'.silent = report.silent) (events : List Event) :
    ((session.withStorage storage).consume report' events).1.banner =
      (session.consume report events).1.banner ∧
    ((session.withStorage storage).consume report' events).2.silent =
      (session.consume report events).2.silent ∧
    (session.withStorage storage).clicked events = session.clicked events := by
  -- induction on the events; what the storage holds may differ from step to step
  induction events generalizing session storage report report' with
  | nil => exact ⟨rfl, same, rfl⟩
  | cons event events ih =>
    obtain ⟨⟨storage', next⟩, reported, answer⟩ := session.handle_withStorage storage same event
    have click : (session.withStorage storage).click? event = session.click? event := by
      rw [click?, click?, answer, ← fst_handle _ report', ← fst_handle _ report, next]
      rfl
    by_cases stays : event = .unload
    · subst stays
      exact ⟨rfl, reported, rfl⟩
    · obtain ⟨banner, silent, clicked⟩ := ih (session.handle report event).1 storage' reported
      rw [consume_cons stays, consume_cons stays, clicked_cons stays, clicked_cons stays, next, click,
        ← fst_handle _ report', next, ← fst_handle _ report, clicked]
      exact ⟨banner, silent, rfl⟩

/-- **Failures of saving are reported, and nothing else.** A session deals with any events, in any
state, over a storage of which any saves may fail, as long as those leave what is held as it was. A
run over a storage in which none fails deals with the same clicks and leaves the same cookies and the
same page; the reports differ in nothing but what went wrong with saving, and there that run reports
nothing.

Behind each click that counts, the cookies are saved as they are then. The run reports the saves that
failed, in order, once each, and in the end the storage holds the cookies of the last save that went
through, or what it held before if none did. By a schedule of failures every pattern of them comes
about. -/
theorem failed_saves_only_reported {α : Type} {held : σ → α} {form : Jar → α}
    (clean : Storage.SavesCleanly held form)
    (reliable : ∀ (storage : τ) (jar : Jar), (Storage.save storage jar).1 = .ok ())
    (session : Session σ) (flawless : τ) (events : List Event) :
    let outcome := session.runOn events
    let ideal := (session.withStorage flawless).runOn events
    let clicks := session.clickedOn events
    let saves := (Storage.saveAll session.storage (clicks.map Prod.snd)).1
    outcome.1.banner = ideal.1.banner ∧
    outcome.2 = { ideal.2 with storageErrors := outcome.2.storageErrors } ∧
    ideal.2.storageErrors = [] ∧
    clicks.map Prod.fst = session.answersOn events ∧
    (session.withStorage flawless).clickedOn events = clicks ∧
    saves.map Prod.fst = clicks.map Prod.snd ∧
    outcome.2.storageErrors = (saves.flatMap fun save => saveErrors save.2) ∧
    held outcome.1.storage = ((Storage.lastSaved saves).map form).getD (held session.storage) ∧
    ∀ faults : List (Option String),
      (Storage.saveAll (FlakyStorage.mk flawless none faults) (clicks.map Prod.snd)).1.map Prod.snd =
        (clicks.map Prod.snd).mapIdx fun i _ => FlakyStorage.outcome faults[i]?.join := by
  intro outcome ideal clicks saves
  -- both runs are followed without the queue, which the storage has no part in
  have start : ({ session with queue := none } : Session σ).storage = session.storage := rfl
  obtain ⟨banner, silent, clicked⟩ :=
    @consume_withStorage σ τ _ _ { session with queue := none } flawless {} {} rfl events
  obtain ⟨storage, errors⟩ :=
    ({ session with queue := none } : Session σ).storage_consume {} events
  obtain ⟨-, noErrors⟩ :=
    (({ session with queue := none } : Session σ).withStorage flawless).storage_consume {} events
  rw [clicked, List.flatMap_eq_nil_iff.2, List.append_nil] at noErrors
  · have reports : outcome.2.silent = ideal.2.silent := silent.symm
    refine ⟨banner.symm, ?_, noErrors, map_fst_clicked _ events, clicked,
      Storage.map_fst_saveAll _ _, errors, ?_,
      fun faults => FlakyStorage.map_snd_saveAll reliable ⟨flawless, none, faults⟩ _⟩
    · exact congrArg (fun report => { report with storageErrors := outcome.2.storageErrors }) reports
    · have final : outcome.1.storage = (Storage.saveAll session.storage (clicks.map Prod.snd)).2 :=
        storage
      rw [final]
      exact clean.held_saveAll session.storage _
  · -- a storage that never fails has nothing to report
    intro save mem
    rw [Storage.snd_of_mem_saveAll reliable _ _ mem]
    rfl

end Over

/-- A page carries the banner before it is ready, and the time is so late that answers expire at
once; so two clicks count. The first save fails and is reported; the second goes through, and what it
saved is held. -/
theorem failed_saves_only_reported_first_of_two :
    let page : Page := ⟨[.element ⟨"div", [("class", "cookie-consent")], none⟩ []]⟩
    let banner : Banner := ⟨{}, Jar.empty Time.latestExpiry, page⟩
    let session : Session (FlakyStorage MemoryStorage) :=
      ⟨banner, ⟨⟨none⟩, none, [some "disk full", none]⟩, none, false⟩
    let outcome := session.runOn [.click .accept, .ready, .click .refuse]
    session.answersOn [.click .accept, .ready, .click .refuse] = [.accept, .refuse] ∧
      outcome.2.storageErrors = ["storage failure: SaveJar failed: disk full"] ∧
      outcome.1.storage.base.saved = some (Jar.empty Time.latestExpiry) := by
  intro page banner session outcome
  have valid : Cookie.isValidName "cookie-consent" := by decide
  have ne := Cookie.ne_nil_of_isValidName valid
  have plain : ∀ c ∈ "cookie-consent".toList, Text.isBlank c = false :=
    fun _ hc => Cookie.isBlank_of_mem_name valid hc
  have shown : banner.isShown = true := by
    rw [Banner.isShown, decide_eq_true_eq, Page.count, List.countP_pos_iff]
    exact ⟨_, by rw [Node.tags]; exact List.mem_cons_self, Tag.hasClass_self ne plain⟩
  -- the answer to the first click expires at once, so the visitor is asked again
  have first : banner.act .accept = ⟨{}, Jar.empty Time.latestExpiry, {}⟩ := by
    rw [Banner.act, Banner.answer, Page.remove]
    simp only [Banner.record, banner, page]
    rw [Node.without, if_pos (Tag.hasClass_self ne plain), Node.without]
    decide +kernel
  have again : (banner.act .accept).welcome.1.isShown = true := by
    rw [first]
    exact Banner.isShown_welcome (by decide) ne plain
  have second : ((banner.act .accept).welcome.1.act .refuse).jar = Jar.empty Time.latestExpiry := by
    rw [first]
    decide +kernel
  have clicks : session.clickedOn [.click .accept, .ready, .click .refuse] = _ :=
    @clicked_around_ready _ _ banner session.storage .accept .refuse shown again
  rw [second, first] at clicks
  obtain ⟨-, -, -, answers, -, -, errors, held, -⟩ :=
    failed_saves_only_reported (FlakyStorage.savesCleanly MemoryStorage.savesCleanly)
      (fun (_ : MemoryStorage) _ => rfl) session ⟨none⟩ [.click .accept, .ready, .click .refuse]
  rw [clicks] at answers errors held
  exact ⟨answers.symm, errors, held⟩

end CookieConsent.Session
