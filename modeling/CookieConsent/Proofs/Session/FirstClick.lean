import CookieConsent.Proofs.Session.Running
import CookieConsent.Storage.Memory

/-!
# The first click wins

A session goes through three phases. It waits until the document is ready; clicks do nothing, since
no banner is on the page. Then, if the visitor has not been asked, the banner is shown until a click
answers it. From then on nothing happens any more. So at most one click counts, and it is the first
one behind the first event that says that the document is ready.

* `consume_of_done`, `consume_of_shown`, `consume_of_waiting`: a run from each of the phases.
* `first_click_wins`: a run from the beginning.
-/

namespace CookieConsent.Session

open Time (Instant)

variable {σ : Type} [Storage σ] {session : Session σ}

/-- An event that only counts changes nothing. -/
theorem handle_of_idle {event : Event} (ready : event = .ready → session.isReady = true)
    (gone : ∀ action, event = .click action → session.banner.isShown = false) (report : Report) :
    session.answer? event = none ∧
      ∃ handled ignored,
        session.handle report event = (session, { report with handled, ignored }) := by
  rcases handle_cases session report event with
    ⟨eq, waiting, -⟩ | ⟨action, eq, shown, -⟩ | ⟨-, -, idle⟩
  · rw [ready eq] at waiting
    cases waiting
  · rw [gone action eq] at shown
    cases shown
  · exact idle

/-- An event does nothing when the page is ready and, for a click, the banner gone. -/
theorem after_of_idle {event : Event} (ready : event = .ready → session.isReady = true)
    (gone : ∀ action, event = .click action → session.banner.isShown = false) :
    session.after event = session := by
  obtain ⟨-, handled, ignored, eq⟩ := handle_of_idle ready gone {}
  rw [after, eq]

/-- An event that only counts, and does not end the page, is passed over. -/
theorem consume_of_idle {event : Event} (stays : event ≠ .unload)
    (ready : event = .ready → session.isReady = true)
    (gone : ∀ action, event = .click action → session.banner.isShown = false) (report : Report)
    (events : List Event) :
    session.answers (event :: events) = session.answers events ∧
      ∃ handled ignored, session.consume report (event :: events) =
        session.consume { report with handled, ignored } events := by
  obtain ⟨answer, handled, ignored, eq⟩ := handle_of_idle ready gone report
  constructor
  · rw [answers_cons stays, answer, after_of_idle ready gone]
    rfl
  · exact ⟨handled, ignored, by rw [consume_cons stays, eq]⟩

/-- Once the document is ready and no banner is on the page, nothing happens any more. -/
theorem consume_of_done (ready : session.isReady = true) (gone : session.banner.isShown = false)
    (report : Report) (events : List Event) :
    session.answers events = [] ∧
      ∃ handled ignored,
        session.consume report events = (session, { report with handled, ignored }) := by
  induction events generalizing report with
  | nil => exact ⟨rfl, report.handled, report.ignored, rfl⟩
  | cons event events ih =>
    by_cases stays : event = .unload
    · subst stays
      exact ⟨rfl, report.handled + 1, report.ignored, rfl⟩
    · obtain ⟨answers, handled, ignored, eq⟩ :=
        consume_of_idle stays (fun _ => ready) (fun _ _ => gone) report events
      obtain ⟨rest, handled', ignored', eq'⟩ := ih { report with handled, ignored }
      exact ⟨answers.trans rest, handled', ignored', eq.trans eq'⟩

/-- An answer takes the banner away. -/
theorem isShown_answered (session : Session σ) (action : Action) :
    (session.answered action).banner.isShown = false :=
  Banner.isShown_act session.banner action

/-- While the banner is shown, the first click answers it, and it is the last one that counts. -/
theorem consume_of_shown (ready : session.isReady = true) (shown : session.banner.isShown = true)
    (report : Report) (events : List Event) :
    (session.answers events = [] ∧
      ∃ handled ignored, session.consume report events = (session, { report with handled, ignored })) ∨
    ∃ action between rest, events = between ++ .click action :: rest ∧
      (∀ event ∈ between, event = .ready) ∧ session.answers events = [action] ∧
      ∃ handled ignored, session.consume report events = (session.answered action,
        { report with
          decision := (session.banner.act action).state.decision?
          handled, ignored
          storageErrors := report.storageErrors ++
            saveErrors (Storage.save session.storage (session.banner.act action).jar).1 }) := by
  induction events generalizing report with
  | nil => exact .inl ⟨rfl, report.handled, report.ignored, rfl⟩
  | cons event events ih =>
    cases event with
    | unload => exact .inl ⟨rfl, report.handled + 1, report.ignored, rfl⟩
    | ready =>
      obtain ⟨answers, handled, ignored, eq⟩ :=
        @consume_of_idle σ _ session .ready nofun (fun _ => ready) nofun report events
      rcases ih { report with handled, ignored } with
        ⟨none, handled', ignored', eq'⟩ |
        ⟨action, between, rest, split, clickless, one, handled', ignored', eq'⟩
      · exact .inl ⟨answers.trans none, handled', ignored', eq.trans eq'⟩
      · refine .inr ⟨action, .ready :: between, rest, by rw [split]; rfl, ?_, answers.trans one,
          handled', ignored', eq.trans eq'⟩
        intro event mem
        rcases List.mem_cons.1 mem with rfl | mem
        · rfl
        · exact clickless event mem
    | click action =>
      -- the answer takes the banner away, so nothing happens behind this click
      have stays : Event.click action ≠ .unload := nofun
      obtain ⟨answer, eq⟩ := handle_click shown report action
      have done := @consume_of_done σ _ (session.answered action) ready
        (isShown_answered session action)
      obtain ⟨none, handled, ignored, rest⟩ := done _ events
      refine .inr ⟨action, [], events, rfl, fun _ mem => absurd mem List.not_mem_nil, ?_, handled,
        ignored, ?_⟩
      · rw [answers_cons stays, answer, ← fst_handle session report, eq, none]
        rfl
      · rw [consume_cons stays, eq, rest]

/-- Until the document is ready, all clicks are passed over. -/
theorem consume_of_waiting (waiting : session.isReady = false)
    (gone : session.banner.isShown = false) (report : Report) (events : List Event) :
    (session.answers events = [] ∧
      ∃ handled ignored, session.consume report events = (session, { report with handled, ignored })) ∨
    ∃ before rest, events = before ++ .ready :: rest ∧
      (∀ event ∈ before, ∃ action, event = .click action) ∧
      session.answers events = session.welcomed.answers rest ∧
      ∃ handled ignored, session.consume report events = session.welcomed.consume
        { report with shown := report.shown || session.banner.welcome.2, handled, ignored } rest := by
  induction events generalizing report with
  | nil => exact .inl ⟨rfl, report.handled, report.ignored, rfl⟩
  | cons event events ih =>
    cases event with
    | unload => exact .inl ⟨rfl, report.handled + 1, report.ignored, rfl⟩
    | ready =>
      -- the waiting ends here; what follows is a run of the session that was welcomed
      have stays : Event.ready ≠ .unload := nofun
      obtain ⟨answer, eq⟩ := handle_ready waiting report
      refine .inr ⟨[], events, rfl, fun _ mem => absurd mem List.not_mem_nil, ?_,
        report.handled + 1, report.ignored, ?_⟩
      · rw [answers_cons stays, answer, ← fst_handle session report, eq]
        rfl
      · rw [consume_cons stays, eq]
    | click action =>
      obtain ⟨answers, handled, ignored, eq⟩ :=
        @consume_of_idle σ _ session (.click action) nofun nofun (fun _ _ => gone) report events
      rcases ih { report with handled, ignored } with
        ⟨none, handled', ignored', eq'⟩ | ⟨before, rest, split, clicks, later, handled', ignored', eq'⟩
      · exact .inl ⟨answers.trans none, handled', ignored', eq.trans eq'⟩
      · refine .inr ⟨.click action :: before, rest, by rw [split]; rfl, ?_, answers.trans later,
          handled', ignored', eq.trans eq'⟩
        intro event mem
        rcases List.mem_cons.1 mem with rfl | mem
        · exact ⟨action, rfl⟩
        · exact clicks event mem

/-! ## A run from the beginning -/

/-- A run on a page that does not carry the class yet: either no click counts, and neither the
cookies nor the storage change, or one does, and it answers the banner that the page was given when
its document became ready. -/
theorem runOn_cases (waiting : session.isReady = false) (free : session.banner.isShown = false)
    (events : List Event) :
    (session.answersOn events = [] ∧
      (session.runOn events).1.banner.jar = session.banner.jar ∧
      (session.runOn events).1.storage = session.storage ∧
      (session.runOn events).2.decision = none ∧ (session.runOn events).2.storageErrors = [] ∧
      (session.banner.state.isPresent = true →
        (session.runOn events).2.shown = false ∧
          (session.runOn events).1.banner.page = session.banner.page)) ∨
    ∃ action before between rest,
      events = before ++ .ready :: (between ++ .click action :: rest) ∧
      (∀ event ∈ before, ∃ action, event = .click action) ∧
      (∀ event ∈ between, event = .ready) ∧
      session.answersOn events = [action] ∧ session.banner.state = .absent ∧
      ∃ handled ignored, session.runOn events =
        (({ session with queue := none } : Session σ).welcomed.answered action,
          { shown := true, handled, ignored
            decision := (session.banner.welcome.1.act action).state.decision?
            storageErrors :=
              saveErrors
                (Storage.save session.storage (session.banner.welcome.1.act action).jar).1 }) := by
  rw [answersOn, runOn]
  generalize start : ({ session with queue := none } : Session σ) = first
  have banner : first.banner = session.banner := by rw [← start]
  have storage : first.storage = session.storage := by rw [← start]
  have firstWaiting : first.isReady = false := by rw [← start]; exact waiting
  rw [← banner] at free
  rw [← banner, ← storage]
  rcases consume_of_waiting firstWaiting free {} events with
    ⟨none, handled, ignored, eq⟩ | ⟨before, rest, split, clicks, later, handled, ignored, eq⟩
  · rw [eq]
    exact .inl ⟨none, rfl, rfl, rfl, rfl, fun _ => ⟨rfl, rfl⟩⟩
  rw [eq, later]
  cases state : first.banner.state.isPresent with
  | true =>
    have welcome := Banner.welcome_of_isPresent state
    have same : first.welcomed.banner = first.banner := congrArg Prod.fst welcome
    obtain ⟨none, handled', ignored', eq'⟩ :=
      @consume_of_done σ _ first.welcomed rfl (by rw [same]; exact free)
        { shown := first.banner.welcome.2, handled, ignored } rest
    left
    refine ⟨none, ?_⟩
    rw [Bool.false_or, eq', same]
    exact ⟨rfl, rfl, rfl, rfl, fun _ => ⟨congrArg Prod.snd welcome, rfl⟩⟩
  | false =>
    have absent := ConsentState.isPresent_eq_false_iff.1 state
    have welcome := Banner.welcome_of_absent absent
    have jar : first.welcomed.banner.jar = first.banner.jar := by rw [welcomed, welcome]
    -- the banner was put on the page, but if it is not found there, it cannot be answered
    cases shown : first.welcomed.banner.isShown with
    | false =>
      obtain ⟨none, handled', ignored', eq'⟩ := @consume_of_done σ _ first.welcomed rfl shown
        { shown := first.banner.welcome.2, handled, ignored } rest
      left
      refine ⟨none, ?_⟩
      rw [Bool.false_or, eq']
      exact ⟨jar, rfl, rfl, rfl, nofun⟩
    | true =>
      rcases @consume_of_shown σ _ first.welcomed rfl shown
        { shown := first.banner.welcome.2, handled, ignored } rest with
        ⟨none, handled', ignored', eq'⟩ |
        ⟨action, between, rest', split', clickless, one, handled', ignored', eq'⟩
      · left
        refine ⟨none, ?_⟩
        rw [Bool.false_or, eq']
        exact ⟨jar, rfl, rfl, rfl, nofun⟩
      · right
        refine ⟨action, before, between, rest', by rw [split, split'], clicks, clickless, one, absent,
          handled', ignored', ?_⟩
        rw [Bool.false_or, eq', congrArg Prod.snd welcome]
        rfl

/-- Events that only count have no answers. -/
theorem answers_append_of_idle {front : List Event} (stays : .unload ∉ front)
    (ready : .ready ∈ front → session.isReady = true)
    (gone : ∀ action, .click action ∈ front → session.banner.isShown = false)
    (events : List Event) : session.answers (front ++ events) = session.answers events := by
  induction front with
  | nil => rfl
  | cons event front ih =>
    have rest := ih (fun mem => stays (List.mem_cons_of_mem event mem))
      (fun mem => ready (List.mem_cons_of_mem event mem))
      (fun action mem => gone action (List.mem_cons_of_mem event mem))
    have first := consume_of_idle (fun eq => stays (eq ▸ List.mem_cons_self))
      (fun eq => ready (eq ▸ List.mem_cons_self))
      (fun action eq => gone action (eq ▸ List.mem_cons_self)) {} (front ++ events)
    exact first.1.trans rest

/-- Where the banner is found on the page once the document is ready, the first click behind that
counts. -/
theorem answersOn_of_click (waiting : session.isReady = false)
    (free : session.banner.isShown = false) (shown : session.banner.welcome.1.isShown = true)
    {action : Action} {before between : List Event} (rest : List Event)
    (strays : ∀ event ∈ before, ∃ stray, event = .click stray)
    (clickless : ∀ event ∈ between, event = .ready) :
    session.answersOn (before ++ .ready :: (between ++ .click action :: rest)) = [action] := by
  have staysReady : Event.ready ≠ .unload := nofun
  have staysClick : Event.click action ≠ .unload := nofun
  rw [answersOn]
  generalize start : ({ session with queue := none } : Session σ) = first
  have banner : first.banner = session.banner := by rw [← start]
  have firstWaiting : first.isReady = false := by rw [← start]; exact waiting
  rw [← banner] at free shown
  -- what stands before the counting click is passed over in two stretches: the session still waits
  -- in the first, and is ready in the second
  have front := @answers_append_of_idle σ _ first before
    (fun mem => (strays _ mem).elim nofun) (fun mem => (strays _ mem).elim nofun) (fun _ _ => free)
  have middle := @answers_append_of_idle σ _ first.welcomed between
    (fun mem => nomatch clickless _ mem) (fun _ => rfl) (fun _ mem => nomatch clickless _ mem)
  obtain ⟨ready, welcome⟩ := handle_ready firstWaiting {}
  obtain ⟨click, answer⟩ := @handle_click σ _ first.welcomed shown {} action
  have done := (@consume_of_done σ _ (first.welcomed.answered action) rfl
    (isShown_answered first.welcomed action) {} rest).1
  rw [front, answers_cons staysReady, ready, ← fst_handle first {}, welcome, middle,
    answers_cons staysClick, click, ← fst_handle first.welcomed {}, answer, done]
  rfl

/-- **The first click wins.** A session is opened on a page that does not carry the class of the
banner, with usable settings, any jar that there can be, and a time before the latest expiry. Then at
most one click counts in a run, whatever the events are. The click that counts is the first one
behind the first `ready`, which showed the banner; the cookies are saved once, as they are at the
end; only the cookie of the decision has changed; and the decision is reported and read back. If no
click counts, neither the cookies nor the storage change. With consent, no click counts, and the page
stays as it is. -/
theorem first_click_wins {checked : Instant} {settings : Banner.Settings} {jar : Jar} {page : Page}
    {banner : Banner} {storage : σ} {capacity : Nat}
    (made : Banner.make checked settings jar page = .ok banner)
    (opened : make banner storage capacity = .ok session) (reachable : jar.Reachable)
    (time : jar.clock < Time.latestExpiry) (free : page.count settings.containerClass = 0)
    (events : List Event) :
    let clicks := session.answersOn events
    let final := (session.runOn events).1
    let report := (session.runOn events).2
    clicks.length ≤ 1 ∧
    (∀ action, clicks = [action] →
      (∃ before between rest,
        events = before ++ .ready :: (between ++ .click action :: rest) ∧
        (∀ event ∈ before, ∃ stray, event = .click stray) ∧ ∀ event ∈ between, event = .ready) ∧
      report.shown = true ∧
      final.storage = (Storage.save storage final.banner.jar).2 ∧
      report.storageErrors = saveErrors (Storage.save storage final.banner.jar).1 ∧
      final.banner.jar.cookies.filter (·.key ≠ (settings.cookieName, "/")) =
        jar.cookies.filter (·.key ≠ (settings.cookieName, "/")) ∧
      final.banner.jar.clock = jar.clock ∧
      report.decision = some action.decision ∧
      final.banner.state.decision? = some action.decision) ∧
    (clicks = [] →
      final.banner.jar = jar ∧ final.storage = storage ∧
      report.storageErrors = [] ∧ report.decision = none) ∧
    (banner.state ≠ .absent →
      clicks = [] ∧ report.shown = false ∧ final.banner.page = page) := by
  obtain ⟨usable, rfl⟩ := Banner.make_eq_ok_iff.1 made
  obtain ⟨banner, rfl, waiting⟩ := make_eq_ok opened
  have gone : session.banner.isShown = false := by
    rw [banner, Banner.isShown, free]
    rfl
  intro clicks final report
  have valid := Banner.Settings.isValidName_of_check usable
  rcases runOn_cases waiting gone events with
    ⟨none, sameJar, sameStorage, undecided, noErrors, present⟩ |
    ⟨action, before, between, rest, split, strays, clickless, one, absent, handled, ignored, eq⟩
  · -- no click counts, and nothing has changed
    rw [banner] at sameJar present
    have clicks_eq : clicks = [] := none
    refine ⟨by simp [clicks_eq], ?_, fun _ => ⟨sameJar, sameStorage, noErrors, undecided⟩, ?_⟩
    · intro action one
      rw [clicks_eq] at one
      cases one
    · intro asked
      refine ⟨none, present ?_⟩
      rw [ConsentState.isPresent, decide_eq_true_eq]
      exact asked
  · -- one click counts, and the session at the end is the one it was answered in, as `eq` says
    rw [banner] at absent
    have clicks_eq : clicks = [action] := one
    have final_banner : final.banner = session.banner.welcome.1.act action :=
      congrArg (fun result => result.1.banner) eq
    have final_storage : final.storage = (Storage.save session.storage final.banner.jar).2 := by
      rw [final_banner]
      exact congrArg (fun result => result.1.storage) eq
    have report_eq : report = _ := congrArg Prod.snd eq
    rw [← final_banner] at report_eq
    obtain ⟨written, decided⟩ := @Banner.act_welcome ⟨settings, jar, page⟩ valid
      reachable.isWellFormed time absent action
    rw [← banner, ← final_banner] at written decided
    rw [banner] at written
    refine ⟨by simp [clicks_eq], ?_, ?_, ?_⟩
    · intro other same
      rw [clicks_eq] at same
      obtain rfl := List.cons.inj same |>.1
      refine ⟨⟨before, between, rest, split, strays, clickless⟩, ?_, final_storage, ?_, ?_, ?_, ?_,
        decided⟩
      · rw [report_eq]
      · rw [report_eq]
      · rw [written]
        exact Jar.filter_key_write jar
          (action.decision.cookie settings.cookieName settings.expiryDays jar.clock)
      · rw [written, Jar.clock_write]
      · rw [report_eq]
        exact decided
    · intro none
      rw [clicks_eq] at none
      cases none
    · exact fun present => absurd absent present

/-- Of three clicks on an empty page, the one behind `ready` wins. -/
theorem first_click_wins_second_of_three :
    let banner : Banner := ⟨{}, Jar.empty Instant.epoch, {}⟩
    let session : Session MemoryStorage :=
      ⟨banner, ⟨none⟩, some ⟨4, [], by decide⟩, false⟩
    let events := [.click .accept, .ready, .click .refuse, .click .accept]
    session.answersOn events = [.refuse] ∧ (session.runOn events).2.decision = some .refused ∧
      (session.runOn events).1.banner.state.decision? = some .refused := by
  intro banner session events
  have made : Banner.make Instant.epoch {} (Jar.empty Instant.epoch) {} = .ok banner :=
    Banner.make_eq_ok_iff.2 ⟨Banner.Settings.check_default, rfl⟩
  have opened : make banner (⟨none⟩ : MemoryStorage) 4 = .ok session := rfl
  have wins := first_click_wins made opened (.empty Instant.epoch) (by decide)
    (Banner.count_empty _) events
  have clicks : session.answersOn events = [.refuse] := by
    apply @answersOn_of_click _ _ session rfl Banner.isShown_default.1 Banner.isShown_default.2
      .refuse [.click .accept] [] [.click .accept] _ fun _ mem => absurd mem List.not_mem_nil
    intro event mem
    exact ⟨.accept, List.mem_singleton.1 mem⟩
  have outcome := wins.2.1 .refuse clicks
  exact ⟨clicks, outcome.2.2.2.2.2.2.1, outcome.2.2.2.2.2.2.2⟩

end CookieConsent.Session
