import CookieConsent.Proofs.Session.FirstClick
import CookieConsent.Proofs.Session.Remembering
import CookieConsent.Tracker.Command

/-!
# Many page loads over one storage

A visitor loads pages, one after another. Every load takes the cookies from the storage, at its own
time, on any page and with any events. From a storage without a saved jar, and with settings that can
be used, no load fails, and at every moment everything is known from the last click that counted,
in this load or an earlier one: what the jar and the storage hold, what consent is read, whether the
banner is shown, and what the tracker is told.

* `History.run_isSound`: what holds between page loads.
* `decision_lasts`: what holds at every moment.
-/

namespace CookieConsent

open Time (Instant)

namespace Session

variable {σ : Type} [Storage σ]

/-! ## Page loads -/

structure Visit where
  /-- When the cookies are loaded and the settings are checked. -/
  opened : Instant
  /-- The time that the jar goes by. -/
  time : Instant
  page : Page
  events : List Event

/-- The session of a page load, before its first event: the cookies are loaded and put to the time of
the load. -/
def Visit.session (settings : Banner.Settings) (storage : σ) (visit : Visit) :
    Except OpenError (Session σ) :=
  match Storage.load storage visit.opened with
  | .error reason => .error (.consent (.failed "LoadJar" reason))
  | .ok jar =>
    match Banner.make visit.opened settings (jar.setClock visit.time) visit.page with
    | .error e => .error (.consent e)
    | .ok banner => make banner storage (visit.events.length + 1)

/-- A visit has a session when the jar is loaded and the banner can be made. -/
theorem Visit.session_of_made {settings : Banner.Settings} {storage : σ} {visit : Visit} {jar : Jar}
    {banner : Banner} (loaded : Storage.load storage visit.opened = .ok jar)
    (made : Banner.make visit.opened settings (jar.setClock visit.time) visit.page = .ok banner) :
    visit.session settings storage = make banner storage (visit.events.length + 1) := by
  rw [Visit.session, loaded]
  simp only [made]

/-- A page load whose settings can be used and whose time is an instant to which a cookie's expiry
can be compared: outside leap seconds, from the year 0 on, and before the latest expiry. -/
structure Visit.IsRegular (settings : Banner.Settings) (visit : Visit) : Prop where
  usable : settings.check visit.opened = .ok ()
  dated : visit.time.IsDated
  time : visit.time < Time.latestExpiry

/-- What page loads leave behind: the storage, and the last click that counted with its time. -/
structure History (σ : Type) where
  storage : σ
  last : Option (Decision × Instant)

namespace History

/-- The last click that has counted, after those of a page load. -/
def lastOf (history : History σ) (session : Session σ) (visit : Visit) :
    Option (Decision × Instant) :=
  lastAnswer visit.time history.last (session.answersOn visit.events)

/-- What is left behind after one more page load. -/
def add (settings : Banner.Settings) (history : History σ) (visit : Visit) :
    Except OpenError (History σ) :=
  (visit.session settings history.storage).map fun session =>
    ⟨(session.runOn visit.events).1.storage, history.lastOf session visit⟩

/-- What page loads leave behind, one after another. -/
def run (settings : Banner.Settings) (history : History σ) (visits : List Visit) :
    Except OpenError (History σ) :=
  visits.foldlM (add settings) history

/-- Whether the storage keeps the last answer and nothing else, and its time can be compared. -/
structure IsSound (good : σ → Prop) (settings : Banner.Settings) (history : History σ) : Prop where
  good_storage : good history.storage
  keeps : Storage.Keeps history.storage (recordOf settings history.last)
  dated : ∀ answer ∈ history.last, answer.2.IsDated

end History

variable {good : σ → Prop} {settings : Banner.Settings} {history : History σ} {visit : Visit}

/-- A page load goes well, and its session begins with the last answer and nothing else. -/
theorem Visit.session_eq_ok (regular : visit.IsRegular settings)
    (sound : history.IsSound good settings) :
    ∃ session, visit.session settings history.storage = .ok session ∧ session.isReady = false ∧
      session.banner.page = visit.page ∧
      session.Remembers good settings visit.time history.last := by
  obtain ⟨jar, loaded, cookies⟩ := sound.keeps visit.opened
  have put : jar.setClock visit.time = ⟨recordOf settings history.last, visit.time⟩ := by
    rw [Jar.setClock, cookies]
  have made : Banner.make visit.opened settings (jar.setClock visit.time) visit.page =
      .ok ⟨settings, jar.setClock visit.time, visit.page⟩ :=
    Banner.make_eq_ok_iff.2 ⟨regular.usable, rfl⟩
  refine ⟨⟨⟨settings, jar.setClock visit.time, visit.page⟩, history.storage,
    some ⟨visit.events.length + 1, [], Nat.succ_pos _⟩, false⟩, ?_, rfl, rfl, ?_⟩
  · rw [Visit.session_of_made loaded made, make, Queue.ofCapacity?, dif_pos (Nat.succ_pos _)]
  · exact ⟨rfl, put, sound.good_storage, sound.keeps⟩

/-- Answers that are given at times with dates are remembered with such times. -/
theorem dated_lastAnswer {now : Instant} {last : Option (Decision × Instant)}
    (dated : ∀ answer ∈ last, answer.2.IsDated) (hnow : now.IsDated) (answers : List Action) :
    ∀ answer ∈ lastAnswer now last answers, answer.2.IsDated := by
  rw [lastAnswer]
  cases answers.getLast? with
  | none => exact dated
  | some action =>
    intro answer mem
    obtain rfl := Option.some.inj mem
    exact hnow

/-- What a session remembers after it has run. -/
theorem Remembers.runOn (reliable : Storage.IsReliable good) {session : Session σ}
    {now : Instant} {last : Option (Decision × Instant)}
    (valid : Cookie.isValidName settings.cookieName) (time : now < Time.latestExpiry)
    (h : session.Remembers good settings now last) (events : List Event) :
    (session.runOn events).1.Remembers good settings now
      (lastAnswer now last (session.answersOn events)) := by
  have closed : ({ session with queue := none } : Session σ).Remembers good settings now last :=
    ⟨h.settings_eq, h.jar_eq, h.good_storage, h.keeps⟩
  exact closed.consume reliable valid time {} events

/-- One more page load goes well, and what it leaves behind is as sound as before. -/
theorem History.add_isSound (reliable : Storage.IsReliable good)
    (regular : visit.IsRegular settings) (sound : history.IsSound good settings) :
    ∃ history', history.add settings visit = .ok history' ∧ history'.IsSound good settings := by
  obtain ⟨session, opened, -, -, remembers⟩ := Visit.session_eq_ok regular sound
  have valid := Banner.Settings.isValidName_of_check regular.usable
  have after := remembers.runOn reliable valid regular.time visit.events
  refine ⟨_, by rw [add, opened]; rfl, after.good_storage, after.keeps, ?_⟩
  exact dated_lastAnswer sound.dated regular.dated _

/-- Page loads go well, one after another, and what they leave behind stays sound. -/
theorem History.run_isSound (reliable : Storage.IsReliable good) {visits : List Visit}
    (regular : ∀ visit ∈ visits, visit.IsRegular settings) (sound : history.IsSound good settings) :
    ∃ history', history.run settings visits = .ok history' ∧ history'.IsSound good settings := by
  induction visits generalizing history with
  | nil => exact ⟨history, rfl, sound⟩
  | cons visit visits ih =>
    obtain ⟨next, added, nextSound⟩ :=
      History.add_isSound reliable (regular visit List.mem_cons_self) sound
    obtain ⟨final, ran, finalSound⟩ :=
      ih (fun v hv => regular v (List.mem_cons_of_mem visit hv)) nextSound
    refine ⟨final, ?_, finalSound⟩
    rw [History.run, List.foldlM_cons, added]
    exact ran

/-! ## At every moment -/

/-- What there is in a session if it follows the last click that counted: at most the one cookie, the
consent that is read, what the tracker is told, and what the storage keeps. -/
structure Reflects (settings : Banner.Settings) (now : Instant)
    (last : Option (Decision × Instant)) (session : Session σ) : Prop where
  clock : session.banner.jar.clock = now
  cookies : session.banner.jar.cookies = [] ∨
    ∃ cookie, session.banner.jar.cookies = [cookie] ∧ cookie.name = settings.cookieName ∧
      cookie.path = "/" ∧ (cookie.value = "true" ∨ cookie.value = "false")
  consent : session.banner.state = consentAt settings last now
  tracker : ∀ tracker : Tracker.Settings, tracker.cookieName = settings.cookieName →
    Tracker.commands tracker session.banner.jar.header =
      .setDoNotTrack true ::
        (if consentAt settings last now = .refused then [.disableCookies] else []) ++
        [.trackPageView, .enableLinkTracking, .setTrackerUrl tracker.trackerUrl,
          .setSiteId tracker.siteId]
  kept : Storage.Keeps session.storage session.banner.jar.cookies

/-- What is remembered is nothing, or one cookie with the word of a decision. -/
theorem cookies_recordOf (settings : Banner.Settings) (last : Option (Decision × Instant)) :
    recordOf settings last = [] ∨
      ∃ cookie, recordOf settings last = [cookie] ∧ cookie.name = settings.cookieName ∧
        cookie.path = "/" ∧ (cookie.value = "true" ∨ cookie.value = "false") := by
  cases last with
  | none => exact .inl rfl
  | some answer =>
    obtain ⟨decision, made⟩ := answer
    refine .inr ⟨_, rfl, rfl, rfl, ?_⟩
    cases decision with
    | accepted => exact .inl rfl
    | refused => exact .inr rfl

/-- The tracker is told to set no cookies when the consent that is read is a refusal. -/
theorem cookiesDisabled_iff (jar : Jar) (name : String) :
    Tracker.cookiesDisabled jar.header name = true ↔
      ConsentState.ofValue (jar.read? name) = .refused := by
  have refused (state : ConsentState) : state = .refused ↔ state.decision? = some .refused := by
    cases state <;> simp [ConsentState.decision?]
  rw [refused, ConsentState.decision_eq_some_iff, Tracker.cookiesDisabled, decide_eq_true_eq,
    Jar.read?]

/-- A session that remembers the last answer follows it. -/
theorem Remembers.reflects {session : Session σ} {now : Instant}
    {last : Option (Decision × Instant)} (valid : Cookie.isValidName settings.cookieName)
    (dated : ∀ answer ∈ last, answer.2.IsDated) (h : session.Remembers good settings now last) :
    session.Reflects settings now last := by
  have read : ConsentState.ofValue (session.banner.jar.read? settings.cookieName) =
      consentAt settings last now := by
    rw [h.jar_eq]
    exact ofValue_read?_recordOf valid dated now
  refine ⟨by rw [h.jar_eq], ?_, ?_, ?_, ?_⟩
  · rw [h.jar_eq]
    exact cookies_recordOf settings last
  · rw [← read, Banner.state, Banner.read?, h.settings_eq]
  · intro tracker name
    have disabled := cookiesDisabled_iff session.banner.jar settings.cookieName
    rw [read] at disabled
    rw [Tracker.commands, name]
    simp only [disabled]
  · rw [h.jar_eq]
    exact h.keeps

/-- What the first `ready` does in a session that follows the last answer. -/
theorem shown_iff_absent {session : Session σ} (waiting : session.isReady = false)
    {events : List Event} (waits : .ready ∉ events) (stays : .unload ∉ events) :
    let now := (session.runOn events).1.banner
    let ready := session.runOn (events ++ [.ready])
    (ready.2.shown = true ↔ now.state = .absent) ∧
      ready.1.banner.page =
        if now.state = .absent then now.page.prepend [Banner.markup now.settings] else now.page := by
  intro now ready
  generalize ran : ({ session with queue := none } : Session σ).consume {} events = result
  have current : now = result.1.banner := congrArg (fun result => result.1.banner) ran
  -- until the document is ready nothing is shown, so the report says what the last event did
  obtain ⟨isReady, unshown⟩ := consume_of_not_ready waits { session with queue := none } {}
  rw [ran] at isReady unshown
  have last : ready = result.1.consume result.2 [.ready] := by
    rw [← ran]
    exact consume_append stays { session with queue := none } {} [.ready]
  have readyStays : Event.ready ≠ .unload := by decide
  rw [consume_cons readyStays, (handle_ready (isReady.trans waiting) result.2).2, consume_nil]
    at last
  rw [last, unshown, current]
  by_cases absent : result.1.banner.state = .absent
  · rw [if_pos absent, welcomed, Banner.welcome_of_absent absent]
    exact ⟨iff_of_true rfl absent, rfl⟩
  · have present : result.1.banner.state.isPresent = true := by
      rw [ConsentState.isPresent, decide_eq_true_eq]
      exact absent
    rw [if_neg absent, welcomed, Banner.welcome_of_isPresent present]
    exact ⟨iff_of_false Bool.false_ne_true absent, rfl⟩

/-- Whether page loads over a storage, and one more load up to any of its events, go well and follow
the last click that counted; and whether, if the document becomes ready then, the banner is put on the
page exactly when the consent that is read is absent. -/
def FollowsLast (settings : Banner.Settings) (visits : List Visit) (visit : Visit) (storage : σ) :
    Prop :=
  ∃ history session, (History.mk storage none).run settings visits = .ok history ∧
    visit.session settings history.storage = .ok session ∧
    session.isReady = false ∧ session.banner.page = visit.page ∧
    let last := history.lastOf session visit
    let now := (session.runOn visit.events).1
    now.Reflects settings visit.time last ∧
    (.ready ∉ visit.events → .unload ∉ visit.events →
      let ready := session.runOn (visit.events ++ [.ready])
      (ready.2.shown = true ↔ consentAt settings last visit.time = .absent) ∧
        ready.1.banner.page =
          if consentAt settings last visit.time = .absent then
            now.banner.page.prepend [Banner.markup settings]
          else now.banner.page)

/-- Page loads over a reliable storage without a saved jar follow the last click that counted. -/
theorem followsLast_of_isReliable (reliable : Storage.IsReliable good) {storage : σ}
    (good_storage : good storage) (empty : Storage.Keeps storage []) {visits : List Visit}
    (regular : ∀ visit ∈ visits, visit.IsRegular settings) (hvisit : visit.IsRegular settings) :
    FollowsLast settings visits visit storage := by
  have valid := Banner.Settings.isValidName_of_check hvisit.usable
  -- a storage without a saved jar is sound before the first load, and each load keeps it so
  have start : (History.mk storage none).IsSound good settings :=
    ⟨good_storage, empty, fun _ mem => by cases mem⟩
  obtain ⟨history, ran, sound⟩ := History.run_isSound reliable regular start
  obtain ⟨session, opened, waiting, page, remembers⟩ := Visit.session_eq_ok hvisit sound
  have after := remembers.runOn reliable valid hvisit.time visit.events
  have reflects := after.reflects valid (dated_lastAnswer sound.dated hvisit.dated _)
  refine ⟨history, session, ran, opened, waiting, page, reflects, fun waits stays => ?_⟩
  have shown := shown_iff_absent waiting waits stays
  dsimp only at shown
  rw [reflects.consent, after.settings_eq] at shown
  exact shown

/-- **A decision lasts.** From a storage without a saved jar, a file or memory, with settings that can
be used, over any page loads at regular times, on any pages and with any events, and at every moment
of the last one: at most one cookie is stored, under the name of the settings and the path of the
whole site, with one of the two values; the consent that is read is that of the last click that
counted as long as it holds, and absent otherwise; the first `ready` of a page load shows the banner
exactly when consent is absent then; and the tracker is told to set no cookies exactly when it is a
refusal. -/
theorem decision_lasts {settings : Banner.Settings} {visits : List Visit} {visit : Visit}
    (regular : ∀ visit ∈ visits, visit.IsRegular settings) (hvisit : visit.IsRegular settings) :
    (∀ folder, FollowsLast settings visits visit (⟨folder, .vacant⟩ : FileStorage)) ∧
      FollowsLast settings visits visit (⟨none⟩ : MemoryStorage) := by
  constructor
  · intro folder
    exact followsLast_of_isReliable FileStorage.isReliable (.inl rfl)
      (FileStorage.keeps_vacant folder) regular hvisit
  · exact followsLast_of_isReliable MemoryStorage.isReliable trivial MemoryStorage.keeps_none
      regular hvisit

/-- A refusal on an empty page is read on the next day. -/
theorem decision_lasts_next_day :
    let nextDay : Instant := .ofSecond 86400 (by decide) (by decide)
    let refusal : Visit := ⟨Instant.epoch, Instant.epoch, {}, [.ready, .click .refuse]⟩
    let later : Visit := ⟨Instant.epoch, nextDay, {}, []⟩
    ∃ history session,
      (History.mk (⟨none⟩ : MemoryStorage) none).run {} [refusal] = .ok history ∧
        later.session {} history.storage = .ok session ∧ session.banner.state = .refused := by
  intro nextDay refusal later
  have regular : refusal.IsRegular {} :=
    ⟨Banner.Settings.check_default, ⟨rfl, by decide⟩, by decide⟩
  have regularLater : later.IsRegular {} :=
    ⟨Banner.Settings.check_default, ⟨rfl, by decide⟩, by decide⟩
  have lasts := @decision_lasts {} [refusal] later
    (fun visit mem => List.mem_singleton.1 mem ▸ regular) regularLater
  obtain ⟨history, session, ran, opened, -, -, reflects, -⟩ := lasts.2
  refine ⟨history, session, ran, opened, ?_⟩
  -- the click of the refusal counts, so it is the last answer
  have last : history.last = some (.refused, Instant.epoch) := by
    let banner : Banner := ⟨{}, Jar.empty Instant.epoch, {}⟩
    let first : Session MemoryStorage := ⟨banner, ⟨none⟩, some ⟨3, [], by decide⟩, false⟩
    have made : Banner.make Instant.epoch {} (Jar.empty Instant.epoch) {} = .ok banner :=
      Banner.make_eq_ok_iff.2 ⟨Banner.Settings.check_default, rfl⟩
    have start : refusal.session {} (⟨none⟩ : MemoryStorage) = .ok first := by
      rw [Visit.session_of_made rfl made]
      rfl
    have clicks : first.answersOn [.ready, .click .refuse] = [.refuse] :=
      @answersOn_of_click _ _ first rfl Banner.isShown_default.1 Banner.isShown_default.2 .refuse
        [] [] [] (fun _ mem => absurd mem List.not_mem_nil) fun _ mem => absurd mem List.not_mem_nil
    rw [History.run, List.foldlM_cons, History.add, start] at ran
    have eq := congrArg History.last (Except.ok.inj ran)
    rw [← eq]
    change lastAnswer Instant.epoch none (first.answersOn [.ready, .click .refuse]) = _
    rw [clicks]
    rfl
  have consent := reflects.consent
  change session.banner.state = consentAt {} history.last nextDay at consent
  rw [consent, last]
  decide

end Session

end CookieConsent
