import CookieConsent.Proofs.Session.Batches
import CookieConsent.Proofs.Session.FirstClick

/-!
# One banner on the page

The banner is put on the page once and taken away once, so over a run it stands there for one stretch
of the events, if at all, and the page is the one that was given before and behind that. But the class
of the banner is the site's own choice, and the two controls carry classes as well. If the site
chooses one of those, the controls carry the class of the banner too, and it is counted more than
once.

* `Banner.count_prepend_markup`: how many elements carry the class of a banner on a page.
* `exists_pageAfter_of_ready`, `exists_pageAfter_of_waiting`: the page along a run, from two phases.
* `banner_for_one_stretch`: a run from the beginning, and when at most one element carries the class.
-/

namespace CookieConsent

open Text (IsTrimmed isBlank)
open Time (Instant)

namespace Banner

/-! ## Elements that carry the class -/

/-- The classes of the two controls, those of one behind those of the other. -/
def controlClasses : List String :=
  ["btn", "btn-xs", "btn-success"] ++ ["btn", "btn-xs", "btn-danger"]

def controlTag (kind : String) (action : Action) : Tag :=
  Tag.onClick { name := "button", attributes := [("type", "button"), ("class", kind)] } action

/-- The classes of the controls are words, without blanks around them. -/
theorem isTrimmed_of_mem_controlClasses {className : String} (mem : className ∈ controlClasses) :
    IsTrimmed className.toList := by
  have valid : ∀ className ∈ controlClasses, Cookie.isValidName className := by decide
  exact Text.isTrimmed_of_forall fun _ hc => Cookie.isBlank_of_mem_name (valid className mem) hc

/-- A control is one element, and its label is text. -/
theorem tags_button (kind label : String) (action : Action) (nodes : List Node) :
    Node.tags (button kind label action :: nodes) = controlTag kind action :: Node.tags nodes := by
  simp [button, Node.tags, controlTag]

/-- A control carries the classes that its kind spells out. -/
theorem countP_controlTag {kind : String} {classes : List String}
    (spelled : Text.words kind.toList = classes.map String.toList) (nodup : classes.Nodup)
    (action : Action) (className : String) :
    [controlTag kind action].countP (·.hasClass className) = classes.count className := by
  have carried : (controlTag kind action).hasClass className =
      (Text.words kind.toList).contains className.toList := rfl
  have same : (controlTag kind action).hasClass className = true ↔ className ∈ classes := by
    rw [carried, spelled, List.contains_iff_mem, List.mem_map]
    simp [String.toList_inj]
  simp only [List.countP_singleton, nodup.count, same]

/-- In the banner, its class is carried by its outermost element, and once more by a control for each
of the classes of the two controls that it is. -/
theorem count_markup {settings : Settings} (ne : settings.containerClass.toList ≠ [])
    (plain : ∀ c ∈ settings.containerClass.toList, isBlank c = false) :
    (Page.mk [markup settings]).count settings.containerClass =
      1 + controlClasses.count settings.containerClass := by
  -- four tags are looked through: the outermost one, two without a class, and the controls
  have tags : Node.tags [markup settings] = [⟨"div", [("class", settings.containerClass)], none⟩] ++
      ([⟨"p", [], none⟩, ⟨"a", [("href", settings.privacyUrl), ("target", "_blank")], none⟩] ++
      ([controlTag "btn btn-xs btn-success" .accept] ++
        [controlTag "btn btn-xs btn-danger" .refuse])) := by
    simp [markup, tags_button, Node.tags]
  have outermost : [(⟨"div", [("class", settings.containerClass)], none⟩ : Tag)].countP
      (·.hasClass settings.containerClass) = 1 := by
    rw [List.countP_singleton, if_pos (Tag.hasClass_self ne plain)]
  have inner : [(⟨"p", [], none⟩ : Tag),
      ⟨"a", [("href", settings.privacyUrl), ("target", "_blank")], none⟩].countP
        (·.hasClass settings.containerClass) = 0 := by
    rw [List.countP_eq_zero]
    intro tag mem
    have classless : tag.attribute? "class" = none := by
      rcases List.mem_cons.1 mem with rfl | mem
      · rfl
      · obtain rfl := List.mem_singleton.1 mem
        rfl
    simp [Tag.hasClass_of_attribute?_eq_none classless]
  have accept := @countP_controlTag "btn btn-xs btn-success" ["btn", "btn-xs", "btn-success"]
    (by decide) (by decide) .accept settings.containerClass
  have refuse := @countP_controlTag "btn btn-xs btn-danger" ["btn", "btn-xs", "btn-danger"]
    (by decide) (by decide) .refuse settings.containerClass
  rw [Page.count, tags, List.countP_append, List.countP_append, List.countP_append, outermost,
    inner, accept, refuse, Nat.zero_add, controlClasses, List.count_append]

/-- In front of a page that does not carry its class, the banner carries it as often as by itself.
With blanks around the class, nothing carries it. -/
theorem count_prepend_markup {settings : Settings} {checked : Instant}
    (usable : settings.check checked = .ok ()) {page : Page}
    (free : page.count settings.containerClass = 0) :
    let carriers := (page.prepend [markup settings]).count settings.containerClass
    (IsTrimmed settings.containerClass.toList →
      carriers = 1 + controlClasses.count settings.containerClass) ∧
    (¬ IsTrimmed settings.containerClass.toList → carriers = 0) := by
  intro carriers
  rcases Settings.containerClass_cases usable with ⟨trimmed, ne, plain⟩ | ⟨untrimmed, c, mem, blank⟩
  · refine ⟨fun _ => ?_, fun untrimmed => absurd trimmed untrimmed⟩
    exact (Page.count_prepend page _ _).trans (by rw [free, count_markup ne plain, Nat.add_zero])
  · exact ⟨fun trimmed => absurd trimmed untrimmed,
      fun _ => Page.count_eq_zero_of_isBlank _ mem blank⟩

/-- At most one element carries the class of a banner on such a page exactly if it is none of the
classes of the controls. -/
theorem count_prepend_markup_le_one_iff {settings : Settings} {checked : Instant}
    (usable : settings.check checked = .ok ()) {page : Page}
    (free : page.count settings.containerClass = 0) :
    (page.prepend [markup settings]).count settings.containerClass ≤ 1 ↔
      settings.containerClass ∉ controlClasses := by
  obtain ⟨ofTrimmed, ofUntrimmed⟩ := count_prepend_markup usable free
  by_cases trimmed : IsTrimmed settings.containerClass.toList
  · rw [ofTrimmed trimmed, ← List.count_eq_zero]
    omega
  · rw [ofUntrimmed trimmed]
    exact iff_of_true (Nat.zero_le 1) fun mem => trimmed (isTrimmed_of_mem_controlClasses mem)

end Banner

namespace Session

variable {σ : Type} [Storage σ] {session : Session σ}

/-! ## The page along a run -/

/-- The page once a session has dealt with some events. -/
def pageAfter (session : Session σ) (events : List Event) : Page :=
  (session.consume {} events).1.banner.page

theorem pageAfter_nil (session : Session σ) : session.pageAfter [] = session.banner.page := rfl

theorem pageAfter_cons {event : Event} (h : event ≠ .unload) (session : Session σ)
    (events : List Event) :
    session.pageAfter (event :: events) = (session.after event).pageAfter events := by
  rw [pageAfter, consume_cons h, fst_handle, consume_eq, pageAfter]

/-- Once the page is ready and the banner gone, the page stays as it is. -/
theorem pageAfter_of_done (ready : session.isReady = true) (gone : session.banner.isShown = false)
    (events : List Event) : session.pageAfter events = session.banner.page := by
  obtain ⟨-, handled, ignored, eq⟩ := consume_of_done ready gone {} events
  rw [pageAfter, eq]

/-- A page becomes ready once. -/
theorem pageAfter_ready_of_ready (ready : session.isReady = true) (events : List Event) :
    session.pageAfter (.ready :: events) = session.pageAfter events := by
  have stays : Event.ready ≠ .unload := nofun
  have same : session.after .ready = session := after_of_idle (fun _ => ready) nofun
  rw [pageAfter_cons stays, same]

/-- A click without a banner does nothing. -/
theorem pageAfter_click_of_gone (gone : session.banner.isShown = false) (action : Action)
    (events : List Event) :
    session.pageAfter (.click action :: events) = session.pageAfter events := by
  have stays : Event.click action ≠ .unload := nofun
  have same : session.after (.click action) = session := after_of_idle nofun fun _ _ => gone
  rw [pageAfter_cons stays, same]

/-- When the page becomes ready, the banner may come. -/
theorem pageAfter_ready_of_waiting (waiting : session.isReady = false) (events : List Event) :
    session.pageAfter (.ready :: events) = session.welcomed.pageAfter events := by
  have stays : Event.ready ≠ .unload := nofun
  have welcome : session.after .ready = session.welcomed :=
    congrArg Prod.fst (handle_ready waiting {}).2
  rw [pageAfter_cons stays, welcome]

/-- Behind a click that counts, the page stays as the answer leaves it. -/
theorem pageAfter_click_of_shown (ready : session.isReady = true)
    (shown : session.banner.isShown = true) (action : Action) (events : List Event) :
    session.pageAfter (.click action :: events) =
      session.banner.page.remove session.banner.settings.containerClass := by
  have stays : Event.click action ≠ .unload := nofun
  have answer : session.after (.click action) = session.answered action :=
    congrArg Prod.fst (handle_click shown {} action).2
  have done : (session.answered action).isReady = true := ready
  rw [pageAfter_cons stays, answer, pageAfter_of_done done (isShown_answered session action)]
  rfl

/-- The page does not change any more once it goes away. -/
theorem pageAfter_take_unload (session : Session σ) (events : List Event) (k : Nat) :
    session.pageAfter ((.unload :: events).take k) = session.banner.page := by
  cases k with
  | zero => rfl
  | succ k => rfl

/-- Once the document is ready, the page stays as it is up to some event, and then it is as an answer
leaves it. -/
theorem exists_pageAfter_of_ready (ready : session.isReady = true) {page : Page}
    (leaves : session.banner.isShown = true →
      session.banner.page.remove session.banner.settings.containerClass = page)
    (events : List Event) :
    ∃ last, ∀ k ≤ events.length, session.pageAfter (events.take k) =
      if k < last then session.banner.page else page := by
  cases shown : session.banner.isShown with
  | false =>
    refine ⟨events.length + 1, fun k le => ?_⟩
    rw [pageAfter_of_done ready shown, if_pos (Nat.lt_succ_of_le le)]
  | true =>
    -- induction on the events: a second `ready` does nothing, and a click or the end settles the
    -- page
    induction events with
    | nil =>
      refine ⟨1, fun k le => ?_⟩
      rw [Nat.le_zero.1 le, if_pos Nat.one_pos, List.take_nil, pageAfter_nil]
    | cons event events ih =>
      cases event with
      | ready =>
        obtain ⟨last, pages⟩ := ih
        refine ⟨last + 1, fun k le => ?_⟩
        cases k with
        | zero => rw [if_pos (Nat.succ_pos last), List.take_zero, pageAfter_nil]
        | succ k =>
          rw [List.take_succ_cons, pageAfter_ready_of_ready ready,
            pages k (Nat.le_of_succ_le_succ le)]
          simp only [Nat.add_lt_add_iff_right]
      | click action =>
        refine ⟨1, fun k le => ?_⟩
        cases k with
        | zero => rw [if_pos Nat.one_pos, List.take_zero, pageAfter_nil]
        | succ k =>
          rw [List.take_succ_cons, pageAfter_click_of_shown ready shown, leaves shown,
            if_neg (by omega)]
      | unload =>
        refine ⟨(Event.unload :: events).length + 1, fun k le => ?_⟩
        rw [pageAfter_take_unload, if_pos (Nat.lt_succ_of_le le)]

/-- As long as the document is not ready, clicks do nothing to the page. With the first event that
says that it is ready, the banner is put there if it has to be, and stays up to some event. -/
theorem exists_pageAfter_of_waiting (waiting : session.isReady = false)
    (gone : session.banner.isShown = false)
    (leaves : session.welcomed.banner.isShown = true →
      session.welcomed.banner.page.remove session.welcomed.banner.settings.containerClass =
        session.banner.page)
    (events : List Event) :
    ∃ last, ∀ k ≤ events.length, session.pageAfter (events.take k) =
      if events.idxOf .ready < k ∧ k < last then session.welcomed.banner.page
      else session.banner.page := by
  -- induction on the events: clicks do nothing, and from the first `ready` on the session is ready
  induction events with
  | nil =>
    refine ⟨0, fun k _ => ?_⟩
    rw [if_neg (by omega), List.take_nil, pageAfter_nil]
  | cons event events ih =>
    cases event with
    | ready =>
      obtain ⟨last, pages⟩ := @exists_pageAfter_of_ready σ _ session.welcomed rfl _ leaves events
      refine ⟨last + 1, fun k le => ?_⟩
      cases k with
      | zero => rw [if_neg (by omega), List.take_zero, pageAfter_nil]
      | succ k =>
        rw [List.take_succ_cons, pageAfter_ready_of_waiting waiting,
          pages k (Nat.le_of_succ_le_succ le), List.idxOf_cons_self]
        simp only [Nat.add_lt_add_iff_right, Nat.succ_pos, true_and]
    | click action =>
      obtain ⟨last, pages⟩ := ih
      refine ⟨last + 1, fun k le => ?_⟩
      cases k with
      | zero => rw [if_neg (by omega), List.take_zero, pageAfter_nil]
      | succ k =>
        have other : (Event.click action == .ready) = false := beq_false_of_ne nofun
        rw [List.take_succ_cons, pageAfter_click_of_gone gone,
          pages k (Nat.le_of_succ_le_succ le), List.idxOf_cons, other, cond_false]
        simp only [Nat.add_lt_add_iff_right]
    | unload =>
      refine ⟨0, fun k _ => ?_⟩
      rw [if_neg (by omega), pageAfter_take_unload]

/-- Behind clicks that do not count, the document becomes ready. -/
theorem pageAfter_clicks_ready (waiting : session.isReady = false)
    (gone : session.banner.isShown = false) {before : List Event}
    (strays : ∀ event ∈ before, ∃ stray, event = .click stray) :
    session.pageAfter (before ++ [.ready]) = session.welcomed.banner.page := by
  induction before with
  | nil => exact pageAfter_ready_of_waiting waiting []
  | cons event before ih =>
    obtain ⟨stray, rfl⟩ := strays event List.mem_cons_self
    rw [List.cons_append, pageAfter_click_of_gone gone,
      ih fun event mem => strays event (List.mem_cons_of_mem _ mem)]

/-! ## Runs from the beginning -/

omit [Storage σ] in
/-- A page that is free of the class shows no banner. -/
theorem isShown_of_free (free : session.banner.page.count session.banner.settings.containerClass = 0) :
    session.banner.isShown = false := by
  rw [Banner.isShown, free]
  rfl

/-- With consent, the page is never touched. -/
theorem page_runOn_of_ne_absent (waiting : session.isReady = false)
    (free : session.banner.page.count session.banner.settings.containerClass = 0)
    (asked : session.banner.state ≠ .absent) (events : List Event) :
    (session.runOn events).1.banner.page = session.banner.page := by
  have present : session.banner.state.isPresent = true := by
    rw [ConsentState.isPresent, decide_eq_true_eq]
    exact asked
  rcases runOn_cases waiting (isShown_of_free free) events with
    ⟨-, -, -, -, -, same⟩ | ⟨_, _, _, _, -, -, -, -, absent, -⟩
  · exact (same present).2
  · exact absurd absent asked

/-- Without consent, the banner is put in front of the page with the first event that says that the
document is ready, and stays up to some event. -/
theorem page_runOn_of_absent (waiting : session.isReady = false) {checked : Instant}
    (usable : session.banner.settings.check checked = .ok ())
    (free : session.banner.page.count session.banner.settings.containerClass = 0)
    (absent : session.banner.state = .absent) :
    let withBanner := session.banner.page.prepend [Banner.markup session.banner.settings]
    (∀ events : List Event, ∃ last, ∀ k ≤ events.length,
      (session.runOn (events.take k)).1.banner.page =
        if events.idxOf .ready < k ∧ k < last then withBanner else session.banner.page) ∧
    ∀ before : List Event, (∀ event ∈ before, ∃ stray, event = .click stray) →
      (session.runOn (before ++ [.ready])).1.banner.page = withBanner := by
  intro withBanner
  -- the page does not depend on the queue, which is taken off before the events are followed
  generalize start : ({ session with queue := none } : Session σ) = first
  have runOn_eq (events : List Event) :
      (session.runOn events).1.banner.page = first.pageAfter events := by
    rw [runOn, start, pageAfter]
  have banner : first.banner = session.banner := by rw [← start]
  have firstWaiting : first.isReady = false := by rw [← start]; exact waiting
  have welcomed : first.welcomed.banner = { session.banner with page := withBanner } := by
    rw [Session.welcomed, banner, Banner.welcome_of_absent absent]
  have gone : first.banner.isShown = false := by
    rw [banner]
    exact isShown_of_free free
  have leaves (shown : first.welcomed.banner.isShown = true) :
      first.welcomed.banner.page.remove first.welcomed.banner.settings.containerClass =
        first.banner.page := by
    rw [welcomed] at shown ⊢
    rcases Banner.Settings.containerClass_cases usable with ⟨-, ne, plain⟩ | ⟨-, c, mem, blank⟩
    · rw [banner]
      exact Banner.remove_prepend_markup ne plain free
    · -- a class with a blank is found on no page
      rw [Banner.isShown, Page.count_eq_zero_of_isBlank _ mem blank] at shown
      cases shown
  constructor
  · intro events
    obtain ⟨last, pages⟩ := exists_pageAfter_of_waiting firstWaiting gone leaves events
    rw [welcomed, banner] at pages
    exact ⟨last, fun k le => (runOn_eq _).trans (pages k le)⟩
  · intro before strays
    rw [runOn_eq, pageAfter_clicks_ready firstWaiting gone strays, welcomed]

/-- **One banner, for one stretch of the events.** A session is opened on a page that does not carry
the class of the banner. With consent the page stays as it is. Without, the first `ready` puts the
banner in front of it, where it stands for one stretch of the events; before and behind that, the
page is the given one. The class is then carried by the banner, and once more by a control for each
of their classes that it is; with blanks around it, by nothing. So at most one element ever carries
it, whatever the events are, exactly if it is none of the classes of the controls or the visitor has
been asked before. -/
theorem banner_for_one_stretch {checked : Instant} {settings : Banner.Settings} {jar : Jar}
    {page : Page} {banner : Banner} {storage : σ} {capacity : Nat}
    (made : Banner.make checked settings jar page = .ok banner)
    (opened : make banner storage capacity = .ok session)
    (free : page.count settings.containerClass = 0) :
    let className := settings.containerClass
    let withBanner := page.prepend [Banner.markup settings]
    let pageOf (events : List Event) : Page := (session.runOn events).1.banner.page
    (banner.state ≠ .absent → ∀ events, pageOf events = page) ∧
    (banner.state = .absent →
      (∀ events : List Event, ∃ last, ∀ k ≤ events.length, pageOf (events.take k) =
        if events.idxOf .ready < k ∧ k < last then withBanner else page) ∧
      ∀ before : List Event, (∀ event ∈ before, ∃ stray, event = .click stray) →
        pageOf (before ++ [.ready]) = withBanner) ∧
    (IsTrimmed className.toList →
      withBanner.count className = 1 + Banner.controlClasses.count className) ∧
    (¬ IsTrimmed className.toList → withBanner.count className = 0) ∧
    ((∀ events, (pageOf events).count className ≤ 1) ↔
      (banner.state = .absent → className ∉ Banner.controlClasses)) := by
  obtain ⟨usable, rfl⟩ := Banner.make_eq_ok_iff.1 made
  obtain ⟨banner, -, waiting⟩ := make_eq_ok opened
  intro className withBanner pageOf
  obtain ⟨ofTrimmed, ofUntrimmed⟩ := Banner.count_prepend_markup usable free
  have atMostOne : withBanner.count className ≤ 1 ↔ className ∉ Banner.controlClasses :=
    Banner.count_prepend_markup_le_one_iff usable free
  have asked := page_runOn_of_ne_absent waiting (by rw [banner]; exact free)
  have absent := page_runOn_of_absent waiting (by rw [banner]; exact usable)
    (by rw [banner]; exact free)
  rw [banner] at asked absent
  -- on every run there are two pages that can be left, the given one and the one with the banner
  have final (events : List Event) : pageOf events = page ∨
      (⟨settings, jar, page⟩ : Banner).state = .absent ∧ pageOf events = withBanner := by
    by_cases state : (⟨settings, jar, page⟩ : Banner).state = .absent
    · obtain ⟨last, pages⟩ := (absent state).1 events
      have whole := pages events.length (Nat.le_refl _)
      rw [List.take_length] at whole
      split at whole
      · exact .inr ⟨state, whole⟩
      · exact .inl whole
    · exact .inl (asked state events)
  refine ⟨asked, absent, ofTrimmed, ofUntrimmed, ?_⟩
  rw [← atMostOne]
  constructor
  · intro small state
    -- the shortest run that shows the banner is the one that counts
    have ready : pageOf [.ready] = withBanner := (absent state).2 [] nofun
    rw [← ready]
    exact small [.ready]
  · intro small events
    rcases final events with same | ⟨state, same⟩
    · rw [same, free]
      exact Nat.zero_le 1
    · rw [same]
      exact small state

/-- Settings with the class `btn` can be used, but once the document is ready, three elements of the
page carry the class, and none before. -/
theorem banner_for_one_stretch_of_btn :
    let settings : Banner.Settings := { containerClass := "btn" }
    let banner : Banner := ⟨settings, Jar.empty Instant.epoch, {}⟩
    let session : Session MemoryStorage := ⟨banner, ⟨none⟩, some ⟨4, [], by decide⟩, false⟩
    settings.check Instant.epoch = .ok () ∧ banner.page.count "btn" = 0 ∧
      (session.runOn [.ready]).1.banner.page.count "btn" = 3 := by
  intro settings banner session
  have usable : ({ containerClass := "btn" } : Banner.Settings).check Instant.epoch = .ok () := rfl
  have made : Banner.make Instant.epoch settings (Jar.empty Instant.epoch) {} = .ok banner :=
    Banner.make_eq_ok_iff.2 ⟨usable, rfl⟩
  have opened : make banner (⟨none⟩ : MemoryStorage) 4 = .ok session := rfl
  have free : banner.page.count "btn" = 0 := Banner.count_empty _
  obtain ⟨-, ofAbsent, ofTrimmed, -, -⟩ := banner_for_one_stretch made opened free
  have absent : banner.state = .absent := by decide
  have control : settings.containerClass ∈ Banner.controlClasses := by decide
  have shown : (session.runOn [.ready]).1.banner.page = _ := (ofAbsent absent).2 [] nofun
  refine ⟨usable, free, ?_⟩
  rw [shown]
  exact ofTrimmed (Banner.isTrimmed_of_mem_controlClasses control)

end Session

end CookieConsent
