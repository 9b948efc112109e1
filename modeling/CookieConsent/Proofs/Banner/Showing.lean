import CookieConsent.Proofs.Banner.Recording
import CookieConsent.Proofs.Page.Classes

/-!
# Showing the banner and taking it away

A page without consent gets the banner in front. From then on the banner is found by its class, and
the class is compared as it stands in the settings. Settings are turned down unless the class is one
word, but blanks around the word are let pass; with those, no element can carry the class, so the
banner on the page is not found and not taken away.

* `welcome_of_absent`, `welcome_of_isPresent`: what becomes of a page that is ready.
* `shown_iff_isTrimmed`: when a banner that was put on a page can be answered.
-/

namespace CookieConsent

open Text (IsTrimmed isBlank)
open Time (Instant)

/-- The visitor has not been asked when nothing is stored; a value that is no decision counts as
asked. -/
theorem ConsentState.isPresent_eq_false_iff {state : ConsentState} :
    state.isPresent = false ↔ state = .absent := by
  cases state <;> simp [isPresent]

namespace Banner

/-! ## The class of the banner -/

/-- The class that usable settings give holds no blanks if it is trimmed, and some if it is not. -/
theorem Settings.containerClass_cases {settings : Settings} {checked : Instant}
    (usable : settings.check checked = .ok ()) :
    (IsTrimmed settings.containerClass.toList ∧ settings.containerClass.toList ≠ [] ∧
        ∀ c ∈ settings.containerClass.toList, isBlank c = false) ∨
      (¬ IsTrimmed settings.containerClass.toList ∧
        ∃ c ∈ settings.containerClass.toList, isBlank c = true) := by
  have oneWord : isOneWord settings.containerClass := by
    unfold check at usable
    split at usable
    · cases usable
    split at usable
    · cases usable
    split at usable
    · cases usable
    · next word => simpa using word
  simp only [isOneWord, Bool.and_eq_true, decide_eq_true_eq, List.all_eq_true,
    Bool.not_eq_true'] at oneWord
  by_cases trimmed : IsTrimmed settings.containerClass.toList
  · rw [Text.trim_eq_self trimmed] at oneWord
    exact .inl ⟨trimmed, oneWord⟩
  · -- without a blank the class would be trimmed
    refine .inr ⟨trimmed, Decidable.byContradiction fun none => ?_⟩
    apply trimmed
    apply Text.isTrimmed_of_forall
    intro c hc
    rw [Bool.eq_false_iff]
    intro blank
    exact none ⟨c, hc, blank⟩

variable {banner : Banner}

/-- A banner is made of settings that can be used, the cookies and the page. -/
theorem make_eq_ok_iff {checked : Instant} {settings : Settings} {jar : Jar} {page : Page} :
    make checked settings jar page = .ok banner ↔
      settings.check checked = .ok () ∧ banner = ⟨settings, jar, page⟩ := by
  rw [make]
  cases settings.check checked with
  | error e => exact ⟨nofun, fun h => nomatch h.1⟩
  | ok _ => exact ⟨fun h => ⟨rfl, (Except.ok.inj h).symm⟩, fun h => congrArg Except.ok h.2.symm⟩

/-! ## A page that is ready -/

/-- Without consent, the banner is put in front of the page. -/
theorem welcome_of_absent (absent : banner.state = .absent) :
    banner.welcome =
      ({ banner with page := banner.page.prepend [markup banner.settings] }, true) := by
  rw [welcome, absent]
  rfl

/-- With consent, nothing happens. -/
theorem welcome_of_isPresent (h : banner.state.isPresent = true) :
    banner.welcome = (banner, false) := by
  rw [welcome, plan, h]
  rfl

/-- The first element of a page with a banner in front is the one that carries the class of the
banner. -/
theorem tags_prepend_markup (page : Page) (settings : Settings) :
    ∃ others, Node.tags (page.prepend [markup settings]).body =
      { name := "div", attributes := [("class", settings.containerClass)] } :: others := by
  rw [Page.prepend, markup, List.singleton_append, Node.tags]
  exact ⟨_, rfl⟩

/-- The banner is found on the page by a class without blanks. -/
theorem count_prepend_markup_pos (page : Page) {settings : Settings}
    (ne : settings.containerClass.toList ≠ [])
    (plain : ∀ c ∈ settings.containerClass.toList, isBlank c = false) :
    0 < (page.prepend [markup settings]).count settings.containerClass := by
  obtain ⟨others, tags⟩ := tags_prepend_markup page settings
  rw [Page.count, tags, List.countP_cons, if_pos (Tag.hasClass_self ne plain)]
  exact Nat.succ_pos _

/-- Without consent, a banner with a class without blanks is found once the page is ready. -/
theorem isShown_welcome (absent : banner.state = .absent)
    (ne : banner.settings.containerClass.toList ≠ [])
    (plain : ∀ c ∈ banner.settings.containerClass.toList, isBlank c = false) :
    banner.welcome.1.isShown = true := by
  rw [welcome_of_absent absent, isShown, decide_eq_true_eq]
  exact count_prepend_markup_pos banner.page ne plain

/-- With a class without blanks, the banner is taken away as a whole. -/
theorem remove_prepend_markup {page : Page} {settings : Settings}
    (ne : settings.containerClass.toList ≠ [])
    (plain : ∀ c ∈ settings.containerClass.toList, isBlank c = false)
    (free : page.count settings.containerClass = 0) :
    (page.prepend [markup settings]).remove settings.containerClass = page := by
  have whole := Page.remove_eq_self free
  rw [Page.remove] at whole
  rw [Page.remove, Page.prepend, markup, List.singleton_append, Node.without,
    if_pos (Tag.hasClass_self ne plain), whole]

theorem count_empty (className : String) : (Page.mk []).count className = 0 := by
  simp [Page.count, Node.tags]

/-- The banner of a site that decides nothing is shown on an empty page, once it is ready. -/
theorem isShown_default :
    let banner : Banner := ⟨{}, Jar.empty Instant.epoch, {}⟩
    banner.isShown = false ∧ banner.welcome.1.isShown = true := by
  intro banner
  have valid : Cookie.isValidName "cookie-consent" := by decide
  refine ⟨decide_eq_false (by rw [count_empty]; exact Nat.lt_irrefl 0), ?_⟩
  exact isShown_welcome (by decide) (Cookie.ne_nil_of_isValidName valid)
    fun _ hc => Cookie.isBlank_of_mem_name valid hc

/-! ## Answering -/

@[simp] theorem page_act (banner : Banner) (action : Action) :
    (banner.act action).page = banner.page.remove banner.settings.containerClass := rfl

@[simp] theorem settings_act (banner : Banner) (action : Action) :
    (banner.act action).settings = banner.settings := rfl

@[simp] theorem jar_act (banner : Banner) (action : Action) :
    (banner.act action).jar = (banner.record action.decision banner.settings.expiryDays).jar := rfl

/-- A control changes what is read in the way that recording its decision does: taking the banner
away leaves the jar alone. -/
theorem read?_act (banner : Banner) (action : Action) (name : String) :
    (banner.act action).read? name =
      (banner.record action.decision banner.settings.expiryDays).read? name := by
  rw [read?, jar_act, read?]

/-- An answer takes away whatever is found of the banner. -/
@[simp] theorem isShown_act (banner : Banner) (action : Action) :
    (banner.act action).isShown = false := by
  rw [isShown, page_act, settings_act, Page.count_remove]
  rfl

/-- Consent is absent when no cookie is seen under its name. -/
theorem state_eq_absent_iff (h : Cookie.isValidName banner.settings.cookieName)
    (whole : banner.jar.IsWellFormed) :
    banner.state = .absent ↔ banner.jar.get? banner.settings.cookieName = none := by
  rw [← ConsentState.isPresent_eq_false_iff, state, ConsentState.isPresent_ofValue, read?,
    Jar.read?_eq whole h, Option.isSome_map, Option.isSome_eq_false_iff, Option.isNone_iff_eq_none]

/-- Where consent is absent, an answer is read back after it was given. -/
theorem state_act_of_absent (h : Cookie.isValidName banner.settings.cookieName)
    (whole : banner.jar.IsWellFormed) (time : banner.jar.clock < Time.latestExpiry)
    (absent : banner.state = .absent) (action : Action) :
    (banner.act action).state.decision? = some action.decision := by
  have alone : banner.jar.shadow? banner.settings.cookieName "/" = none := by
    apply Jar.shadow?_eq_none
    intro c hc name
    rw [state_eq_absent_iff h whole, Jar.get?_eq_find?_visible, List.find?_eq_none] at absent
    exact absurd name (by simpa using absent c hc)
  rw [state, settings_act, read?_act, read?_record_of_absent h whole time alone,
    ConsentState.ofValue_cookieValue]

/-- An answer to a banner that was put on a page writes the cookie of the decision, and the decision
is read back. -/
theorem act_welcome (h : Cookie.isValidName banner.settings.cookieName)
    (whole : banner.jar.IsWellFormed) (time : banner.jar.clock < Time.latestExpiry)
    (absent : banner.state = .absent) (action : Action) :
    (banner.welcome.1.act action).jar = banner.jar.write (action.decision.cookie
        banner.settings.cookieName banner.settings.expiryDays banner.jar.clock) ∧
      (banner.welcome.1.act action).state.decision? = some action.decision := by
  rw [welcome_of_absent absent]
  constructor
  · rw [jar_act]
    exact @jar_record { banner with page := _ } h action.decision banner.settings.expiryDays
  · exact @state_act_of_absent { banner with page := _ } h whole time absent action

/-- **When the banner can be answered.** On a page of a visitor without consent, on which no element
carries the class yet, the banner is put in front. It is found there exactly when no blanks stand
around the class in the settings, and then either answer leaves the page as it was. Otherwise it is
found on no page at all and stays. In both cases the answer is stored. -/
theorem shown_iff_isTrimmed {checked : Instant} (usable : banner.settings.check checked = .ok ())
    (reachable : banner.jar.Reachable) (time : banner.jar.clock < Time.latestExpiry)
    (absent : banner.state = .absent)
    (free : banner.page.count banner.settings.containerClass = 0) (action : Action) :
    let className := banner.settings.containerClass
    let shown := banner.welcome.1
    banner.welcome.2 = true ∧
    (shown.isShown = true ↔ IsTrimmed className.toList) ∧
    ((shown.act action).page = banner.page ↔ IsTrimmed className.toList) ∧
    (shown.act action).isShown = false ∧
    (shown.act action).state.decision? = some action.decision ∧
    (¬ IsTrimmed className.toList →
      ∀ page : Page, ({ shown with page } : Banner).isShown = false) := by
  intro className shown
  have valid := Settings.isValidName_of_check usable
  have welcomed := welcome_of_absent absent
  have eq : shown = { banner with page := banner.page.prepend [markup banner.settings] } :=
    congrArg Prod.fst welcomed
  have settings : shown.settings = banner.settings := by rw [eq]
  have page : shown.page = banner.page.prepend [markup banner.settings] := by rw [eq]
  have stored : (shown.act action).state.decision? = some action.decision :=
    (act_welcome valid reachable.isWellFormed time absent action).2
  have left : (shown.act action).page =
      (banner.page.prepend [markup banner.settings]).remove className := by
    rw [page_act, page, settings]
  refine ⟨congrArg Prod.snd welcomed, ?_, ?_, isShown_act shown action, stored, ?_⟩
  -- a trimmed class holds no blank, and one with a blank is found on no page
  all_goals rcases Settings.containerClass_cases usable with
    ⟨trimmed, ne, plain⟩ | ⟨untrimmed, c, mem, blank⟩
  · exact iff_of_true (isShown_welcome absent ne plain) trimmed
  · have lost : shown.isShown = false := by
      rw [isShown, settings, Page.count_eq_zero_of_isBlank _ mem blank]
      rfl
    exact iff_of_false (by simp [lost]) untrimmed
  · exact iff_of_true (left.trans (remove_prepend_markup ne plain free)) trimmed
  · -- nothing is taken away, and the page has one node more than before
    have nothing := Page.remove_eq_self
      (Page.count_eq_zero_of_isBlank (banner.page.prepend [markup banner.settings]) mem blank)
    apply iff_of_false _ untrimmed
    intro same
    rw [left, nothing] at same
    have length := congrArg (fun page : Page => page.body.length) same
    simp [Page.prepend] at length
  · exact fun untrimmed => absurd trimmed untrimmed
  · intro _ page
    rw [isShown, settings, Page.count_eq_zero_of_isBlank _ mem blank]
    rfl

/-- Settings whose class has a blank in front can be used, but the banner is not found on the empty
page in front of which it was put. -/
theorem not_shown_with_blank :
    let banner : Banner := ⟨{ containerClass := " cookie-consent" }, Jar.empty Instant.epoch, {}⟩
    banner.settings.check Instant.epoch = .ok () ∧ banner.welcome.2 = true ∧
      banner.welcome.1.isShown = false ∧ (banner.welcome.1.act .accept).page ≠ banner.page := by
  intro banner
  have usable : ({ containerClass := " cookie-consent" } : Settings).check Instant.epoch = .ok () :=
    rfl
  have untrimmed : ¬ IsTrimmed " cookie-consent".toList := fun trimmed =>
    absurd (trimmed.1 ' ' rfl) (by decide)
  have shown := @shown_iff_isTrimmed banner Instant.epoch usable (.empty Instant.epoch) (by decide)
    (by decide) (count_empty _) .accept
  refine ⟨usable, shown.1, ?_, fun same => untrimmed (shown.2.2.1.1 same)⟩
  rw [Bool.eq_false_iff]
  exact fun found => untrimmed (shown.2.1.1 found)

end Banner

end CookieConsent
