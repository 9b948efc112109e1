import CookieConsent.Proofs.Session.Running
import CookieConsent.Proofs.Storage.Keeping

/-!
# What a session remembers

If the jar holds nothing but the last answer when a session begins, this stays so through the whole
session: every click that counts overwrites the answer in its place, and nothing else is written.
From the last answer and its time it is then known what consent is read, at any later time.

* `isExpired_cookie_iff`: until when an answer holds.
* `consentAt`: the consent that is read, and `ofValue_read?_recordOf`.
* `Remembers.consume`: what holds through a session.
-/

namespace CookieConsent

open Time (Instant)

/-! ## How long an answer holds -/

/-- Whether a date with a year of four digits, and without a leap second, names the instant to the
second. -/
def Time.Instant.IsDated (t : Instant) : Prop := t.isLeap = false ∧ Time.firstDated ≤ t

/-- Whether an answer that was given at one time still holds at another: always if it is to end with
the browser's session, and otherwise up to the second in which the days are over, or the latest
expiry. -/
def Banner.Settings.lasts (settings : Banner.Settings) (made now : Instant) : Prop :=
  settings.expiryDays = 0 ∨
    now.seconds <
      min (made.seconds + 86400 * settings.expiryDays.toNat) Time.latestExpiry.seconds

instance (settings : Banner.Settings) (made now : Instant) : Decidable (settings.lasts made now) :=
  inferInstanceAs (Decidable (_ ∨ _))

/-- Until when the cookie of an answer is seen. -/
theorem Decision.isExpired_cookie_iff (decision : Decision) (settings : Banner.Settings)
    {made : Instant} (dated : made.IsDated) (now : Instant) :
    (decision.cookie settings.cookieName settings.expiryDays made).isExpired now = false ↔
      settings.lasts made now := by
  rw [Banner.Settings.lasts, Cookie.isExpired, cookie]
  by_cases days : settings.expiryDays = 0
  · rw [days]
    exact iff_of_true rfl (.inl rfl)
  · obtain ⟨t, kept, nanos, seconds⟩ := Time.keptUntil_eq days dated.1 dated.2
    rw [kept, Option.any_some, decide_eq_false_iff_not, Instant.not_le, Instant.lt_def, nanos,
      ← seconds]
    constructor
    · rintro (lt | ⟨-, lt⟩)
      · exact .inr lt
      -- within the second of expiry there is nothing left to wait for
      · exact absurd lt (Nat.not_lt_zero _)
    · rintro (none | lt)
      · exact absurd none days
      · exact .inl lt

/-! ## The last answer -/

/-- The last answer after some more were given `now`. -/
def lastAnswer (now : Instant) (last : Option (Decision × Instant)) (answers : List Action) :
    Option (Decision × Instant) :=
  (answers.getLast?.map fun action => (action.decision, now)).or last

/-- Answers that come later replace those before them. -/
theorem lastAnswer_append (now : Instant) (last : Option (Decision × Instant))
    (first second : List Action) :
    lastAnswer now last (first ++ second) = lastAnswer now (lastAnswer now last first) second := by
  rw [lastAnswer, lastAnswer, lastAnswer, List.getLast?_append]
  cases second.getLast? <;> rfl

/-- The cookies of a jar that holds the last answer and nothing else. -/
def recordOf (settings : Banner.Settings) (last : Option (Decision × Instant)) : List Cookie :=
  last.toList.map fun answer =>
    answer.1.cookie settings.cookieName settings.expiryDays answer.2

/-- Another answer is put in the place of the last one. -/
theorem put_recordOf (settings : Banner.Settings) (last : Option (Decision × Instant))
    (decision : Decision) (now : Instant) :
    Jar.put (decision.cookie settings.cookieName settings.expiryDays now) (recordOf settings last) =
      recordOf settings (some (decision, now)) := by
  cases last with
  | none => rfl
  | some answer =>
    have same : (answer.1.cookie settings.cookieName settings.expiryDays answer.2).key =
      (decision.cookie settings.cookieName settings.expiryDays now).key := rfl
    rw [recordOf, Option.toList_some, List.map_cons, List.map_nil, Jar.put, if_pos same]
    rfl

/-- The consent that is read at a time, if some answer was the last. -/
def consentAt (settings : Banner.Settings) (last : Option (Decision × Instant)) (now : Instant) :
    ConsentState :=
  match last with
  | none => .absent
  | some (decision, made) =>
    if settings.lasts made now then .ofValue (some decision.cookieValue) else .absent

/-- The jar that holds the record of the last answer, or nothing, is well-formed. -/
theorem isWellFormed_recordOf {settings : Banner.Settings}
    (h : Cookie.isValidName settings.cookieName) (last : Option (Decision × Instant))
    (now : Instant) : (Jar.mk (recordOf settings last) now).IsWellFormed := by
  cases last with
  | none => exact Jar.isWellFormed_empty now
  | some answer =>
    refine ⟨fun c hc => ?_, List.nodup_cons.2 ⟨List.not_mem_nil, List.nodup_nil⟩⟩
    obtain rfl := List.mem_singleton.1 hc
    exact answer.1.isWellFormed_cookie h settings.expiryDays answer.2

/-- Clocks show when an answer expires. -/
theorem isShown_recordOf (settings : Banner.Settings) (last : Option (Decision × Instant))
    (now : Instant) : (Jar.mk (recordOf settings last) now).IsShown := by
  intro c hc
  obtain ⟨answer, -, rfl⟩ := List.mem_map.1 hc
  exact fun t kept => Time.isShown_of_keptUntil kept

/-- What is found in a jar of one cookie. -/
theorem Jar.get?_singleton (c : Cookie) (now : Instant) :
    (Jar.mk [c] now).get? c.name = if c.isExpired now then none else some c := by
  cases expired : c.isExpired now <;> simp [get?, expired]

/-- The consent that is read in a jar with nothing but the last answer. -/
theorem ofValue_read?_recordOf {settings : Banner.Settings}
    (h : Cookie.isValidName settings.cookieName) {last : Option (Decision × Instant)}
    (dated : ∀ answer ∈ last, answer.2.IsDated) (now : Instant) :
    ConsentState.ofValue ((Jar.mk (recordOf settings last) now).read? settings.cookieName) =
      consentAt settings last now := by
  rw [Jar.read?_eq (isWellFormed_recordOf h last now) h]
  -- without an answer the jar is empty; with one, everything depends on whether it still lasts
  cases last with
  | none => rfl
  | some answer =>
    obtain ⟨decision, made⟩ := answer
    have holds := decision.isExpired_cookie_iff settings (dated _ rfl) now
    generalize cookie_eq : decision.cookie settings.cookieName settings.expiryDays made = cookie
      at holds
    have name : settings.cookieName = cookie.name := by rw [← cookie_eq]; rfl
    have value : cookie.value = decision.cookieValue := by rw [← cookie_eq]; rfl
    rw [show recordOf settings (some (decision, made)) = [cookie] from congrArg (· :: []) cookie_eq,
      name, Jar.get?_singleton, consentAt]
    by_cases lasts : settings.lasts made now
    · rw [if_pos lasts, holds.2 lasts, if_neg Bool.false_ne_true, Option.map_some, value,
        decision.unescape_cookieValue]
    · have expired : cookie.isExpired now = true := by
        rw [← Bool.not_eq_false]
        exact fun alive => lasts (holds.1 alive)
      rw [if_neg lasts, expired]
      rfl

/-! ## Through a session -/

namespace Session

variable {σ : Type} [Storage σ] {good : σ → Prop} {settings : Banner.Settings} {now : Instant}
  {last : Option (Decision × Instant)} {session : Session σ}

/-- Whether a session, at a time, remembers the last answer and nothing else, and its storage keeps
the same. -/
structure Remembers (good : σ → Prop) (settings : Banner.Settings) (now : Instant)
    (last : Option (Decision × Instant)) (session : Session σ) : Prop where
  settings_eq : session.banner.settings = settings
  jar_eq : session.banner.jar = ⟨recordOf settings last, now⟩
  good_storage : good session.storage
  keeps : Storage.Keeps session.storage (recordOf settings last)

/-- A click that counts is remembered from then on. -/
theorem Remembers.answered (reliable : Storage.IsReliable good)
    (valid : Cookie.isValidName settings.cookieName) (time : now < Time.latestExpiry)
    (h : session.Remembers good settings now last) (action : Action) :
    (session.answered action).Remembers good settings now (some (action.decision, now)) := by
  have alive := action.decision.isExpired_cookie settings.cookieName settings.expiryDays time
  have jar : (session.banner.act action).jar =
      ⟨recordOf settings (some (action.decision, now)), now⟩ := by
    rw [Banner.jar_act, Banner.jar_record (h.settings_eq ▸ valid), h.settings_eq, h.jar_eq,
      Jar.write_of_not_isExpired alive, put_recordOf]
  obtain ⟨-, good, kept⟩ := reliable session.storage h.good_storage (session.banner.act action).jar
    (jar ▸ isShown_recordOf settings _ now)
  have cookies : (session.banner.act action).jar.cookies =
      recordOf settings (some (action.decision, now)) := congrArg Jar.cookies jar
  rw [cookies] at kept
  exact ⟨h.settings_eq, jar, good, kept⟩

/-- What a session remembers after one event. -/
theorem Remembers.after (reliable : Storage.IsReliable good)
    (valid : Cookie.isValidName settings.cookieName) (time : now < Time.latestExpiry)
    (h : session.Remembers good settings now last) (event : Event) :
    (session.after event).Remembers good settings now
      (lastAnswer now last (session.answer? event).toList) := by
  rcases handle_cases session {} event with
    ⟨-, -, answer, eq⟩ | ⟨action, -, -, answer, eq⟩ | ⟨-, -, answer, _, _, eq⟩
  · rw [Session.after, eq, answer]
    exact ⟨h.settings_eq, h.jar_eq, h.good_storage, h.keeps⟩
  · rw [Session.after, eq, answer]
    exact h.answered reliable valid time action
  · rw [Session.after, eq, answer]
    exact h

/-- What a session remembers after a run, whatever the events are. -/
theorem Remembers.consume (reliable : Storage.IsReliable good)
    (valid : Cookie.isValidName settings.cookieName) (time : now < Time.latestExpiry)
    (h : session.Remembers good settings now last) (report : Report) (events : List Event) :
    (session.consume report events).1.Remembers good settings now
      (lastAnswer now last (session.answers events)) := by
  induction events generalizing session last report with
  | nil => exact h
  | cons event events ih =>
    by_cases stays : event = .unload
    · subst stays
      exact h
    -- the last answer moves on with the event, and the rest of the run begins with it
    · rw [consume_cons stays, answers_cons stays, lastAnswer_append, fst_handle]
      exact ih (h.after reliable valid time event) _

/-! ## Getting ready -/

/-- Nothing is shown before the document is ready. -/
theorem consume_of_not_ready {events : List Event} (waits : .ready ∉ events) (session : Session σ)
    (report : Report) :
    (session.consume report events).1.isReady = session.isReady ∧
      (session.consume report events).2.shown = report.shown := by
  induction events generalizing session report with
  | nil => exact ⟨rfl, rfl⟩
  | cons event events ih =>
    have rest := @ih fun mem => waits (List.mem_cons_of_mem event mem)
    by_cases stays : event = .unload
    · subst stays
      exact ⟨rfl, rfl⟩
    · rw [consume_cons stays]
      rcases handle_cases session report event with ⟨eq, -⟩ | ⟨_, -, -, -, eq⟩ | ⟨-, -, -, _, _, eq⟩
      · exact absurd (eq ▸ List.mem_cons_self) waits
      · rw [eq]
        exact rest _ _
      · rw [eq]
        exact rest _ _

end Session

end CookieConsent
