import CookieConsent.Banner.Settings
import CookieConsent.Cookie.Record
import CookieConsent.Proofs.Jar.Snapshots
import CookieConsent.Tracker.Settings

/-!
# Stored forms are read back

Everything that is stored has a stored form, and is read back from it: decisions, states of consent,
recorded decisions, cookies, jars but for their time, and both kinds of settings. A value of JSON is
read back from its text in either layout, so it is enough that the value is found in its stored form.

Instants are stored as clocks show them. So all is read back without loss but for an expiry in a leap
second within a minute, which is read as one in the next second.

* `readsAs_of_decode`: from the stored form to its text.
* `stored_forms_read_back`: the whole data model.
* `leap_second_read_as_next`: an expiry that is not read back.
-/

namespace CookieConsent

open Time (Instant)

namespace Json

/-- Whether every value is read, from the text of its stored form on one line or on many, as the
value that is seen of it. -/
def ReadsAs {α : Type} (encode : α → Json) (decode : Json → Option α) (seen : α → α) : Prop :=
  ∀ a, (parse? (encode a).compact).bind decode = some (seen a) ∧
    (parse? (encode a).indented).bind decode = some (seen a)

/-- Whether every value is read back. -/
def IsLossless {α : Type} (encode : α → Json) (decode : Json → Option α) : Prop :=
  ReadsAs encode decode id

/-- What is found in the stored form of a value is read from the text of it. -/
theorem readsAs_of_decode {α : Type} {encode : α → Json} {decode : Json → Option α} {seen : α → α}
    (h : ∀ a, decode (encode a) = some (seen a)) : ReadsAs encode decode seen := by
  intro a
  rw [parse?_compact, parse?_indented, Option.bind_some]
  exact ⟨h a, h a⟩

/-- A number of 32 bits is found in its stored form. -/
@[simp] theorem uint32?_ofNat (n : UInt32) : (ofNat n.toNat).uint32? = some n := by
  have fits : n.toNat < UInt32.size := n.toNat_lt_size
  rw [ofNat, uint32?, if_pos fits, UInt32.ofNat_toNat]

end Json

/-! ## What is found in the stored forms -/

theorem Decision.ofJson?_toJson (d : Decision) : ofJson? d.toJson = some d := by
  cases d <;> rfl

theorem ConsentState.ofJson?_toJson (state : ConsentState) : ofJson? state.toJson = some state := by
  cases state <;> rfl

namespace RecordedDecision

/-- The record with the expiry that clocks show. -/
def shown (r : RecordedDecision) : RecordedDecision :=
  { r with expires := r.expires.map Instant.shown }

/-- A record is shown as it is when clocks show its expiry. -/
theorem shown_eq_self_iff {r : RecordedDecision} : r.shown = r ↔ ∀ t ∈ r.expires, t.IsShown := by
  obtain ⟨decision, expires⟩ := r
  simp only [shown, mk.injEq, true_and]
  exact map_shown_eq_self_iff

/-- A record is found in its stored form with the expiry that clocks show. -/
theorem ofJson?_toJson (r : RecordedDecision) : ofJson? r.toJson = some r.shown := by
  have fields : r.toJson.fields? ["decision", "expires"] 2 =
      some [some r.decision.toJson,
        some (.ofOption (fun t => .ofText (Time.timestamp t)) r.expires)] := rfl
  rw [ofJson?, fields]
  simp [Decision.ofJson?_toJson, Cookie.nullable?_instant?, shown]

end RecordedDecision

/-- The settings of the banner are found in their stored form; every field is given there. -/
theorem Banner.Settings.ofJson?_toJson (s : Banner.Settings) : ofJson? s.toJson = some s := by
  -- no two members have one name, so each field is found under its own
  have fields : s.toJson.fields? ["cookie_name", "expiry_days", "privacy_url", "message",
      "link_text", "accept_label", "refuse_label", "container_class"] 0 =
      some [some (.ofText s.cookieName), some (.ofNat s.expiryDays.toNat),
        some (.ofText s.privacyUrl), some (.ofText s.message), some (.ofText s.linkText),
        some (.ofText s.acceptLabel), some (.ofText s.refuseLabel),
        some (.ofText s.containerClass)] := rfl
  rw [ofJson?, fields]
  simp [fieldOr]

/-- The settings of the tracker are found in their stored form. -/
theorem Tracker.Settings.ofJson?_toJson (s : Tracker.Settings) : ofJson? s.toJson = some s := by
  have fields : s.toJson.fields? ["base_url", "site_id", "cookie_name"] 2 =
      some [some (.ofText s.baseUrl), some (.ofText s.siteId), some (.ofText s.cookieName)] := rfl
  rw [ofJson?, fields]
  simp

/-! ## The whole data model -/

/-- **What is stored is read back.** Decisions, states of consent and the settings of banner and
tracker are read back from their texts, whatever characters these hold. Recorded decisions, cookies,
and the cookies of a jar in their order, at any time that the jar is put to, are read with the
expiries that clocks show: in any year and with any nanoseconds. That is without loss unless an
expiry lies in a leap second that does not end a minute; such an expiry is read as one in the next
second. -/
theorem stored_forms_read_back :
    Json.IsLossless Decision.toJson Decision.ofJson? ∧
    Json.IsLossless ConsentState.toJson ConsentState.ofJson? ∧
    Json.IsLossless Banner.Settings.toJson Banner.Settings.ofJson? ∧
    Json.IsLossless Tracker.Settings.toJson Tracker.Settings.ofJson? ∧
    Json.ReadsAs RecordedDecision.toJson RecordedDecision.ofJson? RecordedDecision.shown ∧
    Json.ReadsAs Cookie.toJson Cookie.ofJson? Cookie.shown ∧
    (∀ (now : Instant) (jar : Jar),
      Jar.ofText? now jar.snapshot = some ⟨jar.cookies.map Cookie.shown, now⟩ ∧
      Jar.ofText? now jar.toJson.indented = some ⟨jar.cookies.map Cookie.shown, now⟩) ∧
    (∀ r : RecordedDecision,
      r.shown = r ↔ ∀ t ∈ r.expires, t.isLeap = true → t.seconds % 60 = 59) ∧
    (∀ c : Cookie, c.shown = c ↔ ∀ t ∈ c.expires, t.isLeap = true → t.seconds % 60 = 59) ∧
    ∀ t : Instant, t.shown = t ∨ t.isLeap = true ∧ t.seconds % 60 ≠ 59 ∧
      t.shown.seconds = t.seconds + 1 ∧ t.shown.nanos = t.nanos - 1000000000 := by
  refine ⟨Json.readsAs_of_decode Decision.ofJson?_toJson,
    Json.readsAs_of_decode ConsentState.ofJson?_toJson,
    Json.readsAs_of_decode Banner.Settings.ofJson?_toJson,
    Json.readsAs_of_decode Tracker.Settings.ofJson?_toJson,
    Json.readsAs_of_decode RecordedDecision.ofJson?_toJson,
    Json.readsAs_of_decode Cookie.ofJson?_toJson,
    fun now jar => ⟨Jar.ofText?_snapshot now jar, Jar.ofText?_indented now jar⟩,
    fun r => RecordedDecision.shown_eq_self_iff, fun c => Cookie.shown_eq_self_iff, fun t => ?_⟩
  -- an instant that clocks do not show as itself is shown a second later, with as many nanoseconds
  -- less
  by_cases h : t.IsShown
  · exact .inl (Instant.shown_of_isShown h)
  · obtain ⟨leap, within⟩ := Instant.not_isShown_iff.1 h
    exact .inr ⟨leap, within, Instant.shown_of_not_isShown h⟩

/-- A cookie that expires in the leap second behind 00:00:04 is read as one that expires in the
second that is called 00:00:05. -/
theorem leap_second_read_as_next :
    let written : Cookie :=
      ⟨"n", "1", "/", some ⟨4, 1333333333, by decide, by decide, by decide⟩⟩
    let read : Cookie := ⟨"n", "1", "/", some ⟨5, 333333333, by decide, by decide, by decide⟩⟩
    (Json.parse? written.toJson.compact).bind Cookie.ofJson? = some read ∧ read ≠ written := by
  intro written read
  exact ⟨(Json.readsAs_of_decode Cookie.ofJson?_toJson written).1, by decide⟩

end CookieConsent
