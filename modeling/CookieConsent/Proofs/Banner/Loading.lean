import CookieConsent.Proofs.Banner.Recording
import CookieConsent.Proofs.Json.Members
import CookieConsent.Proofs.Json.Reading
import CookieConsent.Proofs.Json.Stored

/-!
# Settings are loaded over the defaults

A site stores as many of its settings as it likes, in any order, and what else it keeps in the same
object is passed over. What is loaded are the defaults with the settings that are given in their
place, and they are loaded exactly if they can be used.

A name of a member is read as a text, also one that is passed over, so a name whose escapes leave a
surrogate unpaired spoils the object. A value that is passed over may hold such strings.

* `ofJson?_record`: the settings that an object gives.
* `loaded_over_defaults`: loading from any text of such an object, and from what is stored.
* `refused_for_unpaired_name`: a name without a text.
-/

namespace CookieConsent.Banner.Settings

open Time (Instant)

/-- The names under which settings are stored. -/
def names : List String :=
  ["cookie_name", "expiry_days", "privacy_url", "message", "link_text", "accept_label",
    "refuse_label", "container_class"]

/-- The settings that a site gives; the others are left out. -/
structure Given where
  cookieName : Option String := none
  expiryDays : Option UInt32 := none
  privacyUrl : Option String := none
  message : Option String := none
  linkText : Option String := none
  acceptLabel : Option String := none
  refuseLabel : Option String := none
  containerClass : Option String := none
deriving DecidableEq, Repr

namespace Given

/-- The stored form of what is given for each setting, with its name. -/
def fields (given : Given) : List (String × Option Json) :=
  [("cookie_name", given.cookieName.map .ofText),
    ("expiry_days", given.expiryDays.map fun days => .ofNat days.toNat),
    ("privacy_url", given.privacyUrl.map .ofText), ("message", given.message.map .ofText),
    ("link_text", given.linkText.map .ofText), ("accept_label", given.acceptLabel.map .ofText),
    ("refuse_label", given.refuseLabel.map .ofText),
    ("container_class", given.containerClass.map .ofText)]

/-- The members of an object that gives the settings and nothing else. -/
def members (given : Given) : List (String × Json) := Json.present given.fields

/-- The defaults, with the settings that are given in their place. -/
def settings (given : Given) : Settings :=
  let default : Settings := {}
  { cookieName := given.cookieName.getD default.cookieName
    expiryDays := given.expiryDays.getD default.expiryDays
    privacyUrl := given.privacyUrl.getD default.privacyUrl
    message := given.message.getD default.message
    linkText := given.linkText.getD default.linkText
    acceptLabel := given.acceptLabel.getD default.acceptLabel
    refuseLabel := given.refuseLabel.getD default.refuseLabel
    containerClass := given.containerClass.getD default.containerClass }

end Given

/-- What is given for a field is found, and its default if nothing is. -/
theorem fieldOr_map {α : Type} {encode : α → Json} {decode : Json → Option α}
    (h : ∀ a, decode (encode a) = some a) (default : α) (given : Option α) :
    fieldOr decode default (given.map encode) = some (given.getD default) := by
  cases given with
  | none => rfl
  | some a => exact h a

/-- An object gives settings in any order, with members of other names among them. -/
theorem ofJson?_record {given : Given} {members others : List (String × Json)}
    (unknown : ∀ member ∈ others, member.1 ∉ names)
    (perm : members.Perm (given.members ++ others)) :
    ofJson? (.record members) = some given.settings := by
  have nodup : (given.fields.map Prod.fst).Nodup := by
    change names.Nodup
    decide
  have fields : (Json.record members).fields? names 0 = some (given.fields.map Prod.snd) :=
    Json.fields?_record nodup unknown perm 0
  have text := @fieldOr_map String Json.ofText Json.text? fun _ => rfl
  have days := fieldOr_map Json.uint32?_ofNat
  -- the reader spells the names out
  unfold names at fields
  rw [ofJson?, fields]
  simp [Given.fields, Given.settings, text, days]

/-- Settings that a text stores are loaded if they can be used. -/
theorem ofText_of_stored {text : String} {value : Json} (h : Json.IsTextOf text.toList value)
    {settings : Settings} (stored : ofJson? value = some settings) (now : Instant) :
    ofText now text = (settings.check now).map fun _ => settings := by
  rw [ofText, Json.parse?_eq_some_iff.2 h, Option.bind_some, stored]

/-- Settings that can be used, and no others, are what is left of them by the check. -/
theorem map_check_eq_ok_iff {settings : Settings} {now : Instant} :
    (settings.check now).map (fun _ => settings) = .ok settings ↔ settings.check now = .ok () := by
  cases settings.check now with
  | error e => exact iff_of_false nofun nofun
  | ok checked => exact iff_of_true rfl rfl

/-- Nothing is loaded from an object that repeats the name of a setting, or in which a name has no
text. -/
theorem ofText_of_spoiled {members : List (Option String × Json)}
    (spoiled : none ∈ members.map Prod.fst ∨
      ∃ name ∈ names, 1 < (members.map Prod.fst).count (some name))
    {text : String} (h : Json.IsTextOf text.toList (.object members)) (now : Instant) :
    ofText now text = .error (.settings notStored) := by
  have refused : (Json.object members).fields? names 0 = none := by
    rcases spoiled with unnamed | ⟨name, known, repeated⟩
    · exact Json.fields?_of_unnamed unnamed names 0
    · exact Json.fields?_of_repeated known repeated 0
  unfold names at refused
  rw [ofText, Json.parse?_eq_some_iff.2 h, Option.bind_some, ofJson?, refused]
  rfl

/-- **Settings are loaded over the defaults.** Take any of the settings with any values, and any
members with other names and any values of JSON, and an object of all these members in any order. From
any text of the object the defaults are loaded with the given settings in their place, if they can be
used, and otherwise the reason is the one for which they cannot. An object that repeats the name of a
setting, whatever its members are, is turned down as it stands, and so is one in which a name has no
text. Stored settings are loaded from their text if and only if they can be used. -/
theorem loaded_over_defaults (now : Instant) :
    (∀ (given : Given) (others members : List (String × Json)) (text : String),
      (∀ member ∈ others, member.1 ∉ names) → members.Perm (given.members ++ others) →
      Json.IsTextOf text.toList (.record members) →
        ofText now text = match given.settings.check now with
          | .ok () => .ok given.settings
          | .error e => .error e) ∧
    (∀ (members : List (Option String × Json)) (text : String),
      (∃ name ∈ names, 1 < (members.map Prod.fst).count (some name)) →
      Json.IsTextOf text.toList (.object members) →
        ∃ reason, ofText now text = .error (.settings reason)) ∧
    (∀ (members : List (Option String × Json)) (text : String),
      none ∈ members.map Prod.fst → Json.IsTextOf text.toList (.object members) →
        ∃ reason, ofText now text = .error (.settings reason)) ∧
    ∀ settings : Settings,
      (ofText now settings.toJson.compact = .ok settings ↔ settings.check now = .ok ()) ∧
      (ofText now settings.toJson.indented = .ok settings ↔ settings.check now = .ok ()) := by
  refine ⟨?given, ?repeated, ?unnamed, ?stored⟩
  case given =>
    -- the members in any order give the same fields, and the others none
    intro given others members text unknown perm isText
    rw [ofText_of_stored isText (ofJson?_record unknown perm)]
    cases given.settings.check now <;> rfl
  case repeated =>
    exact fun members text repeated isText => ⟨_, ofText_of_spoiled (.inr repeated) isText now⟩
  case unnamed =>
    exact fun members text unnamed isText => ⟨_, ofText_of_spoiled (.inl unnamed) isText now⟩
  case stored =>
    intro settings
    rw [ofText, ofText, Json.parse?_compact, Json.parse?_indented, Option.bind_some,
      ofJson?_toJson]
    exact ⟨map_check_eq_ok_iff, map_check_eq_ok_iff⟩

/-- Two settings with escapes in their texts, between members that are passed over although they hold
a number beyond all bounds and surrogates without a partner; a setting that is repeated; and a name
without a text. -/
theorem loaded_over_defaults_among_others :
    let given : Given := { expiryDays := some 30, message := some "/" }
    let days : String × Json := ("expiry_days", .ofNat 30)
    let message : String × Json := ("message", .ofText "/")
    let x : String × Json := ("x", .array [.number ⟨false, 1, [], some 400⟩, .string none])
    let y : String × Json := ("", .object [(none, .null)])
    let text := " \x7b\"x\":[1e400,\"\\udfff\"],\"\\u0065xpiry_days\" : 30," ++
      "\"\":\x7b\"\\ud800\":null\x7d,\"message\":\"\\/\"\x7d\n"
    let repeated := "\x7b\"message\":\"\",\"\":[],\"message\":null\x7d"
    let unnamed := "\x7b\"\\ud800\":0\x7d"
    [x, days, y, message].Perm (given.members ++ [x, y]) ∧
      Json.IsTextOf text.toList (.record [x, days, y, message]) ∧
      ofText Instant.epoch text = .ok given.settings ∧
      (∃ reason, ofText Instant.epoch repeated = .error (.settings reason)) ∧
      ∃ reason, ofText Instant.epoch unnamed = .error (.settings reason) := by
  intro given days message x y text repeated unnamed
  have perm : [x, days, y, message].Perm (given.members ++ [x, y]) :=
    (@List.perm_middle _ days [x] [y, message]).trans
      ((@List.perm_middle _ message [x, y] []).cons days)
  have isText : Json.IsTextOf text.toList (.record [x, days, y, message]) := by
    have gap (c : Char) (h : Json.isSpace c) : Json.IsGap [c] := List.forall_mem_singleton.2 h
    have half : Json.SpellsUnits ['\\', 'u', 'd', 'f', 'f', 'f'] [0xDFFF] :=
      .unit (by decide) (by decide) (by decide) (by decide) .nil
    have letter : Json.SpellsUnits ('\\' :: 'u' :: '0' :: '0' :: '6' :: '5' :: _) (0x65 :: _) :=
      .unit (by decide) (by decide) (by decide) (by decide)
        (Json.spellsUnits_flatMap "xpiry_days".toList)
    have slash : Json.SpellsUnits ['\\', '/'] (Text.Utf16.encodeChar '/' ++ []) :=
      .short rfl .nil
    -- the members, each from its quote on
    have spelledX : Json.SpellsMember (Json.Spaced Json.SpellsValue) _ (some x.1, x.2) :=
      .pair (Json.spellsString_quote (some "x")) Json.isGap_nil (.of_form (.array (.items
        (.more (.of_form (.number (Json.spellsNumber_write _))) Json.isGap_nil
          (.last (.of_form (.string (half.spellsString (by decide)))) Json.isGap_nil)))))
    have spelledDays : Json.SpellsMember (Json.Spaced Json.SpellsValue) _ (some days.1, days.2) :=
      .pair (letter.spellsString (by decide)) (gap ' ' rfl)
        (.behind (gap ' ' rfl) (.number (Json.spellsNumber_write _)))
    have spelledY : Json.SpellsMember (Json.Spaced Json.SpellsValue) _ (some y.1, y.2) :=
      Json.spellsMember_writeMember (Json.spellsValue_write .compact 0 y.2)
    have spelledMessage :
        Json.SpellsMember (Json.Spaced Json.SpellsValue) _ (some message.1, message.2) :=
      .pair (Json.spellsString_quote (some "message")) Json.isGap_nil
        (.of_form (.string (slash.spellsString (by decide))))
    have spelled := Json.IsTextOf.whole (.behind (gap ' ' rfl) (.object (.items
      (.more (.of_form spelledX) Json.isGap_nil (.more (.of_form spelledDays) Json.isGap_nil
        (.more (.of_form spelledY) Json.isGap_nil
          (.last (.of_form spelledMessage) Json.isGap_nil))))))) (gap '\n' rfl)
    refine Eq.mp (congrArg (Json.IsTextOf · _) ?_) spelled
    decide +kernel
  have isRepeated : Json.IsTextOf repeated.toList
      (.object [(some "message", .ofText ""), (some "", .array []), (some "message", .null)]) :=
    Json.isTextOf_of_eq_compact (by decide +kernel)
  have isUnnamed : Json.IsTextOf unnamed.toList (.object [(none, .ofNat 0)]) :=
    Json.isTextOf_of_eq_compact (by decide +kernel)
  have usable : given.settings.check Instant.epoch = .ok () := by subst given; rfl
  obtain ⟨loaded, refused, refused', -⟩ := loaded_over_defaults Instant.epoch
  have result := loaded given [x, y] _ text (by decide) perm isText
  rw [usable] at result
  exact ⟨perm, isText, result, refused _ _ ⟨"message", by decide, by decide⟩ isRepeated,
    refused' _ _ (by simp) isUnnamed⟩

/-- A name whose escape is half a pair spoils an object that gives no setting, although the defaults
can be used. -/
theorem refused_for_unpaired_name :
    let text := "\x7b\"\\ud800\":0\x7d"
    Json.IsTextOf text.toList (.object [(none, .ofNat 0)]) ∧
      ({} : Given).settings.check Instant.epoch = .ok () ∧
      ofText Instant.epoch text = .error (.settings notStored) := by
  intro text
  have isText : Json.IsTextOf text.toList (.object [(none, .ofNat 0)]) :=
    Json.isTextOf_of_eq_compact (by decide +kernel)
  exact ⟨isText, rfl, ofText_of_spoiled (.inl (by simp)) isText Instant.epoch⟩

end CookieConsent.Banner.Settings
