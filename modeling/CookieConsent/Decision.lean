import CookieConsent.Json.Shape

/-!
# Decisions

A visitor accepts cookies or refuses them. The decision is kept as the value of one cookie; any
value of that cookie, also one that is no decision, means that the visitor has been asked.

* `ofValue_cookieValue`: a decision is read back from the value that stores it.
* `decision_eq_some_iff`: no other value stores it.
-/

namespace CookieConsent

/-- The visitor's answer. -/
inductive Decision where
  | accepted
  | refused
deriving DecidableEq, Repr

namespace Decision

/-- The decision to accept, or not to. -/
def ofBool (accepted : Bool) : Decision := if accepted then .accepted else .refused

/-- The value of the cookie that stores the decision. -/
def cookieValue : Decision → String
  | .accepted => "true"
  | .refused => "false"

def toJson : Decision → Json
  | .accepted => .ofText "Accepted"
  | .refused => .ofText "Refused"

def ofJson? (value : Json) : Option Decision := do
  match ← value.plainChoice? with
  | "Accepted" => some .accepted
  | "Refused" => some .refused
  | _ => none

end Decision

/-- What is known of the visitor's consent. -/
inductive ConsentState where
  /-- There is no cookie that stores it. -/
  | absent
  | accepted
  | refused
  /-- The cookie holds a value that is no decision. -/
  | unrecognized (value : String)
deriving DecidableEq, Repr

namespace ConsentState

/-- What the value of the cookie says, if there is one. -/
def ofValue : Option String → ConsentState
  | none => .absent
  | some value =>
    if value = "true" then .accepted
    else if value = "false" then .refused
    else .unrecognized value

/-- Whether the visitor has been asked. -/
def isPresent (state : ConsentState) : Bool := state ≠ .absent

/-- The decision that is stored, if it is one. -/
def decision? : ConsentState → Option Decision
  | .accepted => some .accepted
  | .refused => some .refused
  | .absent | .unrecognized _ => none

/-- A decision is read back from the value that stores it. -/
theorem ofValue_cookieValue (d : Decision) : (ofValue (some d.cookieValue)).decision? = some d := by
  cases d <;> rfl

/-- No other value stores a decision. -/
theorem decision_eq_some_iff {value : Option String} {d : Decision} :
    (ofValue value).decision? = some d ↔ value = some d.cookieValue := by
  cases value with
  | none => simp [ofValue, decision?]
  | some v =>
    by_cases accepted : v = "true"
    · subst accepted
      cases d <;> simp [ofValue, decision?, Decision.cookieValue]
    · by_cases refused : v = "false"
      · subst refused
        cases d <;> simp [ofValue, decision?, Decision.cookieValue]
      · cases d <;> simp [ofValue, decision?, Decision.cookieValue, accepted, refused]

/-- The state is present exactly when the cookie has a value. -/
@[simp] theorem isPresent_ofValue (value : Option String) :
    (ofValue value).isPresent = value.isSome := by
  cases value with
  | none => rfl
  | some v =>
    by_cases accepted : v = "true"
    · simp [ofValue, isPresent, accepted]
    · by_cases refused : v = "false" <;> simp [ofValue, isPresent, accepted, refused]

def toJson : ConsentState → Json
  | .absent => .ofText "Absent"
  | .accepted => .ofText "Accepted"
  | .refused => .ofText "Refused"
  | .unrecognized value => .record [("Unrecognized", .ofText value)]

def ofJson? (value : Json) : Option ConsentState := do
  match ← value.choice? with
  | ("Absent", none) | ("Absent", some .null) => some .absent
  | ("Accepted", none) | ("Accepted", some .null) => some .accepted
  | ("Refused", none) | ("Refused", some .null) => some .refused
  | ("Unrecognized", some value) => value.text?.map .unrecognized
  | _ => none

end ConsentState

end CookieConsent
