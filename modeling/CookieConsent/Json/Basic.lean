/-!
# JSON values

The values of JSON as a reader needs them. Numbers keep the way they are written apart from
spelling, so that a whole number can be told from a number with a fraction or an exponent. The
escapes of a string can name UTF-16 units that do not pair up; such a string belongs to the grammar
but has no text.
-/

namespace CookieConsent

/-- A number as it is written: sign, whole part, digits of the fraction (none: no point) and
exponent. -/
structure Json.Number where
  negative : Bool
  whole : Nat
  fraction : List (Fin 10)
  exponent : Option Int
deriving DecidableEq, Repr

/-- A JSON value. Members of an object keep their order and may repeat a key. -/
inductive Json where
  | null
  | bool (value : Bool)
  | number (value : Json.Number)
  /-- A string; `none` if its escapes leave a surrogate unpaired. -/
  | string (text : Option String)
  | array (items : List Json)
  | object (members : List (Option String × Json))
deriving Inhabited

namespace Json

def ofText (text : String) : Json := .string (some text)

def ofNat (n : Nat) : Json := .number ⟨false, n, [], none⟩

/-- The object with members in the order given. -/
def record (members : List (String × Json)) : Json :=
  .object (members.map fun member => (some member.1, member.2))

/-- A value that may be absent, written as `null` when it is. -/
def ofOption {α : Type} (encode : α → Json) : Option α → Json
  | some a => encode a
  | none => .null

end Json

end CookieConsent
