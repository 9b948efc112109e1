import CookieConsent.Json.Basic

/-!
# The shapes of stored values

How records and choices are found in a JSON value.

A record is an object, or an array that lists the fields in order. In an object the fields may come
in any order, but each at most once; members of other names are passed over. An array may leave out
fields at its end where the record allows it.

A choice is a string that names it, or an object with one member whose key names it.
-/

namespace CookieConsent.Json

def text? : Json → Option String
  | .string text => text
  | _ => none

/-- A natural number of 32 bits, written with neither a sign nor a fraction nor an exponent. -/
def uint32? : Json → Option UInt32
  | .number ⟨false, n, [], none⟩ => if n < UInt32.size then some (UInt32.ofNat n) else none
  | _ => none

/-- What `decode` finds in a value, and `none` in `null`. -/
def nullable? {α : Type} (decode : Json → Option α) : Json → Option (Option α)
  | .null => some none
  | value => (decode value).map some

/-- What `decode` finds in every item of an array. -/
def list? {α : Type} (decode : Json → Option α) : Json → Option (List α)
  | .array items => items.mapM decode
  | _ => none

/-- The value of the one member with the key `name`, or `none` if there is none; fails if there are
several. -/
def memberNamed? (members : List (String × Json)) (name : String) : Option (Option Json) :=
  match members.filter (·.1 = name) with
  | [] => some none
  | [member] => some (some member.2)
  | _ => none

/-- The values of the fields with the given names; `none` stands for a field that is left out. An
array has to list at least `least` of them. -/
def fields? (names : List String) (least : Nat) : Json → Option (List (Option Json))
  | .array items =>
    if least ≤ items.length ∧ items.length ≤ names.length then
      some (items.map some ++ List.replicate (names.length - items.length) none)
    else none
  | .object members => do
    let members ← members.mapM fun member => member.1.map (·, member.2)
    names.mapM (memberNamed? members)
  | _ => none

/-- The name of a choice, and the value that comes with it. -/
def choice? : Json → Option (String × Option Json)
  | .string (some name) => some (name, none)
  | .object [(some name, value)] => some (name, some value)
  | _ => none

/-- The name of a choice that comes with nothing, or with `null`. -/
def plainChoice? (value : Json) : Option String :=
  match choice? value with
  | some (name, none) => some name
  | some (name, some .null) => some name
  | _ => none

end CookieConsent.Json
