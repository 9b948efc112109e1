import CookieConsent.Json.Basic

/-!
# Writing JSON

A value is written on one line without blanks, or with each item and member on a line of its own,
indented by two blanks for each level; empty arrays and objects stay on their line either way.
Strings escape quotes, backslashes and control characters, and nothing else.
-/

namespace CookieConsent.Json

/-- How a text is laid out. -/
inductive Layout where
  | compact
  | indented
deriving DecidableEq, Repr

/-- What stands before an item at a level, and before the bracket that closes it. -/
def Layout.lineBreak : Layout → Nat → List Char
  | .compact, _ => []
  | .indented, level => '\n' :: List.replicate (2 * level) ' '

/-- What stands between a key and its value. -/
def Layout.colon : Layout → List Char
  | .compact => [':']
  | .indented => [':', ' ']

/-- The form of one character inside a string. -/
def quoteChar (c : Char) : List Char :=
  if c = '"' then ['\\', '"']
  else if c = '\\' then ['\\', '\\']
  else if c = '\n' then ['\\', 'n']
  else if c = '\r' then ['\\', 'r']
  else if c = '\t' then ['\\', 't']
  else if c = '\x08' then ['\\', 'b']
  else if c = '\x0c' then ['\\', 'f']
  else if c.toNat < 0x20 then
    ['\\', 'u', '0', '0', (c.toNat / 16).digitChar, (c.toNat % 16).digitChar]
  else [c]

/-- The literal of a string. A string without a text is written as an unpaired surrogate. -/
def quote (text : Option String) : List Char :=
  match text with
  | some s => '"' :: s.toList.flatMap quoteChar ++ ['"']
  | none => ['"', '\\', 'u', 'd', '8', '0', '0', '"']

def Number.write (n : Number) : List Char :=
  (if n.negative then ['-'] else []) ++ Nat.toDigits 10 n.whole ++
    (if n.fraction = [] then [] else '.' :: n.fraction.map fun d => d.val.digitChar) ++
    match n.exponent with
    | none => []
    | some (.ofNat e) => 'e' :: Nat.toDigits 10 e
    | some (.negSucc e) => 'e' :: '-' :: Nat.toDigits 10 (e + 1)

mutual

/-- The text of a value that stands at a level. -/
def write (layout : Layout) (level : Nat) : Json → List Char
  | .null => ['n', 'u', 'l', 'l']
  | .bool true => ['t', 'r', 'u', 'e']
  | .bool false => ['f', 'a', 'l', 's', 'e']
  | .number n => n.write
  | .string text => quote text
  | .array [] => ['[', ']']
  | .array (item :: items) =>
    '[' :: layout.lineBreak (level + 1) ++ item.write layout (level + 1) ++
      writeItems layout (level + 1) items ++ layout.lineBreak level ++ [']']
  | .object [] => ['{', '}']
  | .object ((key, value) :: members) =>
    '{' :: layout.lineBreak (level + 1) ++ quote key ++ layout.colon ++
      value.write layout (level + 1) ++ writeMembers layout (level + 1) members ++
      layout.lineBreak level ++ ['}']

/-- The text of the items behind the first one. -/
def writeItems (layout : Layout) (level : Nat) : List Json → List Char
  | [] => []
  | item :: items =>
    ',' :: layout.lineBreak level ++ item.write layout level ++ writeItems layout level items

/-- The text of the members behind the first one. -/
def writeMembers (layout : Layout) (level : Nat) : List (Option String × Json) → List Char
  | [] => []
  | (key, value) :: members =>
    ',' :: layout.lineBreak level ++ quote key ++ layout.colon ++ value.write layout level ++
      writeMembers layout level members

end

/-- The text of a value on one line. -/
def compact (value : Json) : String := String.ofList (value.write .compact 0)

/-- The text of a value on lines of its own for each item and member. -/
def indented (value : Json) : String := String.ofList (value.write .indented 0)

end CookieConsent.Json
