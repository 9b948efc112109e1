import CookieConsent.Page.Node

/-!
# HTML

The text of a page. Texts and the values of attributes write the five characters that HTML could
take for its own as entities; every element has an end tag.
-/

namespace CookieConsent.Html

/-- The form of a character in a text or in the value of an attribute. -/
def escapeChar (c : Char) : List Char :=
  if c = '&' then "&amp;".toList
  else if c = '<' then "&lt;".toList
  else if c = '>' then "&gt;".toList
  else if c = '"' then "&quot;".toList
  else if c = '\'' then "&#39;".toList
  else [c]

def escape (text : String) : List Char := text.toList.flatMap escapeChar

/-- The attributes of a tag, each with a blank in front. -/
def writeAttributes (attributes : List (String × String)) : List Char :=
  attributes.flatMap fun (name, value) =>
    ' ' :: name.toList ++ '=' :: '"' :: escape value ++ ['"']

/-- The text of a forest. -/
def write : List Node → List Char
  | [] => []
  | .text content :: nodes => escape content ++ write nodes
  | .element tag children :: nodes =>
    '<' :: tag.name.toList ++ writeAttributes tag.attributes ++ '>' :: write children ++
      '<' :: '/' :: tag.name.toList ++ '>' :: write nodes

end CookieConsent.Html
