import CookieConsent.Banner.Settings
import CookieConsent.Page.Basic

/-!
# Markup of the banner

The banner is one element: a paragraph with a message, a link to the privacy page, and a control
for each of the two answers.
-/

namespace CookieConsent.Banner

def button (kind label : String) (action : Action) : Node :=
  .element
    (Tag.onClick { name := "button", attributes := [("type", "button"), ("class", kind)] } action)
    [.text label]

/-- The banner. -/
def markup (settings : Settings) : Node :=
  .element { name := "div", attributes := [("class", settings.containerClass)] }
    [.element { name := "p" }
      [.text (settings.message ++ " "),
       .element
         { name := "a", attributes := [("href", settings.privacyUrl), ("target", "_blank")] }
         [.text settings.linkText],
       .text ".",
       button "btn btn-xs btn-success" settings.acceptLabel .accept,
       button "btn btn-xs btn-danger" settings.refuseLabel .refuse]]

/-- What has to be put in front of a page: the banner, unless the visitor has been asked. -/
def plan (state : ConsentState) (settings : Settings) : Option (List Node) :=
  if state.isPresent then none else some [markup settings]

/-- A page with what has to be put in front of it, and whether that was anything. -/
def carryOut (plan : Option (List Node)) (page : Page) : Page × Bool :=
  match plan with
  | some nodes => (page.prepend nodes, true)
  | none => (page, false)

end CookieConsent.Banner
