import CookieConsent.Json.Writer
import CookieConsent.Tracker.Command

/-!
# The tracker's snippet

The script that a page runs: it queues the commands, one on a line, and loads the tracker.
-/

namespace CookieConsent.Tracker

def queueJson (queue : List Command) : Json := .array (queue.map Command.toJson)

/-- The line that queues a command. -/
def pushLine (command : Command) : String := "_paq.push(" ++ command.toJson.compact ++ ");\n"

def loader (scriptUrl : String) : String :=
  "(function() \x7b\n" ++
  "    var d=document, g=d.createElement('script'), s=d.getElementsByTagName('script')[0];\n" ++
  "    g.type='text/javascript'; g.async=true; g.defer=true; g.src=" ++
  (Json.ofText scriptUrl).compact ++ "; s.parentNode.insertBefore(g,s);\n" ++
  "\x7d)();\n"

/-- The script that queues commands and loads the tracker. -/
def snippet (queue : List Command) (settings : Settings) : String :=
  "var _paq = window._paq || [];\n" ++ String.join (queue.map pushLine) ++
    loader settings.scriptUrl

end CookieConsent.Tracker
