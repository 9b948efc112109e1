import CookieConsent.Proofs.Json.RoundTrip
import CookieConsent.Tracker.Snippet

/-!
# The tracker's snippet says what it queues

The arguments of the calls in a snippet are JSON on one line. A string in them, whatever it holds,
has neither a line break nor a quote of its own, so it cannot end its literal, its call or its line.
The statements of a snippet are therefore those that its queue has commands for, and the ones that
load the script; and they are found either line by line or by reading from the front.

* `Json.isPrinted_write`: a value on one line holds no control characters.
* `lines_snippet`: the lines of a snippet.
* `readScript?_snippet`: what is found in a snippet from the front.
* `snippet_decodes`: both, and that snippets differ when their queues or scripts do.
-/

namespace CookieConsent

open Text (Reader)
open Text.Reader (bind_of_eq pure_run many_written)

namespace Json

/-! ## Values on one line -/

/-- Whether a text holds no control characters. -/
def IsPrinted (s : List Char) : Prop := ∀ c ∈ s, 0x20 ≤ c.toNat

instance : DecidablePred IsPrinted := List.decidableBAll fun c : Char => 0x20 ≤ c.toNat

theorem isPrinted_append {s t : List Char} : IsPrinted (s ++ t) ↔ IsPrinted s ∧ IsPrinted t :=
  List.forall_mem_append

theorem isPrinted_cons {c : Char} {s : List Char} :
    IsPrinted (c :: s) ↔ 0x20 ≤ c.toNat ∧ IsPrinted s :=
  List.forall_mem_cons

/-- Texts that are made of printed pieces are printed. -/
theorem isPrinted_flatMap {α : Type} {f : α → List Char} (h : ∀ a, IsPrinted (f a)) (l : List α) :
    IsPrinted (l.flatMap f) := by
  intro c mem
  obtain ⟨a, -, mem⟩ := List.mem_flatMap.1 mem
  exact h a c mem

theorem isPrinted_toDigits (n : Nat) : IsPrinted (Nat.toDigits 10 n) := by
  intro c mem
  have digit := isDigit_of_mem_toDigits mem
  simp only [Char.isDigit, Bool.and_eq_true, decide_eq_true_eq] at digit
  have low : 48 ≤ c.toNat := digit.1
  omega

theorem isPrinted_digitChar {n : Nat} (h : n < 16) : 0x20 ≤ n.digitChar.toNat := by
  have all : ∀ n < 16, 0x20 ≤ n.digitChar.toNat := by decide
  exact all n h

/-- Control characters are escaped, so that none of them is printed. -/
theorem isPrinted_quoteChar (c : Char) : IsPrinted (quoteChar c) := by
  unfold quoteChar
  iterate 7
    split
    case isTrue => decide
  split
  case isTrue control =>
    have high := isPrinted_digitChar (n := c.toNat / 16) (by omega)
    have low := isPrinted_digitChar (n := c.toNat % 16) (by omega)
    simp only [isPrinted_cons]
    exact ⟨by decide, by decide, by decide, by decide, high, low, by decide⟩
  case isFalse plain => exact isPrinted_cons.2 ⟨Nat.le_of_not_lt plain, by decide⟩

theorem isPrinted_quote (text : Option String) : IsPrinted (quote text) := by
  cases text with
  | none => decide
  | some text =>
    rw [quote, isPrinted_append, isPrinted_cons]
    exact ⟨⟨by decide, isPrinted_flatMap isPrinted_quoteChar _⟩, by decide⟩

theorem isPrinted_number (n : Number) : IsPrinted n.write := by
  rw [Number.write_eq, isPrinted_append, isPrinted_append, isPrinted_append]
  -- digits, a point, letters and signs: no character of a number breaks the line
  refine ⟨⟨⟨?sign, isPrinted_toDigits _⟩, ?fraction⟩, ?exponent⟩
  case sign => split <;> decide
  case fraction =>
    rw [Number.fractionText]
    split
    case isTrue => decide
    case isFalse =>
      refine isPrinted_cons.2 ⟨by decide, fun c mem => ?_⟩
      obtain ⟨d, -, rfl⟩ := List.mem_map.1 mem
      exact isPrinted_digitChar (Nat.lt_trans d.isLt (by decide))
  case exponent =>
    rw [Number.exponentText]
    split
    case h_1 => decide
    case h_2 => exact isPrinted_cons.2 ⟨by decide, isPrinted_toDigits _⟩
    case h_3 =>
      exact isPrinted_cons.2 ⟨by decide, isPrinted_cons.2 ⟨by decide, isPrinted_toDigits _⟩⟩

mutual

/-- A value on one line holds no control characters. -/
theorem isPrinted_write (level : Nat) : ∀ (value : Json), IsPrinted (value.write .compact level)
  | .null | .bool true | .bool false => by rw [write]; decide
  | .number n => isPrinted_number n
  | .string text => isPrinted_quote text
  | .array [] | .object [] => by rw [write]; decide
  | .array (item :: items) => by
    have first := isPrinted_write (level + 1) item
    have rest := isPrinted_writeItems (level + 1) items
    simp only [write, Layout.lineBreak, isPrinted_append, isPrinted_cons]
    exact ⟨⟨⟨⟨⟨by decide, by decide⟩, first⟩, rest⟩, by decide⟩, by decide⟩
  | .object ((key, value) :: members) => by
    have first := isPrinted_write (level + 1) value
    have rest := isPrinted_writeMembers (level + 1) members
    simp only [write, Layout.lineBreak, Layout.colon, isPrinted_append, isPrinted_cons]
    exact ⟨⟨⟨⟨⟨⟨by decide, isPrinted_quote key⟩, by decide⟩, first⟩, rest⟩, by decide⟩, by decide⟩

theorem isPrinted_writeItems (level : Nat) :
    ∀ (items : List Json), IsPrinted (writeItems .compact level items)
  | [] => by rw [writeItems]; decide
  | item :: items => by
    have first := isPrinted_write level item
    have rest := isPrinted_writeItems level items
    simp only [writeItems, Layout.lineBreak, isPrinted_append, isPrinted_cons]
    exact ⟨⟨by decide, first⟩, rest⟩

theorem isPrinted_writeMembers (level : Nat) :
    ∀ (members : List (Option String × Json)), IsPrinted (writeMembers .compact level members)
  | [] => by rw [writeMembers]; decide
  | (key, value) :: members => by
    have first := isPrinted_write level value
    have rest := isPrinted_writeMembers level members
    simp only [writeMembers, Layout.lineBreak, Layout.colon, isPrinted_append, isPrinted_cons]
    exact ⟨⟨⟨⟨by decide, isPrinted_quote key⟩, by decide⟩, first⟩, rest⟩

end

/-- A value that is written on one line breaks no line. -/
theorem isPrinted_compact (value : Json) : IsPrinted value.compact.toList := by
  rw [compact, String.toList_ofList]
  exact isPrinted_write 0 value

/-- Reads a value, as many brackets as there are being open in it. -/
def readNext : Reader Json
  | s => readValue (s.length + 1) s

/-- A value is read back from its line in front of a text that does not go on with it. -/
theorem readNext_compact (value : Json) {s : List Char} (hs : EndsNumber s) :
    readNext (value.compact.toList ++ s) = some (value, s) := by
  have spelled := Spaced.of_form (spellsValue_write .compact 0 value)
  rw [readNext, compact, String.toList_ofList]
  exact readValue_append spelled (by rw [List.length_append]; omega) hs

/-- A word is read at the front of any text. -/
theorem readWord_append (word s : List Char) : readWord word (word ++ s) = some ((), s) := by
  induction word with
  | nil => rfl
  | cons c word ih => rw [List.cons_append, readWord, bind_of_eq (Text.Reader.char_cons c _), ih]

end Json

namespace Tracker

/-! ## Lines -/

def lines (text : String) : List String := (text.toList.splitOn '\n').map String.ofList

/-- The line in which a call queues its argument. -/
def callLine (argument : String) : String := "_paq.push(" ++ argument ++ ");"

/-- The lines that load a script, its address being given by an expression. -/
def loaderLines (source : String) : List String :=
  ["(function() \x7b",
    "    var d=document, g=d.createElement('script'), s=d.getElementsByTagName('script')[0];",
    "    g.type='text/javascript'; g.async=true; g.defer=true; g.src=" ++ source ++
      "; s.parentNode.insertBefore(g,s);",
    "\x7d)();"]

/-- Lines that are ended each by a line break. -/
def unlines (texts : List String) : String := String.join (texts.map (· ++ "\n"))

/-- Lines without line breaks are the lines of their text. What stands behind the last line break is
empty. -/
theorem lines_unlines {texts : List String} (h : ∀ text ∈ texts, '\n' ∉ text.toList) :
    lines (unlines texts) = texts ++ [""] := by
  have joined : (unlines texts).toList = ['\n'].intercalate (texts.map String.toList ++ [[]]) := by
    rw [unlines, String.toList_join]
    induction texts with
    | nil => rfl
    | cons text texts ih =>
      rw [List.map_cons, List.flatMap_cons, ih fun text mem => h text (List.mem_cons_of_mem _ mem),
        List.map_cons, List.cons_append, List.intercalate_cons_of_ne_nil (by simp)]
      simp
  have whole : ∀ part ∈ texts.map String.toList ++ [[]], '\n' ∉ part := by
    rw [List.forall_mem_append, List.forall_mem_map]
    exact ⟨h, by simp⟩
  rw [lines, joined, List.splitOn_intercalate '\n' whole (by simp)]
  simp

/-- Lines are joined one by one, with an end for each of them. -/
theorem unlines_append (front back : List String) :
    unlines (front ++ back) = unlines front ++ unlines back := by
  rw [unlines, List.map_append, String.join_append, ← unlines, ← unlines]

theorem unlines_cons (text : String) (texts : List String) :
    unlines (text :: texts) = text ++ "\n" ++ unlines texts := by
  rw [unlines, List.map_cons, String.join_cons, ← unlines]

/-- The loader is lines around the literal of its URL. -/
theorem loader_eq (scriptUrl : String) :
    loader scriptUrl = unlines (loaderLines (Json.ofText scriptUrl).compact) := by
  unfold loader unlines loaderLines
  -- the parts in front of the address are joined first, then those behind it
  simp only [List.map_cons, List.map_nil, String.join_cons, String.join_nil,
    ← String.append_assoc, String.reduceAppend]
  simp only [String.append_assoc, String.reduceAppend]

/-- The snippet, line by line. -/
theorem snippet_eq (queue : List Command) (settings : Settings) :
    snippet queue settings =
      unlines ("var _paq = window._paq || [];" ::
        ((queue.map fun command => callLine command.toJson.compact) ++
          loaderLines (Json.ofText settings.scriptUrl).compact)) := by
  have pushed : String.join (queue.map pushLine) =
      unlines (queue.map fun command => callLine command.toJson.compact) := by
    rw [unlines, List.map_map]
    congr 2
    funext command
    simp only [pushLine, callLine, Function.comp_apply, String.append_assoc, String.reduceAppend]
  unfold snippet
  rewrite [unlines_cons, unlines_append, ← loader_eq, ← pushed]
  simp only [String.reduceAppend, String.append_assoc]

/-- A line that is put together from parts without line breaks has none. -/
theorem not_mem_around {front middle back : String} (hfront : '\n' ∉ front.toList)
    (hmiddle : '\n' ∉ middle.toList) (hback : '\n' ∉ back.toList) :
    '\n' ∉ (front ++ middle ++ back).toList := by
  rw [String.toList_append, String.toList_append, List.mem_append, List.mem_append, not_or, not_or]
  exact ⟨⟨hfront, hmiddle⟩, hback⟩

/-- **The lines of a snippet**: the first one, a call for each command, and those that load the
script. -/
theorem lines_snippet (queue : List Command) (settings : Settings) :
    lines (snippet queue settings) =
      "var _paq = window._paq || [];" ::
        ((queue.map fun command => callLine command.toJson.compact) ++
          loaderLines (Json.ofText settings.scriptUrl).compact ++ [""]) := by
  have value (value : Json) : '\n' ∉ value.compact.toList := fun mem =>
    absurd (Json.isPrinted_compact value '\n' mem) (by decide)
  have calls : ∀ text ∈ queue.map fun command => callLine command.toJson.compact,
      '\n' ∉ text.toList := by
    rw [List.forall_mem_map]
    exact fun command _ => not_mem_around (by decide) (value _) (by decide)
  have loads : ∀ text ∈ loaderLines (Json.ofText settings.scriptUrl).compact,
      '\n' ∉ text.toList := by
    simp only [loaderLines, List.forall_mem_cons]
    exact ⟨by decide, by decide, not_mem_around (by decide) (value _) (by decide), by decide,
      by simp⟩
  rw [snippet_eq, lines_unlines (List.forall_mem_cons.2 ⟨by decide,
    List.forall_mem_append.2 ⟨calls, loads⟩⟩)]
  rfl

/-! ## Reading from the front -/

/-- Reads a call with its argument, and the line break behind it. -/
def readCall : Reader Json := do
  Json.readWord "_paq.push(".toList
  let argument ← Json.readNext
  Json.readWord ");\n".toList
  return argument

/-- Reads calls as long as a text starts with one. -/
def readQueue : Reader (List Json) := Reader.many (·.head? = some '_') readCall

/-- What stands in front of the address of the script. -/
def loaderFront : String :=
  "(function() \x7b\n" ++
  "    var d=document, g=d.createElement('script'), s=d.getElementsByTagName('script')[0];\n" ++
  "    g.type='text/javascript'; g.async=true; g.defer=true; g.src="

def loaderBack : String := "; s.parentNode.insertBefore(g,s);\n" ++ "\x7d)();\n"

/-- Reads a snippet: the arguments of its calls, and the address of the script that it loads. -/
def readScript : Reader (List Json × Json) := do
  Json.readWord "var _paq = window._paq || [];\n".toList
  let arguments ← readQueue
  Json.readWord loaderFront.toList
  let source ← Json.readNext
  Json.readWord loaderBack.toList
  return (arguments, source)

/-- What a whole text does if it is a snippet: the arguments of its calls, and the address of the
script that it loads. -/
def readScript? (text : String) : Option (List Json × Json) := Reader.whole readScript text.toList

/-- A call is read back: its argument ends where the value ends. -/
theorem readCall_pushLine (command : Command) (s : List Char) :
    readCall ((pushLine command).toList ++ s) = some (command.toJson, s) := by
  have ends : Json.EndsNumber (");\n".toList ++ s) := Json.endsNumber_cons _ (by decide)
  rw [pushLine, String.toList_append, String.toList_append, List.append_assoc, List.append_assoc,
    readCall, bind_of_eq (Json.readWord_append _ _),
    bind_of_eq (Json.readNext_compact command.toJson ends),
    bind_of_eq (Json.readWord_append _ _), pure_run]

/-- A line that pushes a command begins with the name of the queue. -/
theorem head?_pushLine (command : Command) (s : List Char) :
    ((pushLine command).toList ++ s).head? = some '_' := by
  rw [pushLine, String.toList_append, String.toList_append]
  rfl

/-- The calls for a queue are read back in front of a text that starts with no call. -/
theorem readQueue_pushLines (queue : List Command) {s : List Char} (hs : s.head? ≠ some '_') :
    readQueue ((String.join (queue.map pushLine)).toList ++ s) =
      some (queue.map Command.toJson, s) := by
  have filled : ∀ command ∈ queue, (pushLine command).toList ≠ [] := by
    intro command _ empty
    have first := head?_pushLine command []
    rw [empty] at first
    cases first
  rw [String.toList_join, List.flatMap_map]
  refine many_written (fun command _ rest => ⟨?_, readCall_pushLine command rest⟩) filled ?_
  · rw [head?_pushLine]
    rfl
  · simpa using hs

/-- The loader has the literal of its URL between two fixed texts. -/
theorem toList_loader (scriptUrl : String) :
    (loader scriptUrl).toList =
      loaderFront.toList ++ ((Json.ofText scriptUrl).compact.toList ++ loaderBack.toList) := by
  have parts : loader scriptUrl = loaderFront ++ (Json.ofText scriptUrl).compact ++ loaderBack :=
    String.append_assoc
  rw [parts, String.toList_append, String.toList_append, List.append_assoc]

/-- **What a snippet does is read from its front**, whatever the strings in it are. -/
theorem readScript?_snippet (queue : List Command) (settings : Settings) :
    readScript? (snippet queue settings) =
      some (queue.map Command.toJson, .ofText settings.scriptUrl) := by
  have noCall (s : List Char) : (loaderFront.toList ++ s).head? ≠ some '_' := by
    have front : loaderFront.toList.head? = some '(' := by decide +kernel
    rw [List.head?_append, front, Option.some_or]
    decide
  -- the semicolon behind the address is no part of a number, which alone could go on
  have ends : Json.EndsNumber loaderBack.toList := by
    have back : loaderBack.toList.head? = some ';' := by decide +kernel
    rw [Json.EndsNumber, back]
    rintro c ⟨⟩
    decide
  have behind := Json.readWord_append loaderBack.toList []
  rw [List.append_nil] at behind
  unfold readScript? snippet Reader.whole readScript
  rewrite [String.toList_append, String.toList_append, toList_loader, List.append_assoc,
    bind_of_eq (Json.readWord_append _ _), bind_of_eq (readQueue_pushLines queue (noCall _)),
    bind_of_eq (Json.readWord_append _ _), bind_of_eq (Json.readNext_compact _ ends),
    bind_of_eq behind, pure_run]
  rfl

/-- Different commands have different stored forms. -/
theorem Command.eq_of_toJson_eq (a b : Command) (h : a.toJson = b.toJson) : a = b := by
  cases a <;> cases b <;> simp_all [Command.toJson, Json.ofText]

/-- **A snippet says what it queues**, whatever strings its commands and settings hold. Its lines
are the first one, one call for each command, and those that load the script; the argument of each
call is JSON for its command, and the address of the script is JSON for the address that the
settings give. Reading from the front, where a call ends as its argument does, finds the same.
Snippets are equal only if their queues and the addresses of their scripts are. -/
theorem snippet_decodes (queue : List Command) (settings : Settings) :
    (∃ (arguments : List String) (source : String),
      lines (snippet queue settings) =
        "var _paq = window._paq || [];" :: (arguments.map callLine ++ loaderLines source ++ [""]) ∧
      arguments.map Json.parse? = queue.map (fun command => some command.toJson) ∧
      Json.parse? source = some (.ofText settings.scriptUrl)) ∧
    readScript? (snippet queue settings) =
      some (queue.map Command.toJson, .ofText settings.scriptUrl) ∧
    ∀ queue' settings', snippet queue settings = snippet queue' settings' ↔
      queue = queue' ∧ settings.scriptUrl = settings'.scriptUrl := by
  have texts : lines (snippet queue settings) = "var _paq = window._paq || [];" ::
      ((queue.map fun command => command.toJson.compact).map callLine ++
        loaderLines (Json.ofText settings.scriptUrl).compact ++ [""]) := by
    rw [lines_snippet, List.map_map]
    rfl
  have parsed : (queue.map fun command => command.toJson.compact).map Json.parse? =
      queue.map fun command => some command.toJson := by
    rw [List.map_map]
    exact List.map_congr_left fun command _ => Json.parse?_compact command.toJson
  refine ⟨⟨_, _, texts, parsed, Json.parse?_compact _⟩, readScript?_snippet queue settings,
    fun queue' settings' => ⟨?_, ?_⟩⟩
  · -- what is read from the front is the same for equal snippets
    intro same
    have found := readScript?_snippet queue settings
    rw [same, readScript?_snippet queue' settings'] at found
    obtain ⟨calls, source⟩ := Prod.mk.inj (Option.some.inj found)
    exact ⟨((List.map_inj_right Command.eq_of_toJson_eq).1 calls).symm,
      (Option.some.inj (Json.string.inj source)).symm⟩
  · rintro ⟨rfl, url⟩
    unfold snippet
    rewrite [url]
    rfl

end Tracker

end CookieConsent
