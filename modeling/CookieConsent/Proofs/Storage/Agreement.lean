import CookieConsent.Proofs.Jar.Reachable
import CookieConsent.Proofs.Storage.Keeping

/-!
# Storages agree

A browser uses a jar, saves it from time to time, and puts what is loaded in its place. What becomes
of the jar can be told from a ledger of the cookies that were saved last, whatever the storage, as
long as the storage is reliable. So a browser that keeps its jar in a file as text and one that keeps
it in memory as it is never differ, no matter how often and when they save and load.

* `Follows.after`, `Follows.run`: a browser over a reliable storage goes by the ledger.
* `Ledger.saved_run`: the ledger holds what was saved last.
* `storages_agree`: a file and memory.
-/

namespace CookieConsent

open Time (Instant)

/-- A jar in use, and the storage that keeps it. -/
structure Browser (σ : Type) where
  storage : σ
  jar : Jar

namespace Browser

/-- One thing that a browser does. -/
inductive Move where
  /-- A step of the jar in use. -/
  | change (step : Jar.Step)
  | save
  /-- What is loaded takes the place of the jar in use, at a time that is given. -/
  | load (now : Instant)
deriving DecidableEq, Repr

section Moves

variable {σ : Type} [Storage σ]

/-- The browser after a move, or the reason for which its storage failed. -/
def after (browser : Browser σ) : Move → Except String (Browser σ)
  | .change step => .ok { browser with jar := browser.jar.after step }
  | .save =>
    match Storage.save browser.storage browser.jar with
    | (.ok (), storage) => .ok { browser with storage }
    | (.error reason, _) => .error reason
  | .load now =>
    (Storage.load browser.storage now).map fun jar => { browser with jar := jar.setClock now }

/-- The browser after some moves, one behind another, none of which failed. -/
def run (browser : Browser σ) (moves : List Move) : Except String (Browser σ) :=
  moves.foldlM after browser

end Moves

/-! ## The ledger -/

/-- The cookies that were saved last, and the jar in use. -/
structure Ledger where
  saved : List Cookie
  jar : Jar

namespace Ledger

def after (ledger : Ledger) : Move → Ledger
  | .change step => { ledger with jar := ledger.jar.after step }
  | .save => { ledger with saved := ledger.jar.cookies }
  | .load now => { ledger with jar := ⟨ledger.saved, now⟩ }

def run (ledger : Ledger) (moves : List Move) : Ledger := moves.foldl after ledger

theorem run_append (ledger : Ledger) (moves more : List Move) :
    ledger.run (moves ++ more) = (ledger.run moves).run more := List.foldl_append

/-- The ledger holds what it held as long as nothing is saved. -/
theorem saved_run {moves : List Move} (h : Move.save ∉ moves) (ledger : Ledger) :
    (ledger.run moves).saved = ledger.saved := by
  induction moves generalizing ledger with
  | nil => rfl
  | cons move moves ih =>
    rw [List.mem_cons, not_or] at h
    have next : (ledger.after move).saved = ledger.saved := by
      cases move with
      | save => exact absurd rfl h.1
      | change | load => rfl
    exact (ih h.2 _).trans next

/-- A load behind a save brings back the cookies that were saved, unless they were saved again. -/
theorem cookies_run_load (ledger : Ledger) (moves : List Move) {later : List Move}
    (h : Move.save ∉ later) (now : Instant) :
    (ledger.run (moves ++ .save :: later ++ [.load now])).jar =
      ⟨(ledger.run moves).jar.cookies, now⟩ := by
  have saved := saved_run h ((ledger.run moves).after .save)
  rw [run_append, run_append]
  exact congrArg (Jar.mk · now) saved

end Ledger

/-! ## Browsers over reliable storages -/

section Reliable

variable {σ : Type} [Storage σ] {good : σ → Prop}

/-- Whether a browser is as a ledger says: its storage keeps what was saved last. Clocks show the
expiries of all cookies in the ledger. -/
structure Follows (good : σ → Prop) (browser : Browser σ) (ledger : Ledger) : Prop where
  good_storage : good browser.storage
  keeps : Storage.Keeps browser.storage ledger.saved
  jar_eq : browser.jar = ledger.jar
  jar_shown : ledger.jar.IsShown
  saved_shown : ∀ c ∈ ledger.saved, c.IsShown

variable {browser : Browser σ} {ledger : Ledger}

/-- Over a reliable storage every move goes through, and is as the ledger says. -/
theorem Follows.after (reliable : Storage.IsReliable good) (h : Follows good browser ledger)
    (move : Move) :
    ∃ next, browser.after move = .ok next ∧ Follows good next (ledger.after move) := by
  cases move with
  | change step =>
    exact ⟨_, rfl, h.good_storage, h.keeps, congrArg (Jar.after · step) h.jar_eq,
      h.jar_shown.after step, h.saved_shown⟩
  | save =>
    obtain ⟨goes, still, keeps⟩ :=
      reliable browser.storage h.good_storage browser.jar (h.jar_eq ▸ h.jar_shown)
    refine ⟨{ browser with storage := (Storage.save browser.storage browser.jar).2 }, ?_,
      still, h.jar_eq ▸ keeps, h.jar_eq, h.jar_shown, h.jar_shown⟩
    -- the save went through, so the other outcome is ruled out
    rw [Browser.after]
    generalize Storage.save browser.storage browser.jar = outcome at goes
    obtain ⟨result, storage⟩ := outcome
    obtain rfl : result = .ok () := goes
    rfl
  | load now =>
    obtain ⟨jar, loaded, cookies⟩ := h.keeps now
    refine ⟨{ browser with jar := jar.setClock now }, ?_, h.good_storage, h.keeps, ?_,
      h.saved_shown, h.saved_shown⟩
    · rw [Browser.after, loaded]
      rfl
    · exact congrArg (Jar.mk · now) cookies

/-- Over a reliable storage no run of moves fails, and every run is as the ledger says. -/
theorem Follows.run (reliable : Storage.IsReliable good) (h : Follows good browser ledger)
    (moves : List Move) :
    ∃ last, browser.run moves = .ok last ∧ Follows good last (ledger.run moves) := by
  induction moves generalizing browser ledger with
  | nil => exact ⟨browser, rfl, h⟩
  | cons move moves ih =>
    obtain ⟨next, moved, follows⟩ := h.after reliable move
    obtain ⟨last, ran, goal⟩ := ih follows
    refine ⟨last, ?_, goal⟩
    rw [Browser.run, List.foldlM_cons, moved]
    exact ran

end Reliable

/-! ## A file and memory -/

/-- A browser with an empty jar whose file is not there yet, in a folder that is. -/
def overFile (folder : String) (now : Instant) : Browser FileStorage :=
  ⟨⟨folder, .vacant⟩, Jar.empty now⟩

/-- A browser with an empty jar that has saved nothing to memory. -/
def overMemory (now : Instant) : Browser MemoryStorage := ⟨⟨none⟩, Jar.empty now⟩

/-- What both browsers start from. -/
def blankLedger (now : Instant) : Ledger := ⟨[], Jar.empty now⟩

/-- A vacant file follows the blank ledger. -/
theorem follows_overFile (folder : String) (now : Instant) :
    Follows FileStorage.IsWritable (overFile folder now) (blankLedger now) :=
  ⟨.inl rfl, FileStorage.keeps_vacant folder, rfl, Jar.isShown_empty now, Jar.isShown_empty now⟩

/-- So does memory in which nothing is stored. -/
theorem follows_overMemory (now : Instant) :
    Follows (fun _ => True) (overMemory now) (blankLedger now) :=
  ⟨trivial, MemoryStorage.keeps_none, rfl, Jar.isShown_empty now, Jar.isShown_empty now⟩

/-- **A file and memory agree.** A browser that keeps its jar in a file, which is not there yet but
can be written, and one that keeps it in memory begin with empty jars at the same time. Whatever they
do from then on, neither of their storages fails, and the jars in use are the same after every run of
moves: the same cookies in the same order, at the same time, so that a page sees and reads the same.
After a load, the cookies are those of the jar at the last save, or none if there was no save. -/
theorem storages_agree (folder : String) (now : Instant) :
    (∀ moves, ∃ file memory, (overFile folder now).run moves = .ok file ∧
      (overMemory now).run moves = .ok memory ∧ file.jar = memory.jar ∧
      file.jar.header = memory.jar.header ∧ file.jar.size = memory.jar.size ∧
      ∀ name, file.jar.get? name = memory.jar.get? name ∧
        file.jar.read? name = memory.jar.read? name) ∧
    (∀ moves later time, Move.save ∉ later → ∃ saved loaded,
      (overFile folder now).run moves = .ok saved ∧
      (overFile folder now).run (moves ++ .save :: later ++ [.load time]) = .ok loaded ∧
      loaded.jar = ⟨saved.jar.cookies, time⟩) ∧
    ∀ moves time, Move.save ∉ moves → ∃ loaded,
      (overFile folder now).run (moves ++ [.load time]) = .ok loaded ∧
      loaded.jar = Jar.empty time := by
  -- either storage is followed by the same ledger, which says what is in use and what was saved
  have file (moves : List Move) := (follows_overFile folder now).run FileStorage.isReliable moves
  have memory (moves : List Move) := (follows_overMemory now).run MemoryStorage.isReliable moves
  refine ⟨fun moves => ?_, fun moves later time unsaved => ?_, fun moves time unsaved => ?_⟩
  · obtain ⟨inFile, ranFile, followsFile⟩ := file moves
    obtain ⟨inMemory, ranMemory, followsMemory⟩ := memory moves
    have same : inFile.jar = inMemory.jar := followsFile.jar_eq.trans followsMemory.jar_eq.symm
    exact ⟨inFile, inMemory, ranFile, ranMemory, same, congrArg Jar.header same,
      congrArg Jar.size same, fun name => ⟨congrArg (Jar.get? · name) same,
        congrArg (Jar.read? · name) same⟩⟩
  · obtain ⟨saved, ranSaved, followsSaved⟩ := file moves
    obtain ⟨loaded, ranLoaded, followsLoaded⟩ := file (moves ++ .save :: later ++ [.load time])
    refine ⟨saved, loaded, ranSaved, ranLoaded, ?_⟩
    rw [followsLoaded.jar_eq, Ledger.cookies_run_load _ moves unsaved, followsSaved.jar_eq]
  · obtain ⟨loaded, ran, follows⟩ := file (moves ++ [.load time])
    refine ⟨loaded, ran, ?_⟩
    rw [follows.jar_eq, Ledger.run_append]
    exact congrArg (Jar.mk · time) (Ledger.saved_run unsaved _)

/-- What was written behind the last save is gone after a load, and what was saved is back. -/
theorem storages_agree_overwritten :
    Move.save ∉ [Move.change (.assign "a=2"), .change (.assign "b=3")] ∧
      ∃ loaded, (overFile "p" Time.latestExpiry).run [.change (.assign "a=1"), .save,
        .change (.assign "a=2"), .change (.assign "b=3"), .load Instant.last] = .ok loaded ∧
        loaded.jar = ⟨[⟨"a", "1", "/", none⟩], Instant.last⟩ := by
  have unsaved : Move.save ∉ [Move.change (.assign "a=2"), .change (.assign "b=3")] := by decide
  obtain ⟨saved, loaded, ranSaved, ranLoaded, jar⟩ :=
    (storages_agree "p" Time.latestExpiry).2.1 [.change (.assign "a=1")] _ Instant.last unsaved
  have cookies : saved.jar.cookies = [⟨"a", "1", "/", none⟩] := by
    obtain rfl := Except.ok.inj ranSaved
    decide
  exact ⟨unsaved, loaded, ranLoaded, cookies ▸ jar⟩

end Browser

end CookieConsent
