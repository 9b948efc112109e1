import CookieConsent.Storage.File
import CookieConsent.Storage.Flaky
import CookieConsent.Storage.Memory

/-!
# Storage in which saving fails

A storage saves cleanly if a save that fails leaves what is held as it was. All kinds of storage do,
those that fail by a schedule among them. So after several saves, whichever of them have failed, the
last jar that was saved is held.

* `Storage.SavesCleanly.held_saveAll`: what is held after several saves.
* `MemoryStorage.savesCleanly`, `FileStorage.savesCleanly`, `FlakyStorage.savesCleanly`: the kinds of
  storage.
* `FlakyStorage.map_snd_saveAll`: failures by a schedule.
-/

namespace CookieConsent

namespace Storage

variable {σ α : Type} [Storage σ]

/-- Whether a save that goes through puts the jar, in some form, in the place of what is held, and
one that fails leaves what is held as it was. -/
structure SavesCleanly (held : σ → α) (form : Jar → α) : Prop where
  saved : ∀ storage jar, (save storage jar).1 = .ok () → held (save storage jar).2 = form jar
  failed : ∀ storage jar reason, (save storage jar).1 = .error reason →
    held (save storage jar).2 = held storage

/-- Saves jars, one behind another: each with what came of it, and the storage afterwards. -/
def saveAll (storage : σ) : List Jar → List (Jar × Except String Unit) × σ
  | [] => ([], storage)
  | jar :: jars =>
    let (outcome, next) := save storage jar
    let (saves, last) := saveAll next jars
    ((jar, outcome) :: saves, last)

/-- Jars are saved one by one, each in the storage that those before it left. -/
theorem saveAll_cons (storage : σ) (jar : Jar) (jars : List Jar) :
    saveAll storage (jar :: jars) =
      ((jar, (save storage jar).1) :: (saveAll (save storage jar).2 jars).1,
        (saveAll (save storage jar).2 jars).2) := rfl

/-- The jar of the last save that went through, if one did. -/
def lastSaved (saves : List (Jar × Except String Unit)) : Option Jar :=
  (saves.filter fun save => save.2.isOk).getLast?.map Prod.fst

/-- Every jar is tried once, in order. -/
theorem map_fst_saveAll (storage : σ) (jars : List Jar) :
    (saveAll storage jars).1.map Prod.fst = jars := by
  induction jars generalizing storage with
  | nil => rfl
  | cons jar jars ih => rw [saveAll_cons, List.map_cons, ih]

/-- Where every save goes through, all of several do. -/
theorem snd_of_mem_saveAll
    (reliable : ∀ (storage : σ) (jar : Jar), (save storage jar).1 = .ok ()) (storage : σ)
    (jars : List Jar) {saved : Jar × Except String Unit} (mem : saved ∈ (saveAll storage jars).1) :
    saved.2 = .ok () := by
  induction jars generalizing storage with
  | nil => exact absurd mem List.not_mem_nil
  | cons jar jars ih =>
    rw [saveAll_cons] at mem
    rcases List.mem_cons.1 mem with rfl | mem
    · exact reliable storage jar
    · exact ih _ mem

/-- Saving goes on where it ended. -/
theorem saveAll_append (storage : σ) (jars more : List Jar) :
    saveAll storage (jars ++ more) =
      ((saveAll storage jars).1 ++ (saveAll (saveAll storage jars).2 more).1,
        (saveAll (saveAll storage jars).2 more).2) := by
  induction jars generalizing storage with
  | nil => rfl
  | cons jar jars ih => rw [List.cons_append, saveAll_cons, ih, saveAll_cons, List.cons_append]

/-- A later success replaces the ones before it. -/
theorem lastSaved_cons (jar : Jar) (outcome : Except String Unit)
    (saves : List (Jar × Except String Unit)) :
    lastSaved ((jar, outcome) :: saves) =
      (lastSaved saves).or (if outcome.isOk then some jar else none) := by
  rw [lastSaved, lastSaved, List.filter_cons]
  split
  · rw [List.getLast?_cons]
    cases (saves.filter fun save => save.2.isOk).getLast? <;> rfl
  · rw [Option.or_none]

/-- After several saves, of which any may fail, the jar of the last one that went through is held, or
what was held before if none did. -/
theorem SavesCleanly.held_saveAll {held : σ → α} {form : Jar → α} (clean : SavesCleanly held form)
    (storage : σ) (jars : List Jar) :
    held (saveAll storage jars).2 =
      ((lastSaved (saveAll storage jars).1).map form).getD (held storage) := by
  induction jars generalizing storage with
  | nil => rfl
  | cons jar jars ih =>
    rw [saveAll_cons, lastSaved_cons, ih]
    cases outcome : (save storage jar).1 with
    | ok _ =>
      rw [clean.saved storage jar outcome]
      cases lastSaved (saveAll (save storage jar).2 jars).1 <;> rfl
    | error reason =>
      rw [clean.failed storage jar reason outcome]
      cases lastSaved (saveAll (save storage jar).2 jars).1 <;> rfl

end Storage

theorem MemoryStorage.savesCleanly : Storage.SavesCleanly MemoryStorage.saved some :=
  ⟨fun _ _ _ => rfl, fun _ _ _ (failed : Except.ok () = .error _) => nomatch failed⟩

/-- A file that cannot be written keeps what stands there; one that can be holds the jar. -/
theorem FileStorage.savesCleanly :
    Storage.SavesCleanly FileStorage.place fun jar => .file jar.toJson.indented.toUTF8 := by
  constructor
  · intro storage jar saved
    change (FileStorage.save storage jar).1 = _ at saved
    change (FileStorage.save storage jar).2.place = _
    unfold FileStorage.save at *
    cases place : storage.place <;> simp_all [FileStorage.write?]
  · intro storage jar reason failed
    change (FileStorage.save storage jar).1 = _ at failed
    change (FileStorage.save storage jar).2.place = _
    unfold FileStorage.save at *
    cases place : storage.place <;> simp_all [FileStorage.write?]

/-- Failures by a schedule leave what is held as it was. -/
theorem FlakyStorage.savesCleanly {σ α : Type} [Storage σ] {held : σ → α} {form : Jar → α}
    (clean : Storage.SavesCleanly held form) :
    Storage.SavesCleanly (fun storage : FlakyStorage σ => held storage.base) form := by
  constructor
  · intro storage jar saved
    simp only [Storage.save] at saved ⊢
    split at saved
    · cases saved
    · exact clean.saved storage.base jar saved
  · intro storage jar reason failed
    simp only [Storage.save] at failed ⊢
    split at failed
    · rfl
    · exact clean.failed storage.base jar reason failed

/-- What comes of a save by a schedule. -/
def FlakyStorage.outcome : Option String → Except String Unit
  | some reason => .error reason
  | none => .ok ()

/-- Around a storage in which nothing fails, saves fail and go through exactly as scheduled; so there
is no pattern of failures that does not come about. -/
theorem FlakyStorage.map_snd_saveAll {σ : Type} [Storage σ]
    (reliable : ∀ (base : σ) (jar : Jar), (Storage.save base jar).1 = .ok ())
    (storage : FlakyStorage σ) (jars : List Jar) :
    (Storage.saveAll storage jars).1.map Prod.snd =
      jars.mapIdx fun i _ => outcome storage.saveFaults[i]?.join := by
  -- induction on the saves: each uses up one entry of the schedule, whether it fails or not
  induction jars generalizing storage with
  | nil => rfl
  | cons jar jars ih =>
    have first : (Storage.save storage jar).1 = outcome storage.saveFaults[0]?.join ∧
        (Storage.save storage jar).2.saveFaults = storage.saveFaults.tail := by
      simp only [Storage.save, ← List.head?_eq_getElem?]
      cases storage.saveFaults.head?.join with
      | some reason => exact ⟨rfl, rfl⟩
      | none => exact ⟨reliable storage.base jar, rfl⟩
    rw [Storage.saveAll_cons, List.map_cons, ih, List.mapIdx_cons, first.1, first.2]
    simp only [List.getElem?_tail]

end CookieConsent
