import CookieConsent.Proofs.Jar.Snapshots
import CookieConsent.Storage.File
import CookieConsent.Storage.Memory

/-!
# Storage that keeps what is saved

A storage keeps some cookies if they are found in it at any time. It is reliable if every save goes
through and the cookies that were saved are kept, so that this can be said again of the storage
afterwards. Memory is reliable, and so is a file that can be written. Only jars with expiries that
clocks show are looked at, as a file holds no others.

* `MemoryStorage.isReliable`, `FileStorage.isReliable`: the two kinds of storage.
-/

namespace CookieConsent

open Time (Instant)

namespace Storage

variable {σ : Type} [Storage σ]

/-- Whether a storage keeps the cookies: whenever it is loaded, they are found. -/
def Keeps (storage : σ) (cookies : List Cookie) : Prop :=
  ∀ now, ∃ jar, load storage now = .ok jar ∧ jar.cookies = cookies

/-- Whether saving goes through in all storages of a kind, and leads to one of the same kind that
keeps the cookies. -/
def IsReliable (good : σ → Prop) : Prop :=
  ∀ storage, good storage → ∀ jar : Jar, jar.IsShown → (save storage jar).1 = .ok () ∧
    good (save storage jar).2 ∧ Keeps (save storage jar).2 jar.cookies

end Storage

/-- Memory is reliable. -/
theorem MemoryStorage.isReliable : Storage.IsReliable fun _ : MemoryStorage => True :=
  fun _ _ jar _ => ⟨rfl, trivial, fun _ => ⟨jar, rfl, rfl⟩⟩

/-- Memory in which nothing was saved keeps no cookies. -/
theorem MemoryStorage.keeps_none : Storage.Keeps (⟨none⟩ : MemoryStorage) [] :=
  fun now => ⟨Jar.empty now, rfl, rfl⟩

namespace FileStorage

def IsWritable (storage : FileStorage) : Prop :=
  storage.place = .vacant ∨ ∃ contents, storage.place = .file contents

/-- A file that was written is a text again when it is read. -/
theorem fromUTF8?_toUTF8 (text : String) : String.fromUTF8? text.toUTF8 = some text := by
  have valid := text.isValidUTF8
  rw [String.toUTF8_eq_toByteArray, String.fromUTF8?, dif_pos valid]
  rfl

/-- A jar that is in the file is found there, at any time, with the expiries that clocks show. -/
theorem load_file (folder : String) (jar : Jar) (now : Instant) :
    load ⟨folder, .file jar.toJson.indented.toUTF8⟩ now =
      .ok ⟨jar.cookies.map Cookie.shown, now⟩ := by
  simp only [load, fromUTF8?_toUTF8, Jar.ofText?_indented]

/-- Saving replaces the whole file by the text of the jar. -/
theorem save_of_isWritable {storage : FileStorage} (h : storage.IsWritable) (jar : Jar) :
    save storage jar = (.ok (), ⟨storage.folder, .file jar.toJson.indented.toUTF8⟩) := by
  rw [save, write?]
  rcases h with vacant | ⟨contents, file⟩
  · rw [vacant]
  · rw [file]

/-- A file that can be written is reliable. -/
theorem isReliable : Storage.IsReliable IsWritable := by
  intro storage writable jar shown
  have saved : Storage.save storage jar = _ := save_of_isWritable writable jar
  rw [saved]
  exact ⟨rfl, .inr ⟨_, rfl⟩, fun now => ⟨_, load_file _ _ now, Jar.map_shown_eq_self shown⟩⟩

/-- Where there is no file yet, no cookies are kept. -/
theorem keeps_vacant (folder : String) : Storage.Keeps (⟨folder, .vacant⟩ : FileStorage) [] :=
  fun now => ⟨Jar.empty now, rfl, rfl⟩

end FileStorage

end CookieConsent
