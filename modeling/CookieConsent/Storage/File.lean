import CookieConsent.Jar.Snapshot
import CookieConsent.Storage.Basic
import CookieConsent.Storage.Folders

/-!
# Storage in a file

Keeps the cookies of a jar, without its time, as JSON in the file `cookies.json` of a folder, which
is made when the storage is opened. As long as there is no file, the jar is empty.
-/

namespace CookieConsent

open Time (Instant)

/-- A file that keeps a jar. -/
structure FileStorage where
  /-- The folder in which the file stands. -/
  folder : String
  place : FilePlace

namespace FileStorage

def pathIn (folder : String) : String :=
  if folder.toList.getLast?.all (· = '/') then folder ++ "cookies.json"
  else folder ++ "/cookies.json"

/-- The storage in a folder of a disk, made there as far as it can be. -/
def openIn (folders : Folders) (folder : String) : FileStorage :=
  ⟨folder, (folders.make folder).findPath (pathIn folder)⟩

def path (storage : FileStorage) : String := pathIn storage.folder

/-- The text of the file, if there is one and it is a text. -/
def text? (storage : FileStorage) : Option String :=
  match storage.place with
  | .file contents => String.fromUTF8? contents
  | _ => none

def load (storage : FileStorage) (now : Instant) : Except String Jar :=
  match storage.place with
  | .vacant | .folderMissing => .ok (Jar.empty now)
  | .unreachable | .folder => .error ("reading " ++ storage.path)
  | .file contents =>
    match String.fromUTF8? contents with
    | none => .error ("reading " ++ storage.path)
    | some text =>
      match Jar.ofText? now text with
      | none => .error ("parsing " ++ storage.path)
      | some jar => .ok jar

/-- Writes contents to the file, if there can be one. -/
def write? (storage : FileStorage) (contents : ByteArray) : Option FileStorage :=
  match storage.place with
  | .vacant | .file _ => some { storage with place := .file contents }
  | .unreachable | .folderMissing | .folder => none

def save (storage : FileStorage) (jar : Jar) : Except String Unit × FileStorage :=
  match storage.write? jar.toJson.indented.toUTF8 with
  | some written => (.ok (), written)
  | none => (.error ("writing " ++ storage.path), storage)

end FileStorage

instance : Storage FileStorage := ⟨FileStorage.load, FileStorage.save⟩

end CookieConsent
