/-!
# Folders

The folders of a disk, what stands at the end of a path among them, and how a path of folders is
made. A path leads from the root through the names between its slashes, where `.` stays in a folder
and `..` leaves it; the root is left for itself. The disk holds folders only.

* `isFolder_insert`: inserting a folder adds that folder and no other.
* `isFolder_makeFrom`: making folders takes none away.
* `find_makeFrom`: folders of short names are made whenever the last of the names is not `.`.
-/

namespace CookieConsent

/-- What stands where a file should be. -/
inductive FilePlace where
  /-- Nothing can stand there, because the path is none or a name on it is too long. -/
  | unreachable
  /-- Nothing can stand there as long as its folder is missing. -/
  | folderMissing
  | vacant
  | folder
  | file (contents : ByteArray)

/-- The folders of a disk beside the root. Each is given by the names that lead to it, the last one
first. -/
structure Folders where
  places : List (List String)

namespace Folders

def empty : Folders := ⟨[]⟩

def isFolder (folders : Folders) (place : List String) : Bool :=
  place.isEmpty || folders.places.contains place

/-- The folders with one more, at a place beside the root. -/
def insert (folders : Folders) (place : List String) : Folders := ⟨place :: folders.places⟩

/-- Inserting a folder adds that folder and no other. -/
theorem isFolder_insert (folders : Folders) (place other : List String) :
    (folders.insert place).isFolder other = (decide (other = place) || folders.isFolder other) := by
  rw [Bool.eq_iff_iff]
  simp [insert, isFolder, or_left_comm]

/-! ## Paths -/

/-- The names on a path. Slashes that follow one another are one. -/
def namesOn (path : String) : List String :=
  ((path.toList.splitOnP (· = '/')).filter fun name => !name.isEmpty).map String.ofList

/-- Whether a path is a path at all: it holds no null character, and it has less than 4096 octets
as UTF-8. -/
def isPath (path : String) : Bool := !path.toList.contains '\x00' && path.utf8ByteSize < 4096

/-- Whether a name is short enough to be given to a folder or a file: it has at most 255 octets as
UTF-8. -/
def isName (name : String) : Bool := name.utf8ByteSize ≤ 255

/-- The place to which a name leads from a folder. -/
def next (place : List String) (name : String) : List String :=
  if name = "." then place else if name = ".." then place.tail else name :: place

/-- What stands where names lead to from a folder. -/
def find (folders : Folders) : List String → List String → FilePlace
  | _, [] => .folder
  | place, name :: names =>
    if !isName name then .unreachable
    else if folders.isFolder (next place name) then folders.find (next place name) names
    else if names.isEmpty then .vacant
    else .folderMissing

/-- What stands at the end of a path. -/
def findPath (folders : Folders) (path : String) : FilePlace :=
  if isPath path then folders.find [] (namesOn path) else .unreachable

def hasFolder (folders : Folders) (path : String) : Bool :=
  match folders.findPath path with
  | .folder => true
  | _ => false

/-! ## Making folders -/

/-- Makes the folders that are missing on the way along names, as far as they can be made. A folder
cannot be made under the name `.`, so that none is made where nothing but `.` comes behind it. -/
def makeFrom (folders : Folders) : List String → List String → Folders
  | _, [] => folders
  | place, name :: names =>
    if !isName name then folders
    else if folders.isFolder (next place name) then folders.makeFrom (next place name) names
    else if !names.isEmpty && names.all (· = ".") then folders
    else (folders.insert (next place name)).makeFrom (next place name) names

/-- Makes the folders that are missing on a path, as far as they can be made. -/
def make (folders : Folders) (path : String) : Folders :=
  if isPath path then folders.makeFrom [] (namesOn path) else folders

/-- Making folders takes none away. -/
theorem isFolder_makeFrom (folders : Folders) (place names other : List String)
    (h : folders.isFolder other = true) : (folders.makeFrom place names).isFolder other = true := by
  fun_induction makeFrom folders place names with
  | case1 | case2 | case4 => exact h
  | case3 folders place name names _ _ ih => exact ih h
  | case5 folders place name names _ _ _ ih => exact ih (by simp [isFolder_insert, h])

/-- Names that are short enough lead to a folder once the folders along them are made, unless they
end in `.`. -/
theorem find_makeFrom (folders : Folders) (place names : List String)
    (hshort : ∀ name ∈ names, isName name = true) (hlast : names.getLast? ≠ some ".") :
    (folders.makeFrom place names).find place names = .folder := by
  fun_induction makeFrom folders place names with
  | case1 => rfl
  | case2 folders place name names hname => simp [hshort name] at hname
  | case3 folders place name names hname hfolder ih =>
    rw [find, if_neg hname, if_pos (isFolder_makeFrom _ _ _ _ hfolder)]
    exact ih (fun n hn => hshort n (.tail _ hn)) (by cases names <;> simp_all)
  | case4 folders place name names hname hfolder hdots =>
    -- with nothing but dots left, the last name would be one
    cases hend : names.getLast? with
    | none => simp_all
    | some n =>
      have hn := List.mem_of_getLast? hend
      simp only [Bool.and_eq_true, List.all_eq_true, decide_eq_true_eq] at hdots
      exact absurd (by simp [List.getLast?_cons, hend, hdots.2 n hn]) hlast
  | case5 folders place name names hname hfolder hdots ih =>
    rw [find, if_neg hname, if_pos (isFolder_makeFrom _ _ _ _ (by simp [isFolder_insert]))]
    exact ih (fun n hn => hshort n (.tail _ hn)) (by cases names <;> simp_all)

end Folders

end CookieConsent
