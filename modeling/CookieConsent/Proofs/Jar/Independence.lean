import CookieConsent.Banner.Basic
import CookieConsent.Proofs.Jar.Header
import CookieConsent.Tracker.Command

/-!
# Names are independent

What is read under a name comes from the cookies with that name. Those are a jar of their own inside
the jar: writing one of them is writing it there, and writing a cookie with another name leaves them
as they are, whatever stands in its value. So assignments that set no cookie of the name can be left
out of what happens to a jar. Nobody who goes by that name, neither the banner nor the tracker, can
tell the difference at any time.

* `only_write_self`, `only_write_of_ne`: the cookies with a name after a write.
* `only_after_congr`, `only_after_of_isForeign`: after a step.
* `only_run_remaining`: after a run from which steps are deleted.
* `read?_eq_of_only_eq`: the cookies with a name decide what is read under it.
* `names_independent`: the run and the edited run at any point.
-/

namespace CookieConsent

open Time (Instant)

/-! ## Assignments of other names -/

namespace Cookie

/-- The name of the cookie that an assignment sets, if it sets one. -/
def assignedName? (text : String) : Option String :=
  match text.toList.splitOn ';' with
  | [] => none
  | pair :: _ => (pair? pair).map Prod.fst

/-- Which name an assignment sets does not depend on the time. -/
theorem map_name_ofAssignment? (now : Instant) (text : String) :
    (ofAssignment? now text).map Cookie.name = assignedName? text := by
  rw [ofAssignment?, assignedName?]
  cases text.toList.splitOn ';' with
  | nil => rfl
  | cons pair attributes =>
    dsimp only
    rw [Option.map_map]
    rfl

end Cookie

namespace Jar

/-- Whether a step assigns a text that sets no cookie with the name. -/
def Step.isForeign (name : String) : Step → Bool
  | .assign text => Cookie.assignedName? text ≠ some name
  | _ => false

/-! ## The cookies with a name -/

/-- The jar without the cookies of other names. -/
def only (jar : Jar) (name : String) : Jar :=
  { jar with cookies := jar.cookies.filter (·.name = name) }

variable {jar jar' : Jar} {cookie : Cookie} {name : String}

/-- Among the cookies of a name, dropping takes out the one that it takes out among all. -/
theorem filter_name_drop (key : String × String) (cookies : List Cookie) :
    (drop key cookies).filter (·.name = key.1) = drop key (cookies.filter (·.name = key.1)) := by
  induction cookies with
  | nil => rfl
  | cons c cookies ih =>
    rw [drop, drop] at ih
    by_cases place : c.key = key
    · have same : c.name = key.1 := congrArg Prod.fst place
      simp [drop, place, same]
    · by_cases same : c.name = key.1
      · simp [drop, place, same, ih]
      · simp [drop, place, same, ih]

/-- A cookie is written among those with its name. -/
theorem only_write_self (jar : Jar) (cookie : Cookie) :
    (jar.write cookie).only cookie.name = (jar.only cookie.name).write cookie := by
  rw [write, write]
  have clock : (jar.only cookie.name).clock = jar.clock := rfl
  rw [clock]
  cases cookie.isExpired jar.clock with
  | true => exact congrArg (Jar.mk · jar.clock) (filter_name_drop cookie.key jar.cookies)
  | false =>
    have among : (put cookie jar.cookies).filter (·.name = cookie.name) =
        put cookie (jar.cookies.filter (·.name = cookie.name)) :=
      filter_put (decide_eq_true rfl) fun _ _ same => decide_eq_true (Prod.mk.inj same).1
    exact congrArg (Jar.mk · jar.clock) among

/-- A cookie with another name is not written among them. -/
theorem only_write_of_ne (jar : Jar) (ne : cookie.name ≠ name) :
    (jar.write cookie).only name = jar.only name := by
  have others (c : Cookie) (same : decide (c.name = name) = true) : c.key ≠ cookie.key :=
    fun key => ne ((Prod.mk.inj key).1.symm.trans (of_decide_eq_true same))
  rw [only, only, filter_write_of_ne others, clock_write]

@[simp] theorem only_only (jar : Jar) (name : String) :
    (jar.only name).only name = jar.only name := by
  simp [only]

/-- Writing a cookie does to the cookies of a name what it does to them alone: nothing, if it has
another name. -/
theorem only_write (jar : Jar) (cookie : Cookie) (name : String) :
    (jar.write cookie).only name = ((jar.only name).write cookie).only name := by
  by_cases same : cookie.name = name
  · subst same
    rw [only_write_self, only_write_self, only_only]
  · rw [only_write_of_ne jar same, only_write_of_ne _ same, only_only]

/-- So an assignment can be made where the others are gone. -/
theorem only_assign (jar : Jar) (text name : String) :
    (jar.assign text).only name = ((jar.only name).assign text).only name := by
  have clock : (jar.only name).clock = jar.clock := rfl
  rw [assign, assign, clock]
  cases Cookie.ofAssignment? jar.clock text with
  | none => exact (only_only jar name).symm
  | some cookie => exact only_write jar cookie name

theorem only_purge (jar : Jar) (name : String) : jar.purge.only name = (jar.only name).purge := by
  simp only [purge, only, visible, List.filter_filter, Bool.and_comm]

/-- The cookies with a name are put back alone as they are among the others. -/
theorem only_restored (jar : Jar) (now : Instant) (name : String) :
    (Jar.mk (jar.cookies.map Cookie.shown) now).only name =
      Jar.mk ((jar.only name).cookies.map Cookie.shown) now := by
  have same : (fun cookie : Cookie => decide (cookie.name = name)) ∘ Cookie.shown =
      fun cookie => decide (cookie.name = name) := rfl
  rw [only, List.filter_map, same, only]

/-! ## Steps and runs -/

/-- After a step, the cookies with a name are those that they are without the others. -/
theorem only_after (jar : Jar) (step : Step) (name : String) :
    (jar.after step).only name = ((jar.only name).after step).only name := by
  cases step with
  | assign text => exact only_assign jar text name
  | set name' value days => exact only_assign jar _ name
  | advance d => exact (only_only (jar.advance d) name).symm
  | setClock now => exact (only_only (jar.setClock now) name).symm
  | purge =>
    change jar.purge.only name = (jar.only name).purge.only name
    rw [← only_purge, only_only]
  | restore now =>
    rw [after_restore, after_restore, ← only_restored, only_only]

/-- A step leaves jars with the same cookies of a name with the same cookies of it. -/
theorem only_after_congr (h : jar.only name = jar'.only name) (step : Step) :
    (jar.after step).only name = (jar'.after step).only name := by
  rw [only_after, h, ← only_after]

/-- A foreign step leaves the cookies with the name as they are. -/
theorem only_after_of_isForeign (jar : Jar) {step : Step} (h : step.isForeign name) :
    (jar.after step).only name = jar.only name := by
  cases step with
  | assign text =>
    have other : Cookie.assignedName? text ≠ some name := by simpa [Step.isForeign] using h
    rw [after]
    cases sets : Cookie.ofAssignment? jar.clock text with
    | none => rw [assign_of_eq_none sets]
    | some cookie =>
      have ne : cookie.name ≠ name := by
        rw [← Cookie.map_name_ofAssignment? jar.clock, sets] at other
        simpa using other
      rw [assign_of_eq_some sets, only_write_of_ne jar ne]
  | _ => cases h

/-- A step of a run, and whether it is deleted from the run. -/
structure Edit where
  step : Step
  isDeleted : Bool
deriving DecidableEq, Repr

/-- The steps of a run before it was edited. -/
def Edit.all (edits : List Edit) : List Step := edits.map Edit.step

/-- The steps of a run that are left after it was edited. -/
def Edit.remaining (edits : List Edit) : List Step :=
  (edits.filter fun edit => !edit.isDeleted).map Edit.step

/-- A run from which foreign steps are deleted leads to the same cookies with the name. -/
theorem only_run_remaining (h : jar.only name = jar'.only name) {edits : List Edit}
    (foreign : ∀ edit ∈ edits, edit.isDeleted → edit.step.isForeign name) :
    (jar.run (Edit.remaining edits)).only name = (jar'.run (Edit.all edits)).only name := by
  induction edits generalizing jar jar' with
  | nil => exact h
  | cons edit edits ih =>
    have rest := fun other mem => foreign other (List.mem_cons_of_mem edit mem)
    rw [Edit.all, List.map_cons, run_cons, Edit.remaining, List.filter_cons]
    cases deleted : edit.isDeleted with
    | true =>
      have unseen := only_after_of_isForeign jar' (foreign edit List.mem_cons_self deleted)
      exact ih (h.trans unseen.symm) rest
    | false => exact ih (only_after_congr h edit.step) rest

/-! ## What is read -/

/-- Whether the others are there does not matter to who looks for the name. -/
theorem get?_only (jar : Jar) (name : String) : (jar.only name).get? name = jar.get? name := by
  rw [get?, get?, only, List.find?_filter]
  congr 1
  funext c
  cases c.isExpired jar.clock <;> simp

/-- In jars with the same cookies of a name, the same is read under it. -/
theorem read?_eq_of_only_eq (whole : jar.IsWellFormed) (whole' : jar'.IsWellFormed)
    (valid : Cookie.isValidName name) (h : jar.only name = jar'.only name) :
    jar.read? name = jar'.read? name := by
  rw [read?_eq whole valid, read?_eq whole' valid, ← get?_only jar, h, get?_only]

/-- **Names are independent.** From any jar that there can be, and for any valid name: when
assignments that set no cookie of the name are deleted from what happens to the jar, some of them or
all, then at every point the same is read under the name as without the deletions, so that consent,
whether the banner is shown on any page, and whether the tracker is told to set no cookies stay the
same. -/
theorem names_independent (reachable : jar.Reachable) (valid : Cookie.isValidName name)
    {edits : List Edit} (foreign : ∀ edit ∈ edits, edit.isDeleted → edit.step.isForeign name)
    (point : Nat) :
    let full := jar.run (Edit.all (edits.take point))
    let edited := jar.run (Edit.remaining (edits.take point))
    edited.read? name = full.read? name ∧
    ConsentState.ofValue (edited.read? name) = ConsentState.ofValue (full.read? name) ∧
    (∀ settings page, settings.cookieName = name →
      (Banner.mk settings edited page).welcome.2 = (Banner.mk settings full page).welcome.2) ∧
    Tracker.cookiesDisabled edited.header name = Tracker.cookiesDisabled full.header name := by
  intro full edited
  -- what is deleted never touches the cookies of the name, and reading looks at no others
  have same : edited.only name = full.only name :=
    only_run_remaining rfl fun edit mem => foreign edit (List.mem_of_mem_take mem)
  have read : edited.read? name = full.read? name :=
    read?_eq_of_only_eq (reachable.run _).isWellFormed (reachable.run _).isWellFormed valid same
  refine ⟨read, congrArg ConsentState.ofValue read, ?_, ?_⟩
  · rintro settings page rfl
    have state : (Banner.mk settings edited page).state = (Banner.mk settings full page).state :=
      congrArg ConsentState.ofValue read
    rw [Banner.welcome, Banner.welcome, state]
  · have header : Cookie.read? edited.header name = Cookie.read? full.header name := read
    simp only [Tracker.cookiesDisabled, header]

/-- A value that looks like the cookie `n`, a longer name and a text without `=` are left out. -/
theorem names_independent_lookalikes :
    let edits : List Edit :=
      [⟨.assign "x=n=false", true⟩, ⟨.assign "n=true; max-age=60", false⟩,
        ⟨.assign "nn=false; path=/", true⟩, ⟨.assign "n", true⟩, ⟨.assign "y=%", false⟩,
        ⟨.advance (.ofSeconds 59), false⟩, ⟨.purge, false⟩]
    let full := (empty Instant.epoch).run (Edit.all edits)
    let edited := (empty Instant.epoch).run (Edit.remaining edits)
    full.header = "x=n=false; n=true; nn=false; y=%" ∧ edited.header = "n=true; y=%" ∧
      full.read? "n" = some "true" := by
  intro edits full edited
  have foreign : ∀ edit ∈ edits, edit.isDeleted → edit.step.isForeign "n" := by decide
  have same := (names_independent (.empty Instant.epoch) (by decide) foreign edits.length).1
  exact ⟨by decide, by decide, same.symm.trans (by decide +kernel)⟩

end Jar

end CookieConsent
