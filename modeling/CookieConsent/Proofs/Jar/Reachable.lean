import CookieConsent.Proofs.Jar.Snapshots
import CookieConsent.Proofs.Jar.Writing

/-!
# The jars that there can be

A jar starts empty, at any time. From then on its page assigns texts and stores values, its time
moves, in either direction, its expired cookies are purged, and it is put back from a snapshot.
Every jar that comes about in this way is well-formed, and clocks show the expiries of its cookies, so
that no snapshot loses anything.

A run is a list of such steps. The jars that come about from an empty one are those at the end of
its runs.

* `Reachable.isWellFormed`, `Reachable.isShown`: what holds of every jar.
* `reachable_iff_run`: the jars are those that runs lead to.
-/

namespace CookieConsent.Jar

open Time (Duration Instant)

/-- The jars that come about from an empty one. -/
inductive Reachable : Jar → Prop where
  | empty (now : Instant) : Reachable (empty now)
  | assign {jar : Jar} (text : String) : Reachable jar → Reachable (jar.assign text)
  | set {jar : Jar} (name value : String) (days : UInt32) :
      Reachable jar → Reachable (jar.set name value days)
  | advance {jar : Jar} (d : Duration) : Reachable jar → Reachable (jar.advance d)
  | setClock {jar : Jar} (now : Instant) : Reachable jar → Reachable (jar.setClock now)
  | purge {jar : Jar} : Reachable jar → Reachable jar.purge
  /-- A jar is put back from the text of another one, at any time. -/
  | restore {jar restored : Jar} {now : Instant} :
      Reachable jar → ofText? now jar.snapshot = some restored → Reachable restored

/-! ## Expiries that clocks show -/

variable {jar : Jar}

theorem isShown_empty (now : Instant) : (empty now).IsShown :=
  fun _ hc => absurd hc List.not_mem_nil

/-- What is stored of an assignment expires at an instant that clocks show. -/
theorem IsShown.assign (h : jar.IsShown) (text : String) : (jar.assign text).IsShown := by
  unfold Jar.assign
  split
  · next cookie found =>
    intro c hc
    rcases mem_of_mem_write hc with ⟨rfl, alive⟩ | hc
    · exact Cookie.isShown_of_ofAssignment? found alive
    · exact h c hc
  · exact h

theorem IsShown.purge (h : jar.IsShown) : jar.purge.IsShown :=
  fun c hc => h c (List.mem_filter.1 hc).1

/-- A jar that is put back is as it was, at the given time. -/
theorem ofText?_of_isShown (h : jar.IsShown) (now : Instant) :
    ofText? now jar.snapshot = some (jar.setClock now) := by
  rw [ofText?_snapshot, map_shown_eq_self h]
  rfl

/-- Clocks show the expiries in every jar that comes about. -/
theorem Reachable.isShown (h : jar.Reachable) : jar.IsShown := by
  induction h with
  | empty now => exact isShown_empty now
  | assign text _ ih => exact ih.assign text
  | set name value days _ ih => exact ih.assign _
  | advance d _ ih => exact ih
  | setClock now _ ih => exact ih
  | purge _ ih => exact ih.purge
  | restore _ found ih =>
    rw [ofText?_of_isShown ih] at found
    obtain rfl := Option.some.inj found
    exact ih

/-! ## What holds of every jar -/

/-- Every jar that comes about is well-formed. -/
theorem Reachable.isWellFormed (h : jar.Reachable) : jar.IsWellFormed := by
  induction h with
  | empty now => exact isWellFormed_empty now
  | assign text _ ih => exact ih.assign text
  | set name value days _ ih => exact ih.assign _
  | advance d _ ih => exact ih.setClock _
  | setClock now _ ih => exact ih.setClock now
  | purge _ ih => exact ih.purge
  | restore before found ih =>
    rw [ofText?_of_isShown before.isShown] at found
    obtain rfl := Option.some.inj found
    exact ih.setClock _

/-! ## Runs -/

/-- One thing that happens to a jar. -/
inductive Step where
  | assign (text : String)
  | set (name value : String) (days : UInt32)
  | advance (d : Duration)
  | setClock (now : Instant)
  | purge
  /-- The jar is put back from its text, at any time. -/
  | restore (now : Instant)
deriving DecidableEq, Repr

def after (jar : Jar) : Step → Jar
  | .assign text => jar.assign text
  | .set name value days => jar.set name value days
  | .advance d => jar.advance d
  | .setClock now => jar.setClock now
  | .purge => jar.purge
  | .restore now => (ofText? now jar.snapshot).getD jar

/-- The jar after some steps, one behind another. -/
def run (jar : Jar) (steps : List Step) : Jar := steps.foldl after jar

@[simp] theorem run_nil (jar : Jar) : jar.run [] = jar := rfl

@[simp] theorem run_cons (jar : Jar) (step : Step) (steps : List Step) :
    jar.run (step :: steps) = (jar.after step).run steps := rfl

/-- A run goes on where another one ended. -/
theorem run_append (jar : Jar) (steps more : List Step) :
    jar.run (steps ++ more) = (jar.run steps).run more := List.foldl_append

/-- A jar that is put back from its text has the expiries that clocks show. -/
theorem after_restore (jar : Jar) (now : Instant) :
    jar.after (.restore now) = ⟨jar.cookies.map Cookie.shown, now⟩ := by
  rw [after, ofText?_snapshot, Option.getD_some]

/-- Putting a jar back sets its clock and does nothing else, if clocks show its expiries. -/
theorem after_restore_of_isShown (h : jar.IsShown) (now : Instant) :
    jar.after (.restore now) = jar.setClock now := by
  rw [after, ofText?_of_isShown h, Option.getD_some]

/-- After a step, clocks show the expiries that they showed before. -/
theorem IsShown.after (h : jar.IsShown) (step : Step) : (jar.after step).IsShown := by
  cases step with
  | assign text => exact h.assign text
  | set name value days => exact h.assign _
  | advance d => exact h
  | setClock now => exact h
  | purge => exact h.purge
  | restore now => exact after_restore_of_isShown h now ▸ h

theorem Reachable.after (h : jar.Reachable) (step : Step) : (jar.after step).Reachable := by
  cases step with
  | assign text => exact h.assign text
  | set name value days => exact h.set name value days
  | advance d => exact h.advance d
  | setClock now => exact h.setClock now
  | purge => exact h.purge
  | restore now => exact after_restore_of_isShown h.isShown now ▸ h.setClock now

/-- Runs lead from jars that there can be to jars that there can be. -/
theorem Reachable.run (h : jar.Reachable) (steps : List Step) : (jar.run steps).Reachable := by
  induction steps generalizing jar with
  | nil => exact h
  | cons step steps ih => exact ih (h.after step)

/-- A step behind a run of an empty jar is the last step of a longer run. -/
theorem exists_run_after (h : ∃ now steps, jar = (Jar.empty now).run steps) (step : Step) :
    ∃ now steps, jar.after step = (Jar.empty now).run steps := by
  obtain ⟨now, steps, rfl⟩ := h
  exact ⟨now, steps ++ [step], (run_append _ steps [step]).symm⟩

/-- The jars that come about are those at the end of the runs of empty jars. -/
theorem reachable_iff_run : jar.Reachable ↔ ∃ now steps, jar = (Jar.empty now).run steps := by
  constructor
  · intro h
    -- each way to make a jar is a step, and putting back a snapshot is one that went well
    induction h with
    | empty now => exact ⟨now, [], rfl⟩
    | assign text _ ih => exact exists_run_after ih (.assign text)
    | set name value days _ ih => exact exists_run_after ih (.set name value days)
    | advance d _ ih => exact exists_run_after ih (.advance d)
    | setClock now _ ih => exact exists_run_after ih (.setClock now)
    | purge _ ih => exact exists_run_after ih .purge
    | @restore jar restored now _ found ih =>
      have put_back : jar.after (.restore now) = restored := by
        rw [Jar.after, found, Option.getD_some]
      exact put_back ▸ exists_run_after ih (.restore now)
  · rintro ⟨now, steps, rfl⟩
    exact Reachable.run (.empty now) steps

end CookieConsent.Jar
