import CookieConsent.Decision
import CookieConsent.Proofs.Jar.Clock
import CookieConsent.Proofs.Jar.Header
import CookieConsent.Proofs.Jar.Table

/-!
# What purging changes

A cookie that has expired is not seen, and as long as time goes on it stays so. Purging takes it out
for good. So a jar sees the same cookies later on, whether it was purged or not. But not in the same
order: where a cookie is written again of which an expired one was still kept, it takes its old
place, and where that has been purged, the last one. All other cookies are in the same order.

* `Table.seen_after_congr`, `seen_run_congr`: what is seen later comes from what is seen now.
* `revived`: the keys whose cookies stand in the places of expired ones.
* `Alike.after`, `Alike.run`: the order of the cookies with other keys.
* `purge_reorders_revived`: a run of a jar and the run of the purged jar.
-/

namespace CookieConsent.Jar

open Time (Duration Instant)

/-! ## Steps in which time goes on -/

/-- Whether a step writes, purges or lets time go on. With the others, time can jump anywhere. -/
def Step.isForward : Step → Bool
  | .assign _ => true
  | .set _ _ _ => true
  | .advance d => 0 ≤ d.nanos
  | .setClock _ => false
  | .purge => true
  | .restore _ => false

variable {jar : Jar} {cookie : Cookie} {step : Step} {steps : List Step}

/-! ## What is seen -/

namespace Table

/-- Whether what is held under a key has not expired. -/
def isAlive (now : Instant) (entry : String × Option Instant) : Bool := !entry.2.any (· ≤ now)

/-- The table without what has expired. -/
def seen (table : Table) : Table := table.after .purge

variable {table table' : Table} {now later : Instant}

@[simp] theorem clock_seen (table : Table) : table.seen.clock = table.clock := rfl

/-- A key holds what it held, unless that has expired. -/
theorem held_seen (table : Table) (key : String × String) :
    table.seen.held key = (table.held key).filter (isAlive table.clock) := rfl

/-- What is alive at a time was alive before it. -/
theorem isAlive_of_le (h : now ≤ later) {entry : String × Option Instant}
    (alive : isAlive later entry = true) : isAlive now entry = true := by
  rw [isAlive, Bool.not_eq_true'] at alive ⊢
  rw [Bool.eq_false_iff] at alive ⊢
  exact fun expired => alive (any_le_of_le h expired)

/-- What is seen later is seen among what is seen now. -/
theorem filter_isAlive_of_le (h : now ≤ later) (held : Option (String × Option Instant)) :
    (held.filter (isAlive now)).filter (isAlive later) = held.filter (isAlive later) := by
  cases held with
  | none => rfl
  | some entry =>
    cases alive : isAlive later entry with
    | false => cases first : isAlive now entry <;> simp [Option.filter, alive, first]
    | true => simp [Option.filter, alive, isAlive_of_le h alive]

/-- Tables with the same entries and the same clock are equal. -/
theorem eq_of_fields (held : table.held = table'.held) (clock : table.clock = table'.clock) :
    table = table' := by
  cases table
  cases table'
  simp_all

/-- Two tables look the same when their clocks agree and every key holds the same or has expired in
both. -/
theorem seen_eq_iff :
    table.seen = table'.seen ↔ table.clock = table'.clock ∧
      ∀ key, (table.held key).filter (isAlive table.clock) =
        (table'.held key).filter (isAlive table.clock) := by
  constructor
  · intro same
    have clock : table.seen.clock = table'.seen.clock := by rw [same]
    refine ⟨clock, fun key => ?_⟩
    have held : table.seen.held key = table'.seen.held key := by rw [same]
    rw [clock_seen, clock_seen] at clock
    rw [held_seen, held_seen, ← clock] at held
    exact held
  · intro ⟨clock, held⟩
    refine eq_of_fields (funext fun key => ?_) clock
    rw [held_seen, held_seen, ← clock, held key]

/-- A table is seen as it is without what has expired. -/
theorem seen_seen (table : Table) : table.seen.seen = table.seen :=
  seen_eq_iff.2 ⟨rfl, fun key => filter_isAlive_of_le (Instant.le_refl _) (table.held key)⟩

/-- Filling the same place leaves what is seen the same. -/
theorem seen_assign_congr (h : table.seen = table'.seen) (text : String) :
    (table.assign text).seen = (table'.assign text).seen := by
  obtain ⟨clock, held⟩ := seen_eq_iff.1 h
  rw [assign, assign, ← clock]
  cases Cookie.ofAssignment? table.clock text with
  | none => exact h
  | some cookie =>
    dsimp only
    rw [seen_eq_iff]
    refine ⟨rfl, fun key => ?_⟩
    simp only [Function.update_apply]
    split
    · rfl
    · exact held key

/-- What is seen after a step in which time goes on comes from what was seen before. -/
theorem seen_after_congr (h : table.seen = table'.seen) (time : table.clock ≤ Instant.last)
    {step : Step} (forward : step.isForward) : (table.after step).seen = (table'.after step).seen := by
  obtain ⟨clock, held⟩ := seen_eq_iff.1 h
  cases step with
  | assign text => exact seen_assign_congr h text
  | set name value days =>
    rw [after, after, ← clock]
    exact seen_assign_congr h _
  | advance d =>
    have goesOn : table.clock ≤ table.clock.advanced d :=
      Instant.le_advanced time (by simpa [Step.isForward] using forward)
    refine seen_eq_iff.2 ⟨congrArg (Instant.advanced · d) clock, fun key => ?_⟩
    -- what has expired by the later time includes what had expired before
    have later := congrArg (Option.filter (isAlive (table.clock.advanced d))) (held key)
    rw [filter_isAlive_of_le goesOn, filter_isAlive_of_le goesOn] at later
    exact later
  | purge => exact (seen_seen table).trans (h.trans (seen_seen table').symm)
  | setClock now => cases forward
  | restore now => cases forward

end Table

/-! ## Runs in which time goes on -/

/-- Up to the last instant, time goes on in such a step, and not behind the last instant. -/
theorem clock_after (time : jar.clock ≤ Instant.last) (forward : step.isForward) :
    jar.clock ≤ (jar.after step).clock ∧ (jar.after step).clock ≤ Instant.last := by
  cases step with
  | assign text =>
    rw [after, clock_assign]
    exact ⟨Instant.le_refl _, time⟩
  | set name value days =>
    rw [after, set, clock_assign]
    exact ⟨Instant.le_refl _, time⟩
  | advance d =>
    exact ⟨Instant.le_advanced time (by simpa [Step.isForward] using forward),
      Instant.advanced_le_last time d⟩
  | purge => exact ⟨Instant.le_refl _, time⟩
  | setClock now => cases forward
  | restore now => cases forward

/-- Jars that see the same see the same after a run in which time goes on. -/
theorem seen_run_congr {jar' : Jar} (reachable : jar.Reachable) (reachable' : jar'.Reachable)
    (same : jar.table.seen = jar'.table.seen) (time : jar.clock ≤ Instant.last)
    (forward : ∀ step ∈ steps, step.isForward) :
    (jar.run steps).table.seen = (jar'.run steps).table.seen := by
  induction steps generalizing jar jar' with
  | nil => exact same
  | cons step steps ih =>
    have first := forward step List.mem_cons_self
    apply ih (reachable.after step) (reachable'.after step) _ (clock_after time first).2
      fun other mem => forward other (List.mem_cons_of_mem step mem)
    rw [table_after reachable, table_after reachable']
    exact Table.seen_after_congr same time first

/-- What a jar sees are the cookies that its table has seen. -/
theorem perm_visible {jar' : Jar} (whole : jar.IsWellFormed) (whole' : jar'.IsWellFormed)
    (same : jar.table.seen = jar'.table.seen) : jar.visible.Perm jar'.visible := by
  have purged : jar.purge.table = jar'.purge.table := by
    rw [table_purge whole.keys, table_purge whole'.keys]
    exact same
  exact perm_of_table_eq whole.purge.keys whole'.purge.keys purged

/-! ## Cookies that come back to an old place -/

/-- The cookie that a step writes, if it writes one. -/
def written? (jar : Jar) : Step → Option Cookie
  | .assign text => Cookie.ofAssignment? jar.clock text
  | .set name value days =>
    Cookie.ofAssignment? jar.clock (Cookie.assignmentFor name value jar.clock days)
  | _ => none

/-- A step that writes a cookie does nothing else. -/
theorem after_of_written?_eq_some (h : jar.written? step = some cookie) :
    jar.after step = jar.write cookie := by
  cases step with
  | assign text => exact assign_of_eq_some h
  | set name value days => exact assign_of_eq_some h
  | advance d => cases h
  | setClock now => cases h
  | purge => cases h
  | restore now => cases h

/-- Which cookie is written depends on the time only. -/
theorem written?_congr {jar' : Jar} (h : jar.clock = jar'.clock) (step : Step) :
    jar.written? step = jar'.written? step := by
  cases step <;> simp only [written?, h]

/-- The key under which a step stores a cookie in the place of one that had expired by some time, if
it does. -/
def revives? (jar : Jar) (since : Instant) (step : Step) : Option (String × String) :=
  ((jar.written? step).filter fun cookie => !cookie.isExpired jar.clock &&
    jar.cookies.any fun c => c.key = cookie.key && c.isExpired since).map Cookie.key

/-- The keys under which cookies stand in the places of some that had expired by some time, after a
step: those under which they did before or come to do, if the cookies are kept. -/
def revivedBy (jar : Jar) (since : Instant) (keys : List (String × String)) (step : Step) :
    List (String × String) :=
  (keys ++ (jar.revives? since step).toList).filter (· ∈ (jar.after step).cookies.map Cookie.key)

/-- Those keys after a run. -/
def revived (jar : Jar) (since : Instant) (keys : List (String × String)) :
    List Step → List (String × String)
  | [] => keys
  | step :: steps => (jar.after step).revived since (jar.revivedBy since keys step) steps

/-- A jar and a purged one at the same time. The purged one has no other cookies, and except under
some keys, it has those that had not expired by the time of purging, in their order. -/
structure Alike (since : Instant) (apart : List (String × String)) (full purged : Jar) : Prop where
  clock : purged.clock = full.clock
  since_le : since ≤ full.clock
  subset : ∀ c ∈ purged.cookies, c ∈ full.cookies
  cookies : purged.cookies.filter (·.key ∉ apart) =
    full.cookies.filter fun c => c.key ∉ apart && !c.isExpired since

/-- A jar and the jar after purging. -/
theorem alike_purge (jar : Jar) : Alike jar.clock [] jar jar.purge where
  clock := rfl
  since_le := Instant.le_refl jar.clock
  subset := fun _ hc => (List.mem_filter.1 hc).1
  cookies := by simp [purge, visible]

namespace Alike

variable {since : Instant} {apart : List (String × String)} {full purged : Jar}

/-- The cookies that are seen are in the same order, except under those keys. -/
theorem visible (h : Alike since apart full purged) :
    purged.visible.filter (·.key ∉ apart) = full.visible.filter (·.key ∉ apart) := by
  have alive : ∀ c ∈ full.cookies, (c.key ∉ apart && !c.isExpired full.clock) =
      ((!c.isExpired full.clock) && (c.key ∉ apart && !c.isExpired since)) := by
    intro c _
    cases expired : c.isExpired since with
    | false => simp [Bool.and_comm]
    | true =>
      -- what had expired at the time of purging has still expired
      have later : c.isExpired full.clock = true := any_le_of_le h.since_le expired
      simp [later]
  rw [Jar.visible, Jar.visible, List.filter_comm, h.cookies, h.clock, List.filter_filter,
    List.filter_filter, List.filter_congr alive]

/-- More keys can be left out. -/
theorem mono (h : Alike since apart full purged) (more : List (String × String)) :
    Alike since (apart ++ more) full purged where
  clock := h.clock
  since_le := h.since_le
  subset := h.subset
  cookies := by
    -- leaving out more keys is leaving them out of what is left
    have split (cookies : List Cookie) (p : Cookie → Bool) :
        cookies.filter (fun c => c.key ∉ apart ++ more && p c) =
          (cookies.filter fun c => c.key ∉ apart && p c).filter (·.key ∉ more) := by
      rw [List.filter_filter]
      apply List.filter_congr
      intro c _
      by_cases c.key ∈ apart <;> by_cases c.key ∈ more <;> simp [*]
    have purgedSplit := split purged.cookies fun _ => true
    simp only [Bool.and_true] at purgedSplit
    rw [purgedSplit, h.cookies, ← split]

/-- Keys under which no cookie is kept need not be left out. -/
theorem kept (h : Alike since apart full purged) :
    Alike since (apart.filter (· ∈ full.cookies.map Cookie.key)) full purged where
  clock := h.clock
  since_le := h.since_le
  subset := h.subset
  cookies := by
    have keeps (c : Cookie) (hc : c ∈ full.cookies) :
        decide (c.key ∉ apart.filter (· ∈ full.cookies.map Cookie.key)) =
          decide (c.key ∉ apart) := by
      have held : c.key ∈ full.cookies.map Cookie.key := List.mem_map_of_mem hc
      simp only [List.mem_filter, held, decide_true, and_true]
    calc purged.cookies.filter (·.key ∉ apart.filter (· ∈ full.cookies.map Cookie.key))
      _ = purged.cookies.filter (·.key ∉ apart) :=
        List.filter_congr fun c hc => keeps c (h.subset c hc)
      _ = full.cookies.filter fun c => c.key ∉ apart && !c.isExpired since := h.cookies
      _ = _ := List.filter_congr fun c hc => by rw [keeps c hc]

theorem purge (h : Alike since apart full purged) : Alike since apart full.purge purged.purge where
  clock := h.clock
  since_le := h.since_le
  subset := by
    intro c hc
    obtain ⟨hc, alive⟩ := List.mem_filter.1 hc
    rw [h.clock] at alive
    exact List.mem_filter.2 ⟨h.subset c hc, alive⟩
  cookies := by
    rw [Jar.purge, Jar.purge, Jar.visible, Jar.visible, List.filter_comm, h.cookies,
      List.filter_comm, h.clock]

/-- Time can go on. -/
theorem setClock (h : Alike since apart full purged) {now : Instant} (later : full.clock ≤ now) :
    Alike since apart (full.setClock now) (purged.setClock now) where
  clock := rfl
  since_le := Instant.le_trans h.since_le later
  subset := h.subset
  cookies := h.cookies

/-- Writing fills the same place in both. -/
theorem subset_write (h : Alike since apart full purged) (keys : (full.cookies.map Cookie.key).Nodup)
    (keys' : (purged.cookies.map Cookie.key).Nodup) (cookie : Cookie) :
    ∀ c ∈ (purged.write cookie).cookies, c ∈ (full.write cookie).cookies := by
  intro c hc
  rw [mem_cookies_iff (nodup_write keys'), table_write keys'] at hc
  rw [mem_cookies_iff (nodup_write keys), table_write keys]
  simp only [Function.update_apply, h.clock] at hc ⊢
  split at hc
  · next same => rw [if_pos same, hc]
  · next other =>
    rw [if_neg other, ← mem_cookies_iff keys]
    exact h.subset c ((mem_cookies_iff keys').2 hc)

/-- A cookie whose key is left out can be written. -/
theorem write_of_mem (h : Alike since apart full purged) (keys : (full.cookies.map Cookie.key).Nodup)
    (keys' : (purged.cookies.map Cookie.key).Nodup) {cookie : Cookie} (mem : cookie.key ∈ apart) :
    Alike since apart (full.write cookie) (purged.write cookie) where
  clock := by rw [clock_write, clock_write, h.clock]
  since_le := by
    rw [clock_write]
    exact h.since_le
  subset := h.subset_write keys keys' cookie
  cookies := by
    have others (c : Cookie) (kept : decide (c.key ∉ apart) = true) : c.key ≠ cookie.key :=
      fun same => of_decide_eq_true kept (same ▸ mem)
    rw [filter_write_of_ne others, filter_write_of_ne, h.cookies]
    intro c kept
    exact others c (Bool.and_eq_true_iff.1 kept).1

/-- A cookie can be written, unless it is stored in the place of one that had expired. -/
theorem write (h : Alike since apart full purged) (keys : (full.cookies.map Cookie.key).Nodup)
    (keys' : (purged.cookies.map Cookie.key).Nodup) {cookie : Cookie}
    (place : cookie.isExpired full.clock = false →
      ∀ c ∈ full.cookies, c.key = cookie.key → c.isExpired since = false) :
    Alike since apart (full.write cookie) (purged.write cookie) := by
  by_cases mem : cookie.key ∈ apart
  · exact h.write_of_mem keys keys' mem
  · refine ⟨by rw [clock_write, clock_write, h.clock], by rw [clock_write]; exact h.since_le,
      h.subset_write keys keys' cookie, ?_⟩
    -- an expired cookie only deletes, and the filters of both jars commute with that
    cases expired : cookie.isExpired full.clock with
    | true =>
      rw [Jar.write, Jar.write, if_pos expired, if_pos (by rw [h.clock]; exact expired)]
      dsimp only
      rw [drop_eq_filter keys, drop_eq_filter keys', List.filter_comm, h.cookies, List.filter_comm]
    | false =>
      rw [write_of_not_isExpired expired, write_of_not_isExpired (by rw [h.clock]; exact expired)]
      dsimp only
      -- a cookie that is kept now had not expired when the other jar was purged
      have fresh : cookie.isExpired since = false := by
        rw [Bool.eq_false_iff] at expired ⊢
        exact fun past => expired (any_le_of_le h.since_le past)
      rw [filter_put (by simpa using mem) (fun c _ same => by simpa [same] using mem), h.cookies,
        filter_put (by simp [mem, fresh])]
      intro c hc same
      simp [same, mem, place expired c hc same]

/-- A step that writes no cookie. -/
theorem after_of_written?_eq_none (h : Alike since apart full purged)
    (time : full.clock ≤ Instant.last) (forward : step.isForward)
    (writes : full.written? step = none) :
    Alike since apart (full.after step) (purged.after step) := by
  have writes' := written?_congr h.clock step ▸ writes
  cases step with
  | assign text =>
    rw [after, after, assign_of_eq_none writes, assign_of_eq_none writes']
    exact h
  | set name value days =>
    rw [after, after, set, set, assign_of_eq_none writes, assign_of_eq_none writes']
    exact h
  | advance d =>
    rw [after, after, advance, advance, h.clock]
    exact h.setClock (@clock_after full (.advance d) time forward).1
  | purge => exact h.purge
  | setClock now => cases forward
  | restore now => cases forward

/-- After a step in which time goes on, a key is left out if a cookie has been stored under it in the
place of one that had expired, and is kept. -/
theorem after (h : Alike since apart full purged) (keys : (full.cookies.map Cookie.key).Nodup)
    (keys' : (purged.cookies.map Cookie.key).Nodup) (time : full.clock ≤ Instant.last)
    (forward : step.isForward) :
    Alike since (full.revivedBy since apart step) (full.after step) (purged.after step) := by
  apply kept
  cases writes : full.written? step with
  | none =>
    rw [revives?, writes]
    exact (h.after_of_written?_eq_none time forward writes).mono []
  | some cookie =>
    rw [after_of_written?_eq_some writes,
      after_of_written?_eq_some ((written?_congr h.clock step).trans writes), revives?, writes,
      Option.filter_some]
    -- a cookie that is revived joins the keys that are set apart, and any other keeps its place
    split
    · exact (h.mono [cookie.key]).write_of_mem keys keys' (List.mem_append_right _ List.mem_cons_self)
    · next kept =>
      refine (h.mono []).write keys keys' fun alive c hc same => ?_
      rw [Bool.eq_false_iff]
      intro past
      apply kept
      rw [alive, Bool.not_false, Bool.true_and, List.any_eq_true]
      exact ⟨c, hc, by simp [same, past]⟩

/-- The order after a run in which time goes on. -/
theorem run (h : Alike since apart full purged) (reachable : full.Reachable)
    (reachable' : purged.Reachable) (time : full.clock ≤ Instant.last)
    (forward : ∀ step ∈ steps, step.isForward) :
    Alike since (full.revived since apart steps) (full.run steps) (purged.run steps) := by
  induction steps generalizing apart full purged with
  | nil => exact h
  | cons step steps ih =>
    have first := forward step List.mem_cons_self
    exact ih (h.after reachable.isWellFormed.keys reachable'.isWellFormed.keys time first)
      (reachable.after step) (reachable'.after step) (clock_after time first).2
      fun other mem => forward other (List.mem_cons_of_mem step mem)

end Alike

/-! ## What is seen of purging -/

/-- In lists of the same cookies, the same is found, if what is looked for stands alone or is in the
same order. -/
theorem find?_eq_of_perm {cookies cookies' : List Cookie} (perm : cookies.Perm cookies')
    {p q : Cookie → Bool} (order : cookies.filter q = cookies'.filter q)
    (alone : ∀ c ∈ cookies', p c → q c = false → ∀ d ∈ cookies', p d → d = c) :
    cookies.find? p = cookies'.find? p := by
  rw [← List.head?_filter, ← List.head?_filter]
  congr 1
  by_cases ordered : ∀ c ∈ cookies', p c → q c
  · rw [filter_eq_filter_filter fun c hc => ordered c (perm.mem_iff.1 hc),
      filter_eq_filter_filter ordered, order]
  · -- some cookie is out of order, so it is the only one that is looked for
    obtain ⟨c, hc, found, out⟩ : ∃ c ∈ cookies', p c ∧ q c = false := by
      simpa using ordered
    have same : cookies'.filter p = List.replicate (cookies'.filter p).length c := by
      rw [List.eq_replicate_iff]
      refine ⟨rfl, fun d hd => ?_⟩
      obtain ⟨hd, found'⟩ := List.mem_filter.1 hd
      exact alone c hc found out d hd found'
    have filtered := perm.filter p
    rw [same, List.perm_replicate] at filtered
    rw [same, filtered]

/-- **What is seen of purging.** Take any jar that there can be, at a time up to the last instant,
and a run in which time goes on. From the jar and from the purged jar, the run leads to the same time
and to the same cookies that are seen. They are also in the same order, except for those whose keys
were revived: under which a cookie was stored in the place of one that had expired by the time of
purging. So the header is the same as long as no cookie with such a key is seen. What is found and
read under a name, and consent under it, is the same as long as such a cookie is the only one with
that name that is seen. -/
theorem purge_reorders_revived (reachable : jar.Reachable) (time : jar.clock ≤ Instant.last)
    (forward : ∀ step ∈ steps, step.isForward) (point : Nat) :
    let full := jar.run (steps.take point)
    let purged := jar.purge.run (steps.take point)
    let revived := jar.revived jar.clock [] (steps.take point)
    purged.clock = full.clock ∧
    purged.visible.Perm full.visible ∧
    purged.size = full.size ∧
    purged.visible.filter (·.key ∉ revived) = full.visible.filter (·.key ∉ revived) ∧
    ((∀ c ∈ full.visible, c.key ∉ revived) → purged.header = full.header) ∧
    ∀ name,
      (∀ c ∈ full.visible, c.name = name → c.key ∈ revived →
        ∀ d ∈ full.visible, d.name = name → d = c) →
      purged.get? name = full.get? name ∧
      (Cookie.isValidName name →
        purged.read? name = full.read? name ∧
        ConsentState.ofValue (purged.read? name) = ConsentState.ofValue (full.read? name)) := by
  intro full purged revived
  have onward : ∀ step ∈ steps.take point, step.isForward := fun step mem =>
    forward step (List.mem_of_mem_take mem)
  have whole := (reachable.run (steps.take point)).isWellFormed
  have whole' := (reachable.purge.run (steps.take point)).isWellFormed
  -- purging leaves the table that is seen as it is, so all that is seen agrees but the order
  have start : jar.purge.table.seen = jar.table.seen := by
    rw [table_purge reachable.isWellFormed.keys]
    exact Table.seen_seen jar.table
  have seen : purged.table.seen = full.table.seen :=
    seen_run_congr reachable.purge reachable start time onward
  have alike : Alike jar.clock revived full purged :=
    (alike_purge jar).run reachable reachable.purge time onward
  have perm : purged.visible.Perm full.visible := perm_visible whole' whole seen
  refine ⟨alike.clock, perm, perm.length_eq, alike.visible, ?_, ?_⟩
  · intro none
    have same : purged.visible = full.visible := by
      have order := alike.visible
      rw [List.filter_eq_self.2 fun c hc => decide_eq_true (none c (perm.mem_iff.1 hc)),
        List.filter_eq_self.2 fun c hc => decide_eq_true (none c hc)] at order
      exact order
    rw [header, header, same]
  · intro name alone
    have found : purged.get? name = full.get? name := by
      rw [get?_eq_find?_visible, get?_eq_find?_visible]
      apply find?_eq_of_perm perm alike.visible
      intro c hc named back d hd named'
      exact alone c hc (of_decide_eq_true named) (by simpa using back) d hd
        (of_decide_eq_true named')
    refine ⟨found, fun valid => ?_⟩
    have read : purged.read? name = full.read? name := by
      rw [read?_eq whole' valid, read?_eq whole valid, found]
    exact ⟨read, congrArg ConsentState.ofValue read⟩

/-- The cookie `n` comes back in front of `m`, or behind it after purging; either way it is read. -/
theorem purge_reorders_revived_alone :
    let jar := (empty Instant.epoch).run
      [.assign "n=1; path=/a; max-age=1", .assign "m=2", .advance (.ofSeconds 1)]
    let steps : List Step := [.assign "n=3; path=/a"]
    jar.revived jar.clock [] steps = [("n", "/a")] ∧ (jar.run steps).header = "n=3; m=2" ∧
      (jar.purge.run steps).header = "m=2; n=3" ∧ (jar.purge.run steps).read? "n" = some "3" := by
  intro jar steps
  have reachable : jar.Reachable := Reachable.run (.empty Instant.epoch) _
  have forward : ∀ step ∈ steps, step.isForward := by decide
  have purging := purge_reorders_revived reachable (by decide) forward 1
  have read := (purging.2.2.2.2.2 "n" (by decide)).2 (by decide)
  exact ⟨by decide, by decide, by decide, read.1.trans (by decide +kernel)⟩

/-- Purging is seen where a cookie comes back and another one has its name. It is also seen where
time falls back from the leap second behind the last instant, as a cookie may not have expired then
any more. -/
theorem purge_seen :
    let steps : List Step := [.assign "n=3; path=/a"]
    let jar := (empty Instant.epoch).run
      [.assign "n=1; path=/a; max-age=1", .assign "n=2; path=/b", .advance (.ofSeconds 1)]
    let later : List Step := [.advance (.ofSeconds 1)]
    let late := (empty Instant.epoch).run
      [.assign "a=1; expires=31 Dec 262142 23:59:60 GMT", .setClock Instant.lastLeap]
    (jar.Reachable ∧ (∀ step ∈ steps, step.isForward) ∧
      (jar.run steps).header = "n=3; n=2" ∧ (jar.purge.run steps).header = "n=2; n=3" ∧
      (jar.run steps).read? "n" = some "3" ∧ (jar.purge.run steps).read? "n" = some "2") ∧
    late.Reachable ∧ (∀ step ∈ later, step.isForward) ∧
      (late.run later).header = "a=1" ∧ (late.purge.run later).header = "" := by
  intro steps jar later late
  refine ⟨⟨Reachable.run (.empty Instant.epoch) _, by decide, by decide, by decide, by decide +kernel,
    by decide +kernel⟩, Reachable.run (.empty Instant.epoch) _, by decide, ?_, ?_⟩
  · decide +kernel
  · decide +kernel

end CookieConsent.Jar
