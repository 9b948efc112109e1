import CookieConsent.Proofs.Jar.Reachable
import CookieConsent.Proofs.Time.Expiries
import Mathlib.Data.List.Nodup
import Mathlib.Logic.Function.Basic

/-!
# The jar as a table

A table holds at most one value and one expiry under each name and path. What happens to a jar
happens to its table: a text that is assigned fills or empties the place of one key, and no other.
The cookies of a jar are what its table holds, so nothing is said by a jar beyond its table but the
order of the cookies; and that order only changes at its end, where new keys come, and where a
cookie is taken out.

* `table_run`: the table of a jar after a run is its table after the same run.
* `cookies_write`: the order of the cookies after a write.
* `write_write`, `perm_write_write`: writing one cookie twice, and two cookies in either order.
* `run_refines_table`: the cookies after any run, and what the next assignment does to them.
-/

namespace CookieConsent.Jar

open Time (Instant)

/-! ## Tables -/

/-- Values and expiries under names and paths, and the time. -/
structure Table where
  held : String × String → Option (String × Option Instant)
  clock : Instant

namespace Table

def empty (now : Instant) : Table := ⟨fun _ => none, now⟩

/-- The table after a text is assigned. Nothing changes if the text sets no cookie. If the cookie
has expired, its key holds nothing any more; otherwise it holds the value and the expiry. -/
def assign (table : Table) (text : String) : Table :=
  match Cookie.ofAssignment? table.clock text with
  | none => table
  | some cookie =>
    { table with
      held := Function.update table.held cookie.key
        (if cookie.isExpired table.clock then none else some (cookie.value, cookie.expires)) }

/-- The table after a step. Only assignments and purging change what is held. -/
def after (table : Table) : Step → Table
  | .assign text => table.assign text
  | .set name value days => table.assign (Cookie.assignmentFor name value table.clock days)
  | .advance d => { table with clock := (table.clock.add? d).getD Instant.last }
  | .setClock now => { table with clock := now }
  | .purge =>
    { table with
      held := fun key => (table.held key).filter fun entry => !entry.2.any (· ≤ table.clock) }
  | .restore now => { table with clock := now }

def run (table : Table) (steps : List Step) : Table := steps.foldl after table

end Table

/-- The table of a jar: under each key the first cookie with it. -/
def table (jar : Jar) : Table :=
  ⟨fun key => (jar.cookies.find? (·.key = key)).map fun c => (c.value, c.expires), jar.clock⟩

variable {jar : Jar} {cookie c : Cookie} {cookies : List Cookie} {key : String × String}

/-! ## Finding cookies by their keys -/

/-- After a cookie is put, its key finds it, and every other key finds what it found. -/
theorem find?_key_put (cookie : Cookie) (cookies : List Cookie) (key : String × String) :
    (put cookie cookies).find? (·.key = key) =
      if key = cookie.key then some cookie else cookies.find? (·.key = key) := by
  induction cookies with
  | nil => by_cases same : key = cookie.key <;> simp [put, same, Ne.symm]
  | cons c cookies ih =>
    rw [put]
    -- the new cookie stands at the place of its key, where the old one is not looked at again
    by_cases place : c.key = cookie.key
    · rw [if_pos place, List.find?_cons, List.find?_cons, place]
      by_cases same : key = cookie.key
      · simp [same]
      · simp [same, Ne.symm same]
    · rw [if_neg place, List.find?_cons, List.find?_cons, ih]
      by_cases same : c.key = key
      · simp [same, same ▸ place]
      · simp [same]

theorem find?_key_eq_none (h : key ∉ cookies.map Cookie.key) :
    cookies.find? (·.key = key) = none := by
  rw [List.find?_eq_none]
  intro c hc same
  exact h (List.mem_map.2 ⟨c, hc, by simpa using same⟩)

/-- Where keys are unique, a cookie is found by its own key. -/
theorem find?_key_of_mem (h : (cookies.map Cookie.key).Nodup) (mem : c ∈ cookies) :
    cookies.find? (·.key = c.key) = some c := by
  induction cookies with
  | nil => exact absurd mem List.not_mem_nil
  | cons d cookies ih =>
    obtain ⟨first, rest⟩ := List.nodup_cons.1 h
    rcases List.mem_cons.1 mem with rfl | mem
    · exact List.find?_cons_of_pos (by simp)
    · have other : d.key ≠ c.key := fun same => first (same ▸ List.mem_map_of_mem mem)
      rw [List.find?_cons_of_neg (by simpa using other), ih rest mem]

/-- Where a key stands once, filtering takes its cookie or leaves it, but never uncovers another. -/
theorem find?_key_filter (h : (cookies.map Cookie.key).Nodup) (p : Cookie → Bool)
    (key : String × String) :
    (cookies.filter p).find? (·.key = key) = (cookies.find? (·.key = key)).filter p := by
  induction cookies with
  | nil => rfl
  | cons c cookies ih =>
    obtain ⟨first, rest⟩ := List.nodup_cons.1 h
    -- when the cookie of the key is dropped, no other is found behind it, as keys are unique
    by_cases same : c.key = key
    · rw [List.find?_cons_of_pos (by simpa using same), List.filter_cons]
      split
      · next keeps => simp [same, keeps, Option.filter]
      · next drops =>
        rw [ih rest, find?_key_eq_none (same ▸ first)]
        simp [drops, Option.filter]
    · rw [List.find?_cons_of_neg (by simpa using same), ← ih rest, List.filter_cons]
      split
      · rw [List.find?_cons_of_neg (by simpa using same)]
      · rfl

/-- Where keys are unique, the other keys stand in front of a key and behind it. -/
theorem exists_split (h : (cookies.map Cookie.key).Nodup) (old : key ∈ cookies.map Cookie.key) :
    ∃ front c back, cookies = front ++ c :: back ∧ c.key = key ∧
      (∀ d ∈ front, d.key ≠ key) ∧ ∀ d ∈ back, d.key ≠ key := by
  obtain ⟨c, hc, rfl⟩ := List.mem_map.1 old
  obtain ⟨front, back, rfl⟩ := List.append_of_mem hc
  rw [List.map_append, List.map_cons, List.nodup_append, List.nodup_cons] at h
  obtain ⟨-, ⟨alone, -⟩, apart⟩ := h
  refine ⟨front, c, back, rfl, rfl, ?_, ?_⟩
  · intro d hd same
    exact apart _ (List.mem_map_of_mem hd) _ List.mem_cons_self same
  · intro d hd same
    exact alone (same ▸ List.mem_map_of_mem hd)

/-- Where keys are unique, dropping a key leaves the cookies with other keys. -/
theorem drop_eq_filter (h : (cookies.map Cookie.key).Nodup) (key : String × String) :
    drop key cookies = cookies.filter (·.key ≠ key) := by
  have stays : ∀ part : List Cookie, (∀ d ∈ part, d.key ≠ key) →
      part.filter (·.key ≠ key) = part := by
    intro part ne
    exact List.filter_eq_self.2 fun d hd => decide_eq_true (ne d hd)
  by_cases old : key ∈ cookies.map Cookie.key
  · obtain ⟨front, c, back, rfl, same, front_ne, back_ne⟩ := exists_split h old
    rw [drop_eq front_ne same, List.filter_append, List.filter_cons_of_neg (by simpa using same),
      stays front front_ne, stays back back_ne]
  · have new : ∀ c ∈ cookies, c.key ≠ key := fun c hc same =>
      old (List.mem_map.2 ⟨c, hc, same⟩)
    rw [drop_of_not_mem new, stays cookies new]

/-- Where a key stands once, dropping it leaves none, and every other key finds what it found. -/
theorem find?_key_drop (h : (cookies.map Cookie.key).Nodup) (dropped key : String × String) :
    (drop dropped cookies).find? (·.key = key) =
      if key = dropped then none else cookies.find? (·.key = key) := by
  rw [drop_eq_filter h, find?_key_filter h]
  cases found : cookies.find? (·.key = key) with
  | none => simp
  | some c =>
    have same : c.key = key := by simpa using List.find?_some found
    by_cases gone : key = dropped <;> simp [Option.filter, same, gone]

/-! ## What happens to a jar happens to its table -/

@[simp] theorem clock_table (jar : Jar) : jar.table.clock = jar.clock := rfl

/-- What a key holds is the value and the expiry of the first cookie with it. -/
theorem held_table (jar : Jar) (key : String × String) :
    jar.table.held key = (jar.cookies.find? (·.key = key)).map fun c => (c.value, c.expires) := rfl

/-- Writing a cookie fills the place of its key, or empties it if the cookie has expired. -/
theorem table_write (h : (jar.cookies.map Cookie.key).Nodup) (cookie : Cookie) :
    (jar.write cookie).table =
      { jar.table with
        held := Function.update jar.table.held cookie.key
          (if cookie.isExpired jar.clock then none else some (cookie.value, cookie.expires)) } := by
  rw [table, clock_write]
  congr 1
  funext key
  rw [Function.update_apply, held_table, write]
  cases cookie.isExpired jar.clock with
  | true =>
    rw [if_pos rfl, if_pos rfl, find?_key_drop h]
    split <;> rfl
  | false =>
    rw [if_neg Bool.false_ne_true, if_neg Bool.false_ne_true, find?_key_put]
    split <;> rfl

/-- An assignment does to the table what it does to the jar. -/
theorem table_assign (h : (jar.cookies.map Cookie.key).Nodup) (text : String) :
    (jar.assign text).table = jar.table.assign text := by
  rw [assign, Table.assign, clock_table]
  cases Cookie.ofAssignment? jar.clock text with
  | none => rfl
  | some cookie => exact table_write h cookie

/-- Purging empties the places of the cookies that have expired. -/
theorem table_purge (h : (jar.cookies.map Cookie.key).Nodup) :
    jar.purge.table = jar.table.after .purge := by
  rw [table, Table.after]
  congr 1
  funext key
  rw [purge, visible, find?_key_filter h, held_table]
  cases jar.cookies.find? (·.key = key) with
  | none => rfl
  | some c =>
    have expired : (c.expires.any (· ≤ jar.clock)) = c.isExpired jar.clock := rfl
    rw [Option.map_some, Option.filter_some, Option.filter_some, clock_table, expired]
    cases c.isExpired jar.clock <;> rfl

/-- A step of a jar is a step of its table. -/
theorem table_after (h : jar.Reachable) (step : Step) :
    (jar.after step).table = jar.table.after step := by
  have keys := h.isWellFormed.keys
  cases step with
  | assign text => exact table_assign keys text
  | set name value days => exact table_assign keys _
  | advance d => rfl
  | setClock now => rfl
  | purge => exact table_purge keys
  | restore now =>
    rw [after_restore_of_isShown h.isShown]
    rfl

/-- A run of a jar is a run of its table. -/
theorem table_run (h : jar.Reachable) (steps : List Step) :
    (jar.run steps).table = jar.table.run steps := by
  induction steps generalizing jar with
  | nil => rfl
  | cons step steps ih =>
    rw [run_cons, ih (h.after step), table_after h]
    rfl

/-- The cookies of a jar are what its table holds. -/
theorem mem_cookies_iff (h : (jar.cookies.map Cookie.key).Nodup) :
    c ∈ jar.cookies ↔ jar.table.held c.key = some (c.value, c.expires) := by
  rw [held_table, Option.map_eq_some_iff]
  constructor
  · intro mem
    exact ⟨c, find?_key_of_mem h mem, rfl⟩
  · rintro ⟨d, found, same⟩
    have key : d.key = c.key := by simpa using List.find?_some found
    obtain ⟨name, path⟩ := Prod.mk.inj key
    obtain ⟨value, expires⟩ := Prod.mk.inj same
    have eq : d = c := by
      cases c
      cases d
      simp_all
    exact eq ▸ List.mem_of_find?_eq_some found

/-- Jars with the same table hold the same cookies. -/
theorem perm_of_table_eq {jar' : Jar} (h : (jar.cookies.map Cookie.key).Nodup)
    (h' : (jar'.cookies.map Cookie.key).Nodup) (same : jar.table = jar'.table) :
    jar.cookies.Perm jar'.cookies := by
  rw [List.perm_ext_iff_of_nodup (h.of_map Cookie.key) (h'.of_map Cookie.key)]
  intro c
  rw [mem_cookies_iff h, mem_cookies_iff h', same]

/-! ## The order of the cookies -/

/-- A cookie that is put takes the place of the one with its key, or the last place. -/
theorem put_eq_map (h : (cookies.map Cookie.key).Nodup) (cookie : Cookie) :
    put cookie cookies =
      if cookie.key ∈ cookies.map Cookie.key then
        cookies.map fun c => if c.key = cookie.key then cookie else c
      else cookies ++ [cookie] := by
  split
  · next old =>
    obtain ⟨front, c, back, rfl, same, front_ne, back_ne⟩ := exists_split h old
    have stays : ∀ part : List Cookie, (∀ d ∈ part, d.key ≠ cookie.key) →
        (part.map fun d => if d.key = cookie.key then cookie else d) = part := by
      intro part ne
      exact (List.map_congr_left fun d hd => if_neg (ne d hd)).trans (List.map_id part)
    rw [put_eq front_ne same, List.map_append, List.map_cons, stays front front_ne,
      stays back back_ne, if_pos same]
  · next new =>
    exact put_of_not_mem fun c hc same => new (List.mem_map.2 ⟨c, hc, same⟩)

/-- The cookies after a write, in order: the one with the key taken out if the cookie has expired,
or replaced in its place, or the cookie behind all others. -/
theorem cookies_write (h : (jar.cookies.map Cookie.key).Nodup) (cookie : Cookie) :
    (jar.write cookie).cookies =
      if cookie.isExpired jar.clock then jar.cookies.filter (·.key ≠ cookie.key)
      else if cookie.key ∈ jar.cookies.map Cookie.key then
        jar.cookies.map fun c => if c.key = cookie.key then cookie else c
      else jar.cookies ++ [cookie] := by
  rw [write]
  split
  · exact drop_eq_filter h cookie.key
  · exact put_eq_map h cookie

/-! ## Writing more than once -/

/-- Putting a cookie twice is putting it once. -/
theorem put_put (cookie : Cookie) (cookies : List Cookie) :
    put cookie (put cookie cookies) = put cookie cookies := by
  induction cookies with
  | nil => simp [put]
  | cons c cookies ih =>
    by_cases same : c.key = cookie.key
    · simp [put, same]
    · simp [put, same, ih]

/-- Writing a cookie twice is writing it once. -/
theorem write_write (h : (jar.cookies.map Cookie.key).Nodup) (cookie : Cookie) :
    (jar.write cookie).write cookie = jar.write cookie := by
  cases expired : cookie.isExpired jar.clock with
  | true =>
    have gone : cookie.key ∉ (jar.write cookie).cookies.map Cookie.key := by
      rw [cookies_write h, if_pos expired]
      simp
    rw [write, if_pos (by rw [clock_write]; exact expired),
      drop_of_not_mem fun c hc same => gone (List.mem_map.2 ⟨c, hc, same⟩)]
  | false =>
    rw [write_of_not_isExpired (by rw [clock_write]; exact expired),
      write_of_not_isExpired expired, put_put]

/-- Cookies with different keys can be written in either order: the jar then holds the same cookies.
-/
theorem perm_write_write (h : (jar.cookies.map Cookie.key).Nodup) {one other : Cookie}
    (ne : one.key ≠ other.key) :
    ((jar.write one).write other).cookies.Perm ((jar.write other).write one).cookies := by
  apply perm_of_table_eq (nodup_write (nodup_write h)) (nodup_write (nodup_write h))
  rw [table_write (nodup_write h), table_write h, table_write (nodup_write h), table_write h]
  simp only [clock_write]
  rw [Function.update_comm ne]

/-- Assigning a text twice is assigning it once. -/
theorem assign_assign (h : (jar.cookies.map Cookie.key).Nodup) (text : String) :
    (jar.assign text).assign text = jar.assign text := by
  cases sets : Cookie.ofAssignment? jar.clock text with
  | none => rw [assign_of_eq_none sets, assign_of_eq_none sets]
  | some cookie =>
    have again : Cookie.ofAssignment? (jar.write cookie).clock text = some cookie := by
      rw [clock_write, sets]
    rw [assign_of_eq_some sets, assign_of_eq_some again, write_write h]

/-- **A jar is a table in order.** Whatever happens to a jar that starts empty, which makes all the
jars that there can be (`reachable_iff_run`), no two of its cookies have the same name and path, and
they are exactly what that table holds to which the same happens.

A text that sets no cookie changes nothing when it is assigned. If it sets one that has expired, the
cookie with that key is taken out and the others stay in their order; otherwise the new one takes
the place of the cookie with its key, or the last place if there is none. Assigning a text twice is
assigning it once. Texts that set cookies with different keys can be assigned in either order; only
the order of the cookies may then be another. -/
theorem run_refines_table (start : Instant) (steps : List Step) :
    let jar := (empty start).run steps
    let table := (Table.empty start).run steps
    (jar.cookies.map Cookie.key).Nodup ∧
    jar.clock = table.clock ∧
    (∀ c, c ∈ jar.cookies ↔ table.held c.key = some (c.value, c.expires)) ∧
    (∀ text, Cookie.ofAssignment? jar.clock text = none → jar.assign text = jar) ∧
    (∀ text cookie, Cookie.ofAssignment? jar.clock text = some cookie →
      (jar.assign text).clock = jar.clock ∧
      (jar.assign text).cookies =
        if cookie.isExpired jar.clock then jar.cookies.filter (·.key ≠ cookie.key)
        else if cookie.key ∈ jar.cookies.map Cookie.key then
          jar.cookies.map fun c => if c.key = cookie.key then cookie else c
        else jar.cookies ++ [cookie]) ∧
    (∀ text, (jar.assign text).assign text = jar.assign text) ∧
    ∀ text text' cookie cookie', Cookie.ofAssignment? jar.clock text = some cookie →
      Cookie.ofAssignment? jar.clock text' = some cookie' → cookie.key ≠ cookie'.key →
      ((jar.assign text).assign text').cookies.Perm ((jar.assign text').assign text).cookies := by
  intro jar table
  have reachable : jar.Reachable := reachable_iff_run.2 ⟨start, steps, rfl⟩
  have keys := reachable.isWellFormed.keys
  have same : jar.table = table := table_run (.empty start) steps
  refine ⟨keys, congrArg Table.clock same, ?_, fun _ => assign_of_eq_none, ?_,
    assign_assign keys, ?_⟩
  · intro c
    rw [mem_cookies_iff keys, same]
  · intro text cookie sets
    rw [assign_of_eq_some sets]
    exact ⟨clock_write jar cookie, cookies_write keys cookie⟩
  · intro text text' cookie cookie' sets sets' ne
    -- the time stays, so each text sets the same cookie behind the other
    have later : Cookie.ofAssignment? (jar.write cookie).clock text' = some cookie' := by
      rw [clock_write, sets']
    have later' : Cookie.ofAssignment? (jar.write cookie').clock text = some cookie := by
      rw [clock_write, sets]
    rw [assign_of_eq_some sets, assign_of_eq_some sets', assign_of_eq_some later,
      assign_of_eq_some later']
    exact perm_write_write keys ne

/-- Texts in another order leave the cookies in another order. -/
example :
    let jar := empty Instant.epoch
    ((jar.assign "a=1").assign "b=2").header = "a=1; b=2" ∧
      ((jar.assign "b=2").assign "a=1").header = "b=2; a=1" := by
  decide

end CookieConsent.Jar
