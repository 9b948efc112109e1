import CookieConsent.Jar.Basic
import CookieConsent.Proofs.Cookie.Assignments

/-!
# What writing changes

A jar is a table whose keys are the names and paths of its cookies. Writing a cookie touches its own
key only: the cookies of all other keys stay as they are, in their order. No two cookies have the
same key if none had before.

* `filter_key_write`: the frame of a write.
* `IsWellFormed`: what holds of the cookies of every jar, and `IsWellFormed.assign`.
-/

namespace CookieConsent.Jar

open Time (Instant)

variable {jar : Jar} {cookie c : Cookie} {cookies : List Cookie}

/-! ## Putting and dropping -/

/-- Putting a cookie changes none with another key. -/
theorem filter_key_put (cookie : Cookie) (cookies : List Cookie) :
    (put cookie cookies).filter (·.key ≠ cookie.key) = cookies.filter (·.key ≠ cookie.key) := by
  induction cookies with
  | nil => simp [put]
  | cons c cookies ih =>
    rw [put]
    split
    · next same => simp [same]
    · next other =>
      rw [List.filter_cons_of_pos (by simpa using other), ih,
        List.filter_cons_of_pos (by simpa using other)]

/-- Dropping a key changes no cookie with another one. -/
theorem filter_key_drop (key : String × String) (cookies : List Cookie) :
    (drop key cookies).filter (·.key ≠ key) = cookies.filter (·.key ≠ key) := by
  induction cookies with
  | nil => rfl
  | cons c cookies ih =>
    by_cases same : c.key = key
    · rw [drop, List.eraseP_cons_of_pos (by simpa using same),
        List.filter_cons_of_neg (by simpa using same)]
    · rw [drop, List.eraseP_cons_of_neg (by simpa using same),
        List.filter_cons_of_pos (by simpa using same),
        List.filter_cons_of_pos (by simpa using same)]
      exact congrArg (c :: ·) ih

/-- A cookie is put among those that are looked at, if it is one of them and so is the one whose
place it takes. -/
theorem filter_put {p : Cookie → Bool} (looked : p cookie)
    (place : ∀ c ∈ cookies, c.key = cookie.key → p c) :
    (put cookie cookies).filter p = put cookie (cookies.filter p) := by
  induction cookies with
  | nil => simp [put, looked]
  | cons c cookies ih =>
    have rest := ih fun d hd => place d (List.mem_cons_of_mem c hd)
    by_cases same : c.key = cookie.key
    · simp [put, same, looked, place c List.mem_cons_self same]
    · cases seen : p c <;> simp [put, same, seen, rest]

/-- The keys after a cookie was put: its own comes last if it is new. -/
theorem map_key_put (cookie : Cookie) (cookies : List Cookie) :
    (put cookie cookies).map Cookie.key =
      if cookie.key ∈ cookies.map Cookie.key then cookies.map Cookie.key
      else cookies.map Cookie.key ++ [cookie.key] := by
  induction cookies with
  | nil => simp [put]
  | cons c cookies ih =>
    rw [put]
    split
    · next same => simp [same]
    · next other =>
      rw [List.map_cons, ih]
      simp only [List.map_cons, List.mem_cons, Ne.symm other, false_or]
      split <;> rfl

/-- Putting a cookie brings in no other. -/
theorem mem_of_mem_put (h : c ∈ put cookie cookies) : c = cookie ∨ c ∈ cookies := by
  induction cookies with
  | nil => exact .inl (List.mem_singleton.1 h)
  | cons d cookies ih =>
    rw [put] at h
    split at h
    · rcases List.mem_cons.1 h with rfl | h
      · exact .inl rfl
      · exact .inr (List.mem_cons_of_mem d h)
    · rcases List.mem_cons.1 h with rfl | h
      · exact .inr List.mem_cons_self
      · exact (ih h).imp_right (List.mem_cons_of_mem d)

/-- A jar with one cookie for each key keeps it so when a cookie is put. -/
theorem nodup_put (h : (cookies.map Cookie.key).Nodup) :
    ((put cookie cookies).map Cookie.key).Nodup := by
  rw [map_key_put]
  split
  · exact h
  · next new =>
    refine List.nodup_append.2 ⟨h, List.nodup_cons.2 ⟨List.not_mem_nil, List.nodup_nil⟩, ?_⟩
    intro key mem other hother eq
    rw [List.mem_singleton] at hother
    exact new (hother ▸ eq ▸ mem)

/-- A key that no cookie has finds none. -/
theorem filter_key_eq_nil {key : String × String} (h : key ∉ cookies.map Cookie.key) :
    cookies.filter (·.key = key) = [] := by
  rw [List.filter_eq_nil_iff]
  intro c hc same
  exact h (List.mem_map.2 ⟨c, hc, by simpa using same⟩)

/-- With its key, a cookie that was put is alone. -/
theorem filter_key_eq_put (h : (cookies.map Cookie.key).Nodup) :
    (put cookie cookies).filter (·.key = cookie.key) = [cookie] := by
  induction cookies with
  | nil => simp [put]
  | cons c cookies ih =>
    obtain ⟨first, rest⟩ := List.nodup_cons.1 h
    rw [put]
    split
    · next same =>
      rw [List.filter_cons_of_pos (by simp), filter_key_eq_nil (same ▸ first)]
    · next other =>
      rw [List.filter_cons_of_neg (by simpa using other)]
      exact ih rest

/-- Cookies are counted key by key. -/
theorem countP_eq_add (key : String × String) (p : Cookie → Bool) (cookies : List Cookie) :
    cookies.countP p =
      (cookies.filter (·.key = key)).countP p + (cookies.filter (·.key ≠ key)).countP p := by
  induction cookies with
  | nil => rfl
  | cons c cookies ih =>
    rw [List.countP_cons, ih]
    by_cases same : c.key = key
    · rw [List.filter_cons_of_pos (by simpa using same),
        List.filter_cons_of_neg (by simpa using same), List.countP_cons]
      omega
    · rw [List.filter_cons_of_neg (by simpa using same),
        List.filter_cons_of_pos (by simpa using same), List.countP_cons]
      omega

/-! ## Writing -/

@[simp] theorem clock_write (jar : Jar) (cookie : Cookie) : (jar.write cookie).clock = jar.clock := by
  unfold write
  split <;> rfl

/-- A cookie that has not expired is put. -/
theorem write_of_not_isExpired (h : cookie.isExpired jar.clock = false) :
    jar.write cookie = { jar with cookies := put cookie jar.cookies } := by
  rw [write, if_neg (by simp [h])]

/-- Writing a cookie changes none with another key, whether it is stored or deleted. -/
theorem filter_key_write (jar : Jar) (cookie : Cookie) :
    (jar.write cookie).cookies.filter (·.key ≠ cookie.key) =
      jar.cookies.filter (·.key ≠ cookie.key) := by
  unfold write
  split
  · exact filter_key_drop cookie.key jar.cookies
  · exact filter_key_put cookie jar.cookies

/-- Cookies can be looked for among more of them. -/
theorem filter_eq_filter_filter {p q : Cookie → Bool} (h : ∀ c ∈ cookies, p c → q c) :
    cookies.filter p = (cookies.filter q).filter p := by
  rw [List.filter_filter]
  apply List.filter_congr
  intro c hc
  cases looked : p c with
  | false => rfl
  | true => rw [h c hc looked, Bool.and_true]

/-- Writing a cookie changes nothing among cookies with other keys. -/
theorem filter_write_of_ne {p : Cookie → Bool} (ne : ∀ c, p c → c.key ≠ cookie.key) (jar : Jar) :
    (jar.write cookie).cookies.filter p = jar.cookies.filter p := by
  have others (c : Cookie) (looked : p c = true) : decide (c.key ≠ cookie.key) = true :=
    decide_eq_true (ne c looked)
  rw [filter_eq_filter_filter fun c _ => others c, filter_key_write,
    ← filter_eq_filter_filter fun c _ => others c]

/-- A cookie that is there after a write is the one that was written, if it has not expired, or was
there before. -/
theorem mem_of_mem_write (h : c ∈ (jar.write cookie).cookies) :
    c = cookie ∧ cookie.isExpired jar.clock = false ∨ c ∈ jar.cookies := by
  unfold write at h
  split at h
  · exact .inr (List.mem_of_mem_eraseP h)
  · next alive => exact (mem_of_mem_put h).imp_left fun same => ⟨same, Bool.not_eq_true _ ▸ alive⟩

/-- Neither writing nor deleting makes a key stand twice. -/
theorem nodup_write (h : (jar.cookies.map Cookie.key).Nodup) :
    ((jar.write cookie).cookies.map Cookie.key).Nodup := by
  unfold write
  split
  · exact h.sublist (List.eraseP_sublist.map Cookie.key)
  · exact nodup_put h

theorem assign_of_eq_some {text : String} (h : Cookie.ofAssignment? jar.clock text = some cookie) :
    jar.assign text = jar.write cookie := by
  rw [assign, h]

/-- A text that sets no cookie changes nothing. -/
theorem assign_of_eq_none {text : String} (h : Cookie.ofAssignment? jar.clock text = none) :
    jar.assign text = jar := by
  rw [assign, h]

@[simp] theorem clock_assign (jar : Jar) (text : String) : (jar.assign text).clock = jar.clock := by
  rw [assign]
  split
  · exact clock_write jar _
  · rfl

/-! ## What is seen after a write -/

/-- The cookie that is seen under a name although the one with a path has been written: the first
that has not expired, if it stands before the place of the other and has another path. -/
def shadow? (jar : Jar) (name path : String) : Option Cookie :=
  (jar.cookies.find? fun c => c.name = name && (c.path = path || !c.isExpired jar.clock)).filter
    fun c => c.path ≠ path

/-- Nothing is seen instead of a cookie when all others that could be have expired. -/
theorem shadow?_eq_none {name path : String}
    (h : ∀ c ∈ jar.visible, c.name = name → c.path = path) : jar.shadow? name path = none := by
  rw [shadow?, Option.filter_eq_none_iff]
  intro c found
  have mem := List.mem_of_find?_eq_some found
  have which := List.find?_some found
  simp only [Bool.and_eq_true, Bool.or_eq_true, decide_eq_true_eq] at which ⊢
  obtain ⟨same, path | alive⟩ := which
  · simp [path]
  · simp [h c (List.mem_filter.2 ⟨mem, alive⟩) same]

/-- What is found under the name of a cookie that was put. -/
theorem find?_put {now : Instant} (alive : cookie.isExpired now = false) (cookies : List Cookie) :
    (put cookie cookies).find? (fun c => c.name = cookie.name && !c.isExpired now) =
      some (((cookies.find? fun c =>
        c.name = cookie.name && (c.path = cookie.path || !c.isExpired now)).filter
          fun c => c.path ≠ cookie.path).getD cookie) := by
  -- both searches stop at the place of the cookie at the latest, and agree up to there
  induction cookies with
  | nil => simp [put, alive]
  | cons c cookies ih =>
    rw [put]
    by_cases name : c.name = cookie.name
    · by_cases path : c.path = cookie.path
      · have same : c.key = cookie.key := by rw [Cookie.key, Cookie.key, name, path]
        simp [same, name, path, alive, Option.filter]
      · have other : c.key ≠ cookie.key := fun same => path (Prod.mk.inj same).2
        rw [if_neg other]
        cases expired : c.isExpired now with
        | true => simpa [name, path, expired] using ih
        | false => simp [name, path, expired, Option.filter]
    · have other : c.key ≠ cookie.key := fun same => name (Prod.mk.inj same).1
      simpa [other, name] using ih

/-- What is seen under the name of a cookie that was written. -/
theorem get?_write (alive : cookie.isExpired jar.clock = false) :
    (jar.write cookie).get? cookie.name =
      some ((jar.shadow? cookie.name cookie.path).getD cookie) := by
  rw [write_of_not_isExpired alive, get?]
  exact find?_put alive jar.cookies

/-- How many cookies are seen under the name of one that was written: itself and those with other
paths. -/
theorem countP_visible_write (h : (jar.cookies.map Cookie.key).Nodup)
    (alive : cookie.isExpired jar.clock = false) :
    (jar.write cookie).visible.countP (·.name = cookie.name) =
      jar.visible.countP (fun c => c.name = cookie.name ∧ c.path ≠ cookie.path) + 1 := by
  -- with its key the cookie is alone, and with other keys nothing has changed
  rw [visible, List.countP_filter, clock_write, countP_eq_add cookie.key, filter_key_write,
    write_of_not_isExpired alive, filter_key_eq_put h, visible, List.countP_filter,
    List.countP_filter, List.countP_cons, List.countP_nil, alive]
  simp only [Bool.not_false, decide_true, Bool.and_true, if_true, Nat.zero_add, Nat.add_comm 1]
  congr 1
  apply List.countP_congr
  intro c _
  simp only [Bool.and_eq_true, decide_eq_true_eq, Cookie.key, ne_eq, Prod.mk.injEq]
  constructor
  · rintro ⟨⟨name, alive⟩, other⟩
    exact ⟨⟨name, fun path => other ⟨name, path⟩⟩, alive⟩
  · rintro ⟨⟨name, path⟩, alive⟩
    exact ⟨⟨name, alive⟩, fun same => path same.2⟩

/-! ## What holds of every jar -/

/-- A jar as assignments leave it: its cookies can be found in a header, and no two of them have
the same key. -/
structure IsWellFormed (jar : Jar) : Prop where
  cookies : ∀ c ∈ jar.cookies, c.IsWellFormed
  keys : (jar.cookies.map Cookie.key).Nodup

/-- An empty jar is well-formed, as it has no cookie to be anything else. -/
theorem isWellFormed_empty (now : Instant) : (empty now).IsWellFormed :=
  ⟨fun _ h => absurd h List.not_mem_nil, List.nodup_nil⟩

/-- An assignment stores well-formed cookies only, and one for each key. -/
theorem IsWellFormed.assign (h : jar.IsWellFormed) (text : String) :
    (jar.assign text).IsWellFormed := by
  unfold Jar.assign
  split
  · next cookie found =>
    refine ⟨fun c hc => ?_, nodup_write h.keys⟩
    rcases mem_of_mem_write hc with ⟨rfl, -⟩ | hc
    · exact Cookie.isWellFormed_of_ofAssignment? found
    · exact h.cookies c hc
  · exact h

theorem IsWellFormed.setClock (h : jar.IsWellFormed) (now : Instant) :
    (jar.setClock now).IsWellFormed := ⟨h.cookies, h.keys⟩

theorem IsWellFormed.purge (h : jar.IsWellFormed) : jar.purge.IsWellFormed :=
  ⟨fun c hc => h.cookies c (List.mem_filter.1 hc).1,
    h.keys.sublist (List.filter_sublist.map Cookie.key)⟩

end CookieConsent.Jar
