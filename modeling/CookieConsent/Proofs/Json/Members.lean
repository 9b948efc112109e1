import CookieConsent.Json.Shape

/-!
# Fields among the members of an object

Which values are found for the fields of a record. The order of the members does not matter, and
neither do members with other names; a field that is left out is found as such. Nothing is found in an
object that repeats a field, or that has a name without a text.

* `memberNamed?_of_perm`, `memberNamed?_append`: order and other members.
* `fields?_record`: the fields that are found.
* `fields?_of_repeated`, `fields?_of_unnamed`: where none are.
-/

namespace CookieConsent.Json

/-! ## Several values at a time -/

section Several

variable {α β : Type} {f : α → Option β} {as : List α}

/-- Reading all items succeeds when reading each of them does. -/
theorem mapM_eq_some_map {g : α → β} (h : ∀ a ∈ as, f a = some (g a)) :
    as.mapM f = some (as.map g) := by
  induction as with
  | nil => rfl
  | cons a as ih =>
    rw [List.mapM_cons, h a List.mem_cons_self, ih fun b hb => h b (List.mem_cons_of_mem a hb)]
    rfl

/-- Reading all items fails when reading one of them does. -/
theorem mapM_eq_none {a : α} (mem : a ∈ as) (h : f a = none) : as.mapM f = none := by
  induction as with
  | nil => cases mem
  | cons b as ih =>
    rw [List.mapM_cons]
    rcases List.mem_cons.1 mem with rfl | mem
    · rw [h]
      rfl
    · cases f b with
      | none => rfl
      | some c =>
        rw [ih mem]
        rfl

end Several

/-! ## Single members -/

variable {members others : List (String × Json)} {name : String}

/-- A name that is repeated has no value. -/
theorem memberNamed?_of_repeated (h : 1 < (members.map Prod.fst).count name) :
    memberNamed? members name = none := by
  have long : 1 < (members.filter (·.1 = name)).length := by
    rw [List.count, List.countP_map] at h
    rw [← List.countP_eq_length_filter]
    exact h
  unfold memberNamed?
  split
  · next found => simp [found] at long
  · next found => simp [found] at long
  · rfl

/-- The order of the members does not matter. -/
theorem memberNamed?_of_perm {members' : List (String × Json)} (h : members.Perm members')
    (name : String) : memberNamed? members name = memberNamed? members' name := by
  by_cases repeated : 1 < (members.map Prod.fst).count name
  · have repeated' : 1 < (members'.map Prod.fst).count name := by
      rwa [← (h.map Prod.fst).count_eq]
    rw [memberNamed?_of_repeated repeated, memberNamed?_of_repeated repeated']
  · have short : (members.filter (·.1 = name)).length ≤ 1 := by
      rw [List.count, List.countP_map] at repeated
      rw [← List.countP_eq_length_filter]
      exact Nat.le_of_not_lt repeated
    have found := h.filter (·.1 = name)
    -- one member at most has no other order
    have same : members.filter (·.1 = name) = members'.filter (·.1 = name) := by
      generalize members.filter (·.1 = name) = left at short found
      match left with
      | [] => exact found.nil_eq
      | [member] => exact found.singleton_eq
      | _ :: _ :: _ => exact absurd short (by simp)
    rw [memberNamed?, memberNamed?, same]

/-- Members of other names are passed over. -/
theorem memberNamed?_append (h : ∀ member ∈ others, member.1 ≠ name) :
    memberNamed? (members ++ others) name = memberNamed? members name := by
  have passed : others.filter (·.1 = name) = [] :=
    List.filter_eq_nil_iff.2 fun member mem => by simpa using h member mem
  rw [memberNamed?, List.filter_append, passed, List.append_nil, memberNamed?]

/-- A member with another name is passed over. -/
theorem memberNamed?_cons {member : String × Json} (h : member.1 ≠ name) :
    memberNamed? (member :: members) name = memberNamed? members name := by
  rw [memberNamed?, List.filter_cons_of_neg (by simpa using h), memberNamed?]

/-- A member is found under its name, if no other one has it. -/
theorem memberNamed?_cons_self (value : Json) (h : name ∉ members.map Prod.fst) :
    memberNamed? ((name, value) :: members) name = some (some value) := by
  have passed := @memberNamed?_append [(name, value)] members name fun member mem eq =>
    h (eq ▸ List.mem_map_of_mem mem)
  rw [← List.singleton_append, passed, memberNamed?,
    List.filter_cons_of_pos (by simp), List.filter_nil]

/-- That a name is absent is found as well; it is no failure. -/
theorem memberNamed?_of_not_mem (h : name ∉ members.map Prod.fst) :
    memberNamed? members name = some none :=
  @memberNamed?_append [] members name fun _ mem eq => h (eq ▸ List.mem_map_of_mem mem)

/-! ## Fields that are present -/

/-- The members for the fields that are not left out. -/
def present (fields : List (String × Option Json)) : List (String × Json) :=
  fields.filterMap fun field => field.2.map (field.1, ·)

/-- Fields that are left out take their names along, and bring in none. -/
theorem mem_names_of_mem_present {fields : List (String × Option Json)} {name : String}
    (h : name ∈ (present fields).map Prod.fst) : name ∈ fields.map Prod.fst := by
  obtain ⟨member, mem, rfl⟩ := List.mem_map.1 h
  obtain ⟨field, known, made⟩ := List.mem_filterMap.1 mem
  obtain ⟨value, -, rfl⟩ := Option.map_eq_some_iff.1 made
  exact List.mem_map_of_mem known

/-- A field has the value that it was given, and none if it was left out. -/
theorem memberNamed?_present {fields : List (String × Option Json)}
    (nodup : (fields.map Prod.fst).Nodup) {field : String × Option Json} (mem : field ∈ fields) :
    memberNamed? (present fields) field.1 = some field.2 := by
  induction fields with
  | nil => cases mem
  | cons first fields ih =>
    obtain ⟨fresh, distinct⟩ := List.nodup_cons.1 nodup
    have absent : first.1 ∉ (present fields).map Prod.fst :=
      fun mem => fresh (mem_names_of_mem_present mem)
    obtain ⟨name, value⟩ := first
    -- the first field is in front of all others if it was given, and nowhere if it was not
    rcases List.mem_cons.1 mem with rfl | later
    · cases value with
      | none => exact memberNamed?_of_not_mem absent
      | some value => exact memberNamed?_cons_self value absent
    · have other : name ≠ field.1 := fun eq =>
        fresh (show name ∈ _ from eq ▸ List.mem_map_of_mem later)
      cases value with
      | none => exact ih distinct later
      | some value => exact (memberNamed?_cons other).trans (ih distinct later)

/-! ## Records -/

/-- The members of a record have the names that they were given. -/
theorem fields?_record_eq (members : List (String × Json)) (names : List String) (least : Nat) :
    (record members).fields? names least = names.mapM (memberNamed? members) := by
  have named : (members.map fun member => (some member.1, member.2)).mapM
      (fun member : Option String × Json => member.1.map (·, member.2)) = some members := by
    rw [List.mapM_map]
    exact (mapM_eq_some_map (g := id) fun _ _ => rfl).trans (congrArg some (List.map_id members))
  rw [record, fields?, named]
  rfl

/-- The fields of a record are found in an object that gives them in any order, with members of other
names among them. -/
theorem fields?_record {fields : List (String × Option Json)} (nodup : (fields.map Prod.fst).Nodup)
    {members others : List (String × Json)}
    (unknown : ∀ member ∈ others, member.1 ∉ fields.map Prod.fst)
    (perm : members.Perm (present fields ++ others)) (least : Nat) :
    (record members).fields? (fields.map Prod.fst) least = some (fields.map Prod.snd) := by
  rw [fields?_record_eq, List.mapM_map]
  apply mapM_eq_some_map
  intro field mem
  have passed : ∀ member ∈ others, member.1 ≠ field.1 := by
    intro member mem' eq
    exact unknown member mem' (eq ▸ List.mem_map_of_mem mem)
  change memberNamed? members field.1 = _
  rw [memberNamed?_of_perm perm, memberNamed?_append passed, memberNamed?_present nodup mem]

/-- No fields are found in an object in which a name has no text. -/
theorem fields?_of_unnamed {members : List (Option String × Json)}
    (h : none ∈ members.map Prod.fst) (names : List String) (least : Nat) :
    (object members).fields? names least = none := by
  obtain ⟨member, mem, unnamed⟩ := List.mem_map.1 h
  have refused : members.mapM (fun member : Option String × Json => member.1.map (·, member.2)) =
      none := mapM_eq_none mem (by rw [unnamed]; rfl)
  rw [fields?, refused]
  rfl

/-- Members whose names all have texts are those of a record. -/
theorem exists_eq_map_of_named {members : List (Option String × Json)}
    (h : none ∉ members.map Prod.fst) :
    ∃ named : List (String × Json), members = named.map fun member => (some member.1, member.2) := by
  induction members with
  | nil => exact ⟨[], rfl⟩
  | cons member members ih =>
    obtain ⟨first, rest⟩ := not_or.1 (mt List.mem_cons.2 h)
    obtain ⟨named, rfl⟩ := ih rest
    obtain ⟨_ | name, value⟩ := member
    · exact absurd rfl first
    · exact ⟨(name, value) :: named, rfl⟩

/-- No fields are found in an object that repeats the name of one. -/
theorem fields?_of_repeated {names : List String} {name : String} (known : name ∈ names)
    {members : List (Option String × Json)} (h : 1 < (members.map Prod.fst).count (some name))
    (least : Nat) : (object members).fields? names least = none := by
  -- a name without a text spoils the object before any name is looked for
  by_cases unnamed : none ∈ members.map Prod.fst
  · exact fields?_of_unnamed unnamed names least
  · obtain ⟨named, rfl⟩ := exists_eq_map_of_named unnamed
    have repeated : 1 < (named.map Prod.fst).count name := by
      simp only [List.count, List.countP_map] at h ⊢
      exact h
    exact (fields?_record_eq named names least).trans
      (mapM_eq_none known (memberNamed?_of_repeated repeated))

end CookieConsent.Json
