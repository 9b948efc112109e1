import CookieConsent.Cookie.Assignment
import CookieConsent.Cookie.Entry

/-!
# The jar

The cookies of one visitor, in the order in which they were first written, and the time that the
jar goes by. Cookies that have expired stay until they are purged or written again; nobody sees
them.

* `put_eq`, `drop_eq`: writing and deleting touch the first cookie with the key and no other.
-/

namespace CookieConsent

open Time (Duration Instant)

/-- A visitor's cookies and the time. -/
structure Jar where
  cookies : List Cookie
  clock : Instant
deriving DecidableEq, Repr

namespace Jar

def empty (now : Instant) : Jar := ⟨[], now⟩

/-! ## Looking -/

/-- The cookies that have not expired. -/
def visible (jar : Jar) : List Cookie := jar.cookies.filter fun c => !c.isExpired jar.clock

/-- The first cookie with a name, of those that have not expired. -/
def get? (jar : Jar) (name : String) : Option Cookie :=
  jar.cookies.find? fun c => c.name = name && !c.isExpired jar.clock

/-- How many cookies have not expired. -/
def size (jar : Jar) : Nat := jar.visible.length

def isEmpty (jar : Jar) : Bool := jar.size = 0

/-- All cookies as a page sees them. -/
def header (jar : Jar) : String :=
  "; ".intercalate (jar.visible.map fun c => c.name ++ "=" ++ c.value)

/-- The value that a page reads under a name. -/
def read? (jar : Jar) (name : String) : Option String := Cookie.read? jar.header name

/-! ## Writing -/

/-- Puts a cookie in the place of the first one with its key, or behind all others. -/
def put (cookie : Cookie) : List Cookie → List Cookie
  | [] => [cookie]
  | c :: cookies => if c.key = cookie.key then cookie :: cookies else c :: put cookie cookies

/-- Takes out the first cookie with a key. -/
def drop (key : String × String) (cookies : List Cookie) : List Cookie :=
  cookies.eraseP fun c => c.key = key

/-- The jar after a cookie is written. To write one that has expired is to delete it. -/
def write (jar : Jar) (cookie : Cookie) : Jar :=
  if cookie.isExpired jar.clock then { jar with cookies := drop cookie.key jar.cookies }
  else { jar with cookies := put cookie jar.cookies }

/-- The jar after a page assigns a text. A text that sets no cookie changes nothing. -/
def assign (jar : Jar) (text : String) : Jar :=
  match Cookie.ofAssignment? jar.clock text with
  | some cookie => jar.write cookie
  | none => jar

/-- The jar after a value is stored under a name for some days. -/
def set (jar : Jar) (name value : String) (days : UInt32) : Jar :=
  jar.assign (Cookie.assignmentFor name value jar.clock days)

/-- The jar without the cookies that have expired. -/
def purge (jar : Jar) : Jar := { jar with cookies := jar.visible }

/-! ## Time -/

def setClock (jar : Jar) (now : Instant) : Jar := { jar with clock := now }

/-- The jar some time later, or earlier when the duration is negative. If that is out of range, it
is the last instant of all. -/
def advance (jar : Jar) (d : Duration) : Jar :=
  jar.setClock ((jar.clock.add? d).getD Instant.last)

/-! ## Reading off what writing does -/

/-- A cookie takes the place of the first one with its key. -/
theorem put_eq {cookie c : Cookie} {front back : List Cookie}
    (front_ne : ∀ d ∈ front, d.key ≠ cookie.key) (h : c.key = cookie.key) :
    put cookie (front ++ c :: back) = front ++ cookie :: back := by
  induction front with
  | nil => simp [put, h]
  | cons d front ih =>
    have hd : d.key ≠ cookie.key := front_ne d (by simp)
    simp [put, hd, ih fun e he => front_ne e (by simp [he])]

/-- A cookie with a new key goes behind all others. -/
theorem put_of_not_mem {cookie : Cookie} {cookies : List Cookie}
    (h : ∀ c ∈ cookies, c.key ≠ cookie.key) : put cookie cookies = cookies ++ [cookie] := by
  induction cookies with
  | nil => rfl
  | cons c cookies ih =>
    have hc : c.key ≠ cookie.key := h c (by simp)
    simp [put, hc, ih fun d hd => h d (by simp [hd])]

/-- The first cookie with a key is taken out, and the others stay where they are. -/
theorem drop_eq {key : String × String} {c : Cookie} {front back : List Cookie}
    (front_ne : ∀ d ∈ front, d.key ≠ key) (h : c.key = key) :
    drop key (front ++ c :: back) = front ++ back := by
  induction front with
  | nil => simp [drop, h]
  | cons d front ih =>
    have hd : d.key ≠ key := front_ne d (by simp)
    have := ih fun e he => front_ne e (by simp [he])
    simp [drop, hd] at this ⊢
    exact this

/-- Nothing is taken out where no cookie has the key. -/
theorem drop_of_not_mem {key : String × String} {cookies : List Cookie}
    (h : ∀ c ∈ cookies, c.key ≠ key) : drop key cookies = cookies := by
  unfold drop
  rw [List.eraseP_of_forall_not]
  intro c hc
  simpa using h c hc

end Jar

end CookieConsent
