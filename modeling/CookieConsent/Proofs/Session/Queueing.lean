import CookieConsent.Proofs.Session.Batches
import CookieConsent.Storage.Memory

/-!
# What waits is dealt with

Until a session runs, its queue takes events as long as there is room for them, and refuses all
others. Then the session deals with what waits, in the order in which it was sent, and takes no more.
So the outcome of a run is known from the events that were taken, and from those up to the first
with which the page goes away.

* `dispatchAll_eq`: what becomes of events that are sent.
* `queue_accounts`: what becomes of them when the session runs.
-/

namespace CookieConsent.Session

/-! ## Sending -/

/-- How many more events there is room for. -/
def Queue.room (queue : Queue) : Nat := queue.capacity - queue.events.length

/-- Where there is room, an event is taken, and there is less room by one. -/
theorem Queue.push?_of_room {queue : Queue} {room : Nat} (h : queue.room = room + 1)
    (event : Event) :
    ∃ next, queue.push? event = some next ∧ next.events = queue.events ++ [event] ∧
      next.room = room := by
  rw [Queue.room] at h
  refine ⟨{ queue with events := queue.events ++ [event] }, if_pos (by omega), rfl, ?_⟩
  simp only [Queue.room, List.length_append, List.length_singleton]
  omega

/-- A full queue refuses every event. -/
theorem Queue.push?_of_full {queue : Queue} (h : queue.room = 0) (event : Event) :
    queue.push? event = none := by
  rw [Queue.room] at h
  exact if_neg (by omega)

/-- What becomes of events that are sent to a queue with room for some of them. -/
def deliveries (room : Nat) (sent : List Event) : List (Event × Delivery) :=
  sent.mapIdx fun i event => (event, if i < room then .queued else .full)

/-- The first event is delivered where there is room. -/
theorem deliveries_cons (room : Nat) (event : Event) (sent : List Event) :
    deliveries (room + 1) (event :: sent) = (event, .queued) :: deliveries room sent := by
  simp [deliveries, List.mapIdx_cons]

/-- Without room nothing is delivered, however much is sent. -/
theorem deliveries_zero_cons (event : Event) (sent : List Event) :
    deliveries 0 (event :: sent) = (event, .full) :: deliveries 0 sent := by
  simp [deliveries, List.mapIdx_cons]

/-- The events that were taken, of those that were sent. -/
def taken (log : List (Event × Delivery)) : List Event :=
  (log.filter fun entry => entry.2 = .queued).map Prod.fst

/-- The events that find room are taken. -/
theorem taken_deliveries (room : Nat) (sent : List Event) :
    taken (deliveries room sent) = sent.take room := by
  induction sent generalizing room with
  | nil => simp [deliveries, taken]
  | cons event sent ih =>
    cases room with
    | zero =>
      rw [deliveries_zero_cons, taken, List.filter_cons_of_neg (by simp), ← taken, ih,
        List.take_zero, List.take_zero]
    | succ room =>
      rw [deliveries_cons, taken, List.filter_cons_of_pos (by simp), List.map_cons, ← taken, ih,
        List.take_succ_cons]

variable {σ : Type} [Storage σ] {session : Session σ}

/-- Sends events to the page, one behind another: the session afterwards, and what became of each
event. -/
def dispatchAll (session : Session σ) : List Event → Session σ × List (Event × Delivery)
  | [] => (session, [])
  | event :: events =>
    let (next, delivery) := session.dispatch event
    let (last, log) := next.dispatchAll events
    (last, (event, delivery) :: log)

omit [Storage σ] in
/-- Of the events that are sent, those that find room wait in their order; the others are refused
and change nothing. -/
theorem dispatchAll_eq {queue : Queue} (h : session.queue = some queue) (sent : List Event) :
    ∃ waiting : Queue, waiting.events = queue.events ++ sent.take queue.room ∧
      session.dispatchAll sent =
        ({ session with queue := some waiting }, deliveries queue.room sent) := by
  -- induction on what is sent, for every queue, as each event that is taken changes it
  induction sent generalizing session queue with
  | nil =>
    refine ⟨queue, by simp, ?_⟩
    rw [← h]
    rfl
  | cons event sent ih =>
    cases room : queue.room with
    | zero =>
      have refused : session.dispatch event = (session, .full) := by
        rw [dispatch, h]
        dsimp only
        rw [Queue.push?_of_full room]
      obtain ⟨waiting, events, rest⟩ := ih h
      rw [room] at events rest
      refine ⟨waiting, events, ?_⟩
      rw [dispatchAll, refused]
      dsimp only
      rw [rest, deliveries_zero_cons]
    | succ room =>
      obtain ⟨next, push, events, left⟩ := Queue.push?_of_room room event
      have accepted : session.dispatch event = ({ session with queue := some next }, .queued) := by
        rw [dispatch, h]
        dsimp only
        rw [push]
      obtain ⟨waiting, events', rest⟩ :=
        @ih { session with queue := some next } next rfl
      rw [left] at events' rest
      refine ⟨waiting, ?_, ?_⟩
      · rw [events', events, List.append_assoc, List.take_succ_cons]
        rfl
      · rw [dispatchAll, accepted]
        dsimp only
        rw [rest, deliveries_cons]

/-! ## Running -/

/-- **Every event that is taken is dealt with once.** With room for at least one event, a session can
be opened on any banner. Whatever is then sent to it before it runs, as many events as there is room
for are taken, the first ones, and all others are refused. The run deals with the events that were
taken, in their order, up to the first with which the page goes away, and with nothing else; its
report counts as many events. Afterwards every event is refused.

Events that do not end the page can be dealt with in two batches, in any session: the second run goes
on where the first has led, with the same session in the end, and the reports add up. The decision is
that of the second run if a click counted in it. -/
theorem queue_accounts (banner : Banner) (storage : σ) {capacity : Nat} (room : 0 < capacity)
    (sent : List Event) :
    ∃ session, make banner storage capacity = .ok session ∧
      (let opened := (session.dispatchAll sent).1
       let log := (session.dispatchAll sent).2
       let consumed := upToUnload (taken log)
       log = (sent.mapIdx fun i event => (event, if i < capacity then .queued else .full)) ∧
       taken log = sent.take capacity ∧
       opened.run = consumed.foldl (fun state event => state.1.handle state.2 event)
         ({ session with queue := none }, {}) ∧
       opened.run.2.handled + opened.run.2.ignored = consumed.length ∧
       ∀ event, opened.run.1.dispatch event = (opened.run.1, .closed)) ∧
      ∀ (session : Session σ) (front back : List Event), .unload ∉ front ++ back →
        let first := session.runOn front
        let second := first.1.runOn back
        session.runOn (front ++ back) = (second.1,
          { shown := first.2.shown || second.2.shown
            decision := if first.1.answersOn back = [] then first.2.decision else second.2.decision
            handled := first.2.handled + second.2.handled
            ignored := first.2.ignored + second.2.ignored
            storageErrors := first.2.storageErrors ++ second.2.storageErrors }) := by
  have opens : make banner storage capacity =
      .ok { banner, storage, queue := some ⟨capacity, [], room⟩, isReady := false } := by
    rw [make, Queue.ofCapacity?, dif_pos room]
  refine ⟨_, opens, ?_, ?_⟩
  · intro opened log consumed
    -- the session is opened with an empty queue, so the room is its capacity
    obtain ⟨waiting, events, sending⟩ := @dispatchAll_eq σ
      { banner, storage, queue := some ⟨capacity, [], room⟩, isReady := false } _ rfl sent
    have log_eq : log = deliveries capacity sent := congrArg Prod.snd sending
    have opened_eq : opened = _ := congrArg Prod.fst sending
    have taken_eq : taken log = sent.take capacity := by rw [log_eq, taken_deliveries]
    have run_eq : opened.run = consume { banner, storage, queue := none, isReady := false } {}
        (taken log) := by
      rw [run, runOn, opened_eq, Option.elim_some, events, taken_eq]
      rfl
    refine ⟨log_eq, taken_eq, run_eq.trans (consume_eq_foldl _ _ _), ?_, ?_⟩
    · rw [run_eq, ← Report.total, total_consume]
      exact Nat.zero_add _
    · intro event
      rw [dispatch, run_eq, queue_consume]
  · intro session front back stays first second
    rw [runOn_append fun mem => stays (List.mem_append_left back mem)]
    simp only [Report.add, List.isEmpty_iff]
    rfl

/-- With room for three events, the fourth is refused, and the click behind `unload` is not dealt
with; a click behind `ready` counts alike in the same run and in a second one. -/
theorem queue_accounts_for_three :
    let banner : Banner := ⟨{}, Jar.empty Time.Instant.epoch, {}⟩
    ∃ session : Session MemoryStorage, make banner ⟨none⟩ 3 = .ok session ∧
      (let opened := session.dispatchAll [.ready, .unload, .click .accept, .ready]
       opened.2 = [(.ready, .queued), (.unload, .queued), (.click .accept, .queued),
         (.ready, .full)] ∧
       upToUnload (taken opened.2) = [.ready, .unload] ∧
       opened.1.run.2.handled + opened.1.run.2.ignored = 2) ∧
      (session.runOn [.ready, .click .accept]).1 =
        ((session.runOn [.ready]).1.runOn [.click .accept]).1 := by
  intro banner
  obtain ⟨session, opens, ⟨log, took, -, total, -⟩, batches⟩ :=
    queue_accounts banner (⟨none⟩ : MemoryStorage) (by decide : 0 < 3)
      [.ready, .unload, .click .accept, .ready]
  refine ⟨session, opens, ⟨log, ?_, ?_⟩, ?_⟩
  · rw [took]
    decide
  · rw [total, took]
    decide
  · have apart := batches session [.ready] [.click .accept] (by decide)
    exact congrArg (fun outcome => outcome.1) apart

end CookieConsent.Session
