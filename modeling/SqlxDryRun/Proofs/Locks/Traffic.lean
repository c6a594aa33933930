import SqlxDryRun.Proofs.Locks

/-!
# Comings and goings at the locks

Any number of requests are made, granted, given back and given up, in any order.  What each of them
does is cut into the steps between which others may do something: a holder gives its lock back, and
only later looks after the table; a request that is not granted may be given up at any time.

* `Room` is a table of locks together with the holders that have not looked after it yet, and
  `Event` is what may happen in it next.
* `Room.after?` is the room after given events.  `exists_after?_drop` says that whoever goes away
  does it by such events.

A request may overtake another one on its way to the lock (`Event.overtakes`), so nothing here rests
on locks being fair: all that is asked of them is that they have one holder at a time.

Main statement: `Room.exclusive`.
-/

namespace SqlxDryRun.Locks

variable {l : Locks}

/-! ## Overtaking -/

/-- The requests, with the one at a place behind the next one.  Nobody overtakes the holder of the
lock that it wants. -/
def overtakeAt : (place : Nat) → List LockRequest → List LockRequest
  | 0, a :: b :: rest => if a.granted && a.lock == b.lock then a :: b :: rest else b :: a :: rest
  | place + 1, a :: rest => a :: overtakeAt place rest
  | _, requests => requests

/-- The locks after one request has overtaken another one. -/
def overtake (l : Locks) (place : Nat) : Locks :=
  { l with requests := overtakeAt place l.requests }

/-- Either nothing changes, or two neighbours change places, and the first of them does not hold the
lock of the second. -/
theorem overtakeAt_cases (place : Nat) (requests : List LockRequest) :
    overtakeAt place requests = requests ∨
      ∃ before a b after, requests = before ++ a :: b :: after ∧
        overtakeAt place requests = before ++ b :: a :: after ∧
        (a.lock = b.lock → a.granted = false) := by
  fun_induction overtakeAt place requests with
  | case1 a b rest hheld => exact Or.inl rfl
  | case2 a b rest hfree =>
      refine Or.inr ⟨[], a, b, rest, rfl, rfl, fun hlock => ?_⟩
      simpa [hlock] using hfree
  | case3 place a rest ih =>
      rcases ih with h | ⟨before, b, c, after, hrest, hover, hfree⟩
      · exact Or.inl (by rw [h])
      · exact Or.inr ⟨a :: before, b, c, after, by rw [hrest]; rfl, by rw [hover]; rfl, hfree⟩
  | case4 => exact Or.inl rfl

theorem overtakeAt_perm (place : Nat) (requests : List LockRequest) :
    (overtakeAt place requests).Perm requests := by
  fun_induction overtakeAt place requests with
  | case1 a b rest hheld => exact List.Perm.refl _
  | case2 a b rest hfree => exact List.Perm.swap a b rest
  | case3 place a rest ih => exact ih.cons a
  | case4 => exact List.Perm.refl _

theorem mem_overtake {place : Nat} {r : LockRequest} :
    r ∈ (l.overtake place).requests ↔ r ∈ l.requests :=
  (overtakeAt_perm place l.requests).mem_iff

/-- Whoever holds a lock stays the first one there. -/
theorem WellFormed.isFirst_overtake (h : l.WellFormed) {place : Nat} {r : LockRequest}
    (hr : r ∈ l.requests) (hg : r.granted = true) : (l.overtake place).isFirst r = true := by
  obtain ⟨f, hf, hticket⟩ := isFirst_iff.1 (h.isFirst_of_granted r hr hg)
  obtain rfl : f = r := h.eq_of_ticket (List.mem_of_find?_eq_some hf) hr hticket
  refine isFirst_iff.2 ⟨f, ?_, rfl⟩
  show (overtakeAt place l.requests).find? _ = some f
  rcases overtakeAt_cases place l.requests with hsame | ⟨before, a, b, after, hreqs, hover, hfree⟩
  · rw [hsame, hf]
  · rw [hreqs, List.find?_append] at hf
    rw [hover, List.find?_append]
    cases hbefore : before.find? fun other => other.lock == f.lock with
    | some x => rw [hbefore] at hf; exact hf
    | none =>
        rw [hbefore, Option.none_or] at hf
        rw [Option.none_or]
        by_cases ha : a.lock = f.lock
        · -- then the first of the two is the holder, and the second wants another lock
          obtain rfl : a = f := by simpa [ha] using hf
          have hb : b.lock ≠ a.lock := fun hb => by simp [hfree hb.symm] at hg
          simp [hb]
        · by_cases hb : b.lock = f.lock <;> simp_all

theorem wellFormed_overtake (h : l.WellFormed) (place : Nat) : (l.overtake place).WellFormed where
  ticket_lt := fun r hr => h.ticket_lt r (mem_overtake.1 hr)
  tickets_nodup :=
    ((overtakeAt_perm place l.requests).map LockRequest.ticket).nodup_iff.2 h.tickets_nodup
  lock_lt := h.lock_lt
  key_eq := h.key_eq
  in_table := fun r hr => h.in_table r (mem_overtake.1 hr)
  isFirst_of_granted := fun _ hr hg => h.isFirst_overtake (mem_overtake.1 hr) hg

/-! ## Events -/

/-- A table of locks, and the documents of the holders that have given their locks back and have not
looked after the table yet. -/
structure Room where
  locks : Locks
  leaving : List Path
deriving Repr

/-- What may happen next. -/
inductive Event where
  /-- A request is made. -/
  | asks (p : Path)
  /-- A request is granted if it has come to the lock first. -/
  | polls (ticket : Nat)
  /-- A request comes to the lock before the one that stands at a place in front of it. -/
  | overtakes (place : Nat)
  /-- A holder gives its lock back. -/
  | leaves (r : LockRequest)
  /-- A holder that has given its lock back looks after the table. -/
  | sweeps (p : Path)
  /-- A request that is not granted is given up. -/
  | givesUp (r : LockRequest)
deriving DecidableEq, Repr

namespace Room

/-- Nobody has asked for a lock yet. -/
def empty : Room := ⟨.empty, []⟩

/-- The room after an event, if the event can happen. -/
def next? (room : Room) : Event → Option Room
  | .asks p => some { room with locks := (room.locks.ask p).1 }
  | .polls ticket => some { room with locks := room.locks.poll ticket }
  | .overtakes place => some { room with locks := room.locks.overtake place }
  | .leaves r =>
    if r ∈ room.locks.requests ∧ r.granted = true then
      some ⟨room.locks.leave r.ticket, r.path :: room.leaving⟩
    else none
  | .sweeps p =>
    if p ∈ room.leaving then some ⟨room.locks.sweep p, room.leaving.erase p⟩ else none
  | .givesUp r =>
    if r ∈ room.locks.requests ∧ r.granted = false then
      some { room with locks := room.locks.leave r.ticket }
    else none

/-- The room after some events, the latest first, if each of them could happen. -/
def after? : List Event → Option Room
  | [] => some empty
  | e :: earlier => (after? earlier).bind fun room => room.next? e

end Room

section Rooms

variable {room room' : Room} {events : List Event} {e : Event}

theorem Room.next?_leaves {r : LockRequest} :
    room.next? (.leaves r) = some room' ↔ (r ∈ room.locks.requests ∧ r.granted = true) ∧
      ⟨room.locks.leave r.ticket, r.path :: room.leaving⟩ = room' := by
  rw [next?, Option.ite_none_right_eq_some, Option.some.injEq]

theorem Room.next?_sweeps {p : Path} :
    room.next? (.sweeps p) = some room' ↔ p ∈ room.leaving ∧
      ⟨room.locks.sweep p, room.leaving.erase p⟩ = room' := by
  rw [next?, Option.ite_none_right_eq_some, Option.some.injEq]

theorem Room.next?_givesUp {r : LockRequest} :
    room.next? (.givesUp r) = some room' ↔ (r ∈ room.locks.requests ∧ r.granted = false) ∧
      { room with locks := room.locks.leave r.ticket } = room' := by
  rw [next?, Option.ite_none_right_eq_some, Option.some.injEq]

theorem Room.wellFormed_next? (h : room.locks.WellFormed) (hnext : room.next? e = some room') :
    room'.locks.WellFormed := by
  cases e with
  | asks p =>
      obtain rfl := Option.some.inj hnext
      exact wellFormed_ask h p
  | polls ticket =>
      obtain rfl := Option.some.inj hnext
      exact wellFormed_poll h ticket
  | overtakes place =>
      obtain rfl := Option.some.inj hnext
      exact wellFormed_overtake h place
  | leaves r =>
      obtain ⟨-, rfl⟩ := next?_leaves.1 hnext
      exact wellFormed_leave h r.ticket
  | sweeps p =>
      obtain ⟨-, rfl⟩ := next?_sweeps.1 hnext
      exact wellFormed_sweep h p
  | givesUp r =>
      obtain ⟨-, rfl⟩ := next?_givesUp.1 hnext
      exact wellFormed_leave h r.ticket

/-- What holds at first and is kept by every event holds after any events. -/
theorem Room.after?_induction {I : List Event → Room → Prop} (hempty : I [] .empty)
    (hnext : ∀ events room e room', I events room → room.next? e = some room' →
      I (e :: events) room')
    (h : after? events = some room) : I events room := by
  induction events generalizing room with
  | nil =>
      obtain rfl := Option.some.inj h
      exact hempty
  | cons e earlier ih =>
      obtain ⟨before, hbefore, he⟩ := Option.bind_eq_some_iff.1 h
      exact hnext earlier before e room (ih hbefore) he

theorem Room.wellFormed (h : after? events = some room) : room.locks.WellFormed :=
  after?_induction (I := fun _ room => room.locks.WellFormed) wellFormed_empty
    (fun _ _ _ _ hroom he => wellFormed_next? hroom he) h

theorem Room.after?_cons (h : after? events = some room) (hnext : room.next? e = some room') :
    after? (e :: events) = some room' := by
  rw [after?, h, Option.bind_some, hnext]

/-- Whoever goes away, with a lock or without, does it by events. -/
theorem Room.exists_after?_drop (h : after? events = some room) (ticket : Nat) :
    ∃ more, after? (more ++ events) = some { room with locks := room.locks.drop ticket } := by
  unfold drop
  cases hfind : room.locks.find? ticket with
  | none => exact ⟨[], h⟩
  | some r =>
      have hr : r ∈ room.locks.requests := List.mem_of_find?_eq_some hfind
      have hticket : r.ticket = ticket := by simpa using List.find?_some hfind
      subst hticket
      dsimp only
      cases hg : r.granted with
      | false =>
          exact ⟨[.givesUp r], after?_cons h (next?_givesUp.2 ⟨⟨hr, hg⟩, by simp⟩)⟩
      | true =>
          refine ⟨[.sweeps r.path, .leaves r], after?_cons (after?_cons h
            (next?_leaves.2 ⟨⟨hr, hg⟩, rfl⟩)) (next?_sweeps.2 ⟨List.mem_cons_self, ?_⟩)⟩
          simp

end Rooms

/-! ## A sample -/

namespace Sample

def orders : Path := ⟨true, ["w", "orders.sqlx"]⟩

def customers : Path := ⟨true, ["w", "customers.sqlx"]⟩

/-- Three ask for one document and a fourth one for another.  The third one overtakes the second
one, and then everybody is polled. -/
def busy : List Event :=
  [.polls 3, .polls 2, .polls 1, .overtakes 1, .asks customers, .asks orders, .asks orders,
    .polls 0, .asks orders]

/-- The first request for each of the two documents is granted, and the others wait. -/
def busyRoom : Room :=
  ⟨⟨⟨[(customers.key, 1), (orders.key, 0)]⟩,
    [⟨0, orders, 0, true⟩, ⟨2, orders, 0, false⟩, ⟨1, orders, 0, false⟩, ⟨3, customers, 1, true⟩],
    2, 4⟩, []⟩

theorem after?_busy : Room.after? busy = some busyRoom := rfl

end Sample

/-! ## Main statements -/

/-- **One holder, one lock, and no waiting for others.**  After any events, at most one request for
a document is granted; every request, granted or not, refers to the lock that the table has under
its path, so that requests have the same lock just if they are for the same document; and a request
that is polled is granted unless another request for the same document has come to the lock before
it. -/
theorem Room.exclusive {room : Room} {events : List Event} (h : after? events = some room) :
    (∀ a ∈ room.locks.requests, ∀ b ∈ room.locks.requests, a.granted = true → b.granted = true →
      a.path.key = b.path.key → a = b) ∧
    (∀ r ∈ room.locks.requests, room.locks.table.get? r.path = some r.lock) ∧
    (∀ a ∈ room.locks.requests, ∀ b ∈ room.locks.requests,
      (a.lock = b.lock ↔ a.path.key = b.path.key)) ∧
    ∀ r ∈ room.locks.requests, ((room.locks.poll r.ticket).isGranted r.ticket = true ↔
      room.locks.requests.find? (fun other => other.path.same r.path) = some r) := by
  have hlocks := wellFormed h
  refine ⟨fun a ha b hb hga hgb => hlocks.eq_of_granted ha hb hga hgb, hlocks.in_table,
    fun a ha b hb => hlocks.lock_eq_iff ha hb, fun r hr => ?_⟩
  rw [hlocks.isGranted_poll_iff hr, hlocks.isFirst_iff_find? hr]

/-- In the sample room the holder of `orders` is the only one, the one behind it goes on waiting,
and the holder of `customers` does not wait for either. -/
theorem Room.exclusive_sample :
    after? Sample.busy = some Sample.busyRoom ∧
      (∀ r ∈ Sample.busyRoom.locks.requests, r.granted = true →
        r.path.key = Sample.orders.key → r.ticket = 0) ∧
      (Sample.busyRoom.locks.poll 2).isGranted 2 = false ∧
      (Sample.busyRoom.locks.poll 3).isGranted 3 = true := by
  obtain ⟨hone, -, -, hgranted⟩ := Room.exclusive Sample.after?_busy
  have hholder : ⟨0, Sample.orders, 0, true⟩ ∈ Sample.busyRoom.locks.requests :=
    List.mem_cons_self
  have hwaiter : ⟨2, Sample.orders, 0, false⟩ ∈ Sample.busyRoom.locks.requests :=
    List.mem_cons_of_mem _ List.mem_cons_self
  have hother : ⟨3, Sample.customers, 1, true⟩ ∈ Sample.busyRoom.locks.requests := by decide
  refine ⟨Sample.after?_busy, fun r hr hg hkey => ?_, ?_, ?_⟩
  · rw [hone r hr _ hholder hg rfl hkey]
  · exact Bool.eq_false_iff.2 fun hpolled => absurd ((hgranted _ hwaiter).1 hpolled) (by decide)
  · exact (hgranted _ hother).2 (by decide)

end SqlxDryRun.Locks
