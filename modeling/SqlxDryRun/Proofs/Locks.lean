import Mathlib.Data.List.Nodup
import SqlxDryRun.Locks

/-!
# What the table of locks keeps

`Locks.WellFormed` collects what holds of the table and its requests at any time: tickets and locks
are used once, every request refers to the lock that the table has under its path, and only the
oldest request for a lock is granted.  Each of the operations keeps it (`wellFormed_ask` and so on),
however they are mixed.

Two consequences carry the rest.  At most one request for a document is granted (`eq_of_granted`),
and a request for a document that nobody else asked for is granted at once
(`isGranted_poll_ask`).
-/

namespace SqlxDryRun.Locks

/-! ## The oldest request -/

theorem isFirst_iff {l : Locks} {r : LockRequest} :
    l.isFirst r = true ↔
      ∃ f, l.requests.find? (fun other => other.lock == r.lock) = some f ∧ f.ticket = r.ticket := by
  rw [isFirst, Option.any_eq_true]
  simp only [beq_iff_eq]

/-- Only the requests decide which one is the oldest. -/
theorem isFirst_of_requests {l l' : Locks} (h : l'.requests = l.requests) (r : LockRequest) :
    l'.isFirst r = l.isFirst r := by
  rw [isFirst, isFirst, h]

/-- Two oldest requests for one lock are one request. -/
theorem ticket_eq_of_isFirst {l : Locks} {a b : LockRequest} (ha : l.isFirst a = true)
    (hb : l.isFirst b = true) (hlock : a.lock = b.lock) : a.ticket = b.ticket := by
  obtain ⟨f, hf, hfa⟩ := isFirst_iff.1 ha
  obtain ⟨g, hg, hgb⟩ := isFirst_iff.1 hb
  rw [hlock, hg] at hf
  rw [← hfa, ← hgb, Option.some.inj hf]

/-! ## The invariant -/

/-- What holds of a table of locks and its requests at any time. -/
structure WellFormed (l : Locks) : Prop where
  /-- A ticket was given out before. -/
  ticket_lt : ∀ r ∈ l.requests, r.ticket < l.nextTicket
  /-- No two requests have the same ticket. -/
  tickets_nodup : (l.requests.map LockRequest.ticket).Nodup
  /-- A lock was made before. -/
  lock_lt : ∀ p lock, l.table.get? p = some lock → lock < l.nextLock
  /-- No two documents have the same lock. -/
  key_eq : ∀ p q lock, l.table.get? p = some lock → l.table.get? q = some lock → p.key = q.key
  /-- A request refers to the lock that stands in the table. -/
  in_table : ∀ r ∈ l.requests, l.table.get? r.path = some r.lock
  /-- Nobody is granted a lock before those who asked earlier have left. -/
  isFirst_of_granted : ∀ r ∈ l.requests, r.granted = true → l.isFirst r = true

theorem wellFormed_empty : empty.WellFormed where
  ticket_lt := by simp [empty]
  tickets_nodup := List.nodup_nil
  lock_lt := by simp [empty]
  key_eq := by simp [empty]
  in_table := by simp [empty]
  isFirst_of_granted := by simp [empty]

variable {l : Locks}

/-- A ticket names one request. -/
theorem WellFormed.eq_of_ticket (h : l.WellFormed) {a b : LockRequest} (ha : a ∈ l.requests)
    (hb : b ∈ l.requests) (ht : a.ticket = b.ticket) : a = b :=
  List.inj_on_of_nodup_map h.tickets_nodup ha hb ht

/-- Requests for one document refer to one lock. -/
theorem WellFormed.lock_eq (h : l.WellFormed) {a b : LockRequest} (ha : a ∈ l.requests)
    (hb : b ∈ l.requests) (hkey : a.path.key = b.path.key) : a.lock = b.lock := by
  have hta := h.in_table a ha
  have htb := h.in_table b hb
  rw [l.table.get?_congr hkey, htb] at hta
  exact (Option.some.inj hta).symm

/-- Requests refer to one lock just if they are for one document. -/
theorem WellFormed.lock_eq_iff (h : l.WellFormed) {a b : LockRequest} (ha : a ∈ l.requests)
    (hb : b ∈ l.requests) : a.lock = b.lock ↔ a.path.key = b.path.key := by
  refine ⟨fun hlock => ?_, h.lock_eq ha hb⟩
  have hta := h.in_table a ha
  rw [hlock] at hta
  exact h.key_eq a.path b.path b.lock hta (h.in_table b hb)

/-- The oldest request for its lock is the oldest one for its document. -/
theorem WellFormed.isFirst_iff_find? (h : l.WellFormed) {r : LockRequest} (hr : r ∈ l.requests) :
    l.isFirst r = true ↔ l.requests.find? (fun other => other.path.same r.path) = some r := by
  have hsame : l.requests.find? (fun other => other.lock == r.lock) =
      l.requests.find? fun other => other.path.same r.path := by
    rw [← List.head?_filter, ← List.head?_filter, List.filter_congr]
    intro other hother
    rw [Bool.eq_iff_iff, beq_iff_eq, Path.same, beq_iff_eq]
    exact h.lock_eq_iff hother hr
  rw [isFirst_iff, hsame]
  constructor
  · rintro ⟨f, hf, hticket⟩
    rw [hf, h.eq_of_ticket (List.mem_of_find?_eq_some hf) hr hticket]
  · exact fun hf => ⟨r, hf, rfl⟩

/-- **At most one request for a document is granted.** -/
theorem WellFormed.eq_of_granted (h : l.WellFormed) {a b : LockRequest} (ha : a ∈ l.requests)
    (hb : b ∈ l.requests) (hga : a.granted = true) (hgb : b.granted = true)
    (hkey : a.path.key = b.path.key) : a = b :=
  h.eq_of_ticket ha hb (ticket_eq_of_isFirst (h.isFirst_of_granted a ha hga)
    (h.isFirst_of_granted b hb hgb) (h.lock_eq ha hb hkey))

/-- The request with a ticket is found by it. -/
theorem WellFormed.find?_eq (h : l.WellFormed) {r : LockRequest} (hr : r ∈ l.requests) :
    l.find? r.ticket = some r := by
  cases hf : l.find? r.ticket with
  | none =>
      rw [find?, List.find?_eq_none] at hf
      exact absurd (beq_self_eq_true r.ticket) (hf r hr)
  | some a =>
      rw [find?] at hf
      have ht : a.ticket = r.ticket := by simpa using List.find?_some hf
      rw [h.eq_of_ticket (List.mem_of_find?_eq_some hf) hr ht]

/-! ## Asking -/

/-- The lock that a request gets: the one in the table, or a new one. -/
def lockOf (l : Locks) (p : Path) : Nat :=
  (l.table.get? p).getD l.nextLock

theorem ask_snd (l : Locks) (p : Path) : (l.ask p).2 = l.nextTicket := by
  rw [ask]

theorem ask_requests (l : Locks) (p : Path) :
    (l.ask p).1.requests = l.requests ++ [⟨l.nextTicket, p, l.lockOf p, false⟩] := by
  cases h : l.table.get? p with
  | none => simp only [ask, lockFor, lockOf, h, Option.getD_none]
  | some lock => simp only [ask, lockFor, lockOf, h, Option.getD_some]

theorem ask_nextTicket (l : Locks) (p : Path) : (l.ask p).1.nextTicket = l.nextTicket + 1 := by
  rw [ask]

/-- Asking puts a lock under the path, and leaves the other entries alone. -/
theorem ask_get? (l : Locks) (p q : Path) :
    (l.ask p).1.table.get? q = if q.key = p.key then some (l.lockOf p) else l.table.get? q := by
  cases h : l.table.get? p with
  | none =>
      simp only [ask, lockFor, lockOf, h, Option.getD_none]
      exact PathMap.get?_insert l.table p q l.nextLock
  | some lock =>
      simp only [ask, lockFor, lockOf, h, Option.getD_some]
      by_cases hk : q.key = p.key
      · rw [if_pos hk, l.table.get?_congr hk, h]
      · rw [if_neg hk]

theorem ask_nextLock (l : Locks) (p : Path) :
    (l.ask p).1.nextLock = if (l.table.get? p).isSome then l.nextLock else l.nextLock + 1 := by
  cases h : l.table.get? p with
  | none => simp [ask, lockFor, h]
  | some lock => simp [ask, lockFor, h]

/-- The oldest request for a lock stays the oldest when another one is made. -/
theorem isFirst_ask (p : Path) {r : LockRequest} (h : l.isFirst r = true) :
    (l.ask p).1.isFirst r = true := by
  obtain ⟨f, hf, ht⟩ := isFirst_iff.1 h
  refine isFirst_iff.2 ⟨f, ?_, ht⟩
  rw [ask_requests, List.find?_append, hf, Option.some_or]

/-- No entry of another document has the lock that a request gets. -/
theorem WellFormed.key_eq_of_lockOf (h : l.WellFormed) {p q : Path}
    (hq : l.table.get? q = some (l.lockOf p)) : q.key = p.key := by
  cases hp : l.table.get? p with
  | none =>
      rw [lockOf, hp, Option.getD_none] at hq
      exact absurd (h.lock_lt q _ hq) (Nat.lt_irrefl _)
  | some lock =>
      rw [lockOf, hp, Option.getD_some] at hq
      exact h.key_eq q p lock hq hp

theorem wellFormed_ask (h : l.WellFormed) (p : Path) : (l.ask p).1.WellFormed where
  ticket_lt := by
    intro r hr
    rw [ask_requests, List.mem_append, List.mem_singleton] at hr
    rw [ask_nextTicket]
    rcases hr with hr | rfl
    · exact Nat.lt_succ_of_lt (h.ticket_lt r hr)
    · exact Nat.lt_succ_self _
  tickets_nodup := by
    rw [ask_requests, List.map_append, List.nodup_append]
    refine ⟨h.tickets_nodup, List.nodup_singleton _, ?_⟩
    intro a ha b hb hab
    obtain ⟨r, hr, rfl⟩ := List.mem_map.1 ha
    rw [List.map_singleton, List.mem_singleton] at hb
    have := h.ticket_lt r hr
    rw [hab, hb] at this
    exact Nat.lt_irrefl _ this
  lock_lt := by
    intro q lock hq
    rw [ask_get?] at hq
    rw [ask_nextLock]
    by_cases hk : q.key = p.key
    · rw [if_pos hk, Option.some.injEq] at hq
      rw [← hq, lockOf]
      cases hp : l.table.get? p with
      | none => rw [Option.isSome_none, if_neg Bool.false_ne_true]; exact Nat.lt_succ_self _
      | some lock' => rw [Option.isSome_some, if_pos rfl]; exact h.lock_lt p lock' hp
    · rw [if_neg hk] at hq
      have := h.lock_lt q lock hq
      split <;> omega
  key_eq := by
    intro q q' lock hq hq'
    rw [ask_get?] at hq hq'
    by_cases hk : q.key = p.key
    · by_cases hk' : q'.key = p.key
      · rw [hk, hk']
      · rw [if_pos hk] at hq
        rw [if_neg hk', ← hq] at hq'
        rw [hk, h.key_eq_of_lockOf hq']
    · by_cases hk' : q'.key = p.key
      · rw [if_pos hk'] at hq'
        rw [if_neg hk, ← hq'] at hq
        rw [hk', h.key_eq_of_lockOf hq]
      · rw [if_neg hk] at hq
        rw [if_neg hk'] at hq'
        exact h.key_eq q q' lock hq hq'
  in_table := by
    intro r hr
    rw [ask_requests, List.mem_append, List.mem_singleton] at hr
    rw [ask_get?]
    rcases hr with hr | rfl
    · by_cases hk : r.path.key = p.key
      · have ht := h.in_table r hr
        rw [l.table.get?_congr hk] at ht
        rw [if_pos hk, lockOf, ht, Option.getD_some]
      · rw [if_neg hk]
        exact h.in_table r hr
    · exact if_pos rfl
  isFirst_of_granted := by
    intro r hr hg
    rw [ask_requests, List.mem_append, List.mem_singleton] at hr
    rcases hr with hr | rfl
    · exact isFirst_ask p (h.isFirst_of_granted r hr hg)
    · exact absurd hg Bool.false_ne_true

/-! ## Polling -/

/-- What polling makes of a request. -/
def granting (l : Locks) (ticket : Nat) (r : LockRequest) : LockRequest :=
  if r.ticket == ticket && l.isFirst r then { r with granted := true } else r

theorem poll_requests (l : Locks) (ticket : Nat) :
    (l.poll ticket).requests = l.requests.map (l.granting ticket) := rfl

theorem granting_ticket (l : Locks) (ticket : Nat) (r : LockRequest) :
    (l.granting ticket r).ticket = r.ticket := by
  unfold granting
  split <;> rfl

theorem granting_lock (l : Locks) (ticket : Nat) (r : LockRequest) :
    (l.granting ticket r).lock = r.lock := by
  unfold granting
  split <;> rfl

theorem granting_path (l : Locks) (ticket : Nat) (r : LockRequest) :
    (l.granting ticket r).path = r.path := by
  unfold granting
  split <;> rfl

/-- Polling takes no grant back. -/
theorem granted_granting (l : Locks) (ticket : Nat) {r : LockRequest} (h : r.granted = true) :
    (l.granting ticket r).granted = true := by
  unfold granting
  split
  · rfl
  · exact h

/-- Polling does not change which request is the oldest. -/
theorem isFirst_poll (l : Locks) (ticket : Nat) (r : LockRequest) :
    (l.poll ticket).isFirst (l.granting ticket r) = l.isFirst r := by
  have hlock : (fun other : LockRequest => other.lock == (l.granting ticket r).lock) ∘
      l.granting ticket = fun other => other.lock == r.lock := by
    funext other
    rw [Function.comp_apply, granting_lock, granting_lock]
  rw [isFirst, isFirst, poll_requests, List.find?_map, hlock, Option.any_map]
  congr 1
  funext first
  rw [granting_ticket, granting_ticket]

theorem wellFormed_poll (h : l.WellFormed) (ticket : Nat) : (l.poll ticket).WellFormed where
  ticket_lt := by
    intro r hr
    rw [poll_requests] at hr
    obtain ⟨a, ha, rfl⟩ := List.mem_map.1 hr
    exact lt_of_eq_of_lt (granting_ticket l ticket a) (h.ticket_lt a ha)
  tickets_nodup := by
    have hmap : (l.poll ticket).requests.map LockRequest.ticket =
        l.requests.map LockRequest.ticket := by
      rw [poll_requests, List.map_map]
      exact List.map_congr_left fun r _ => granting_ticket l ticket r
    rw [hmap]
    exact h.tickets_nodup
  lock_lt := h.lock_lt
  key_eq := h.key_eq
  in_table := by
    intro r hr
    rw [poll_requests] at hr
    obtain ⟨a, ha, rfl⟩ := List.mem_map.1 hr
    show l.table.get? (l.granting ticket a).path = _
    rw [granting_path, granting_lock]
    exact h.in_table a ha
  isFirst_of_granted := by
    intro r hr hg
    rw [poll_requests] at hr
    obtain ⟨a, ha, rfl⟩ := List.mem_map.1 hr
    rw [isFirst_poll]
    unfold granting at hg
    split at hg
    · rename_i hcond
      exact (Bool.and_eq_true_iff.1 hcond).2
    · exact h.isFirst_of_granted a ha hg

theorem exists_of_isGranted {ticket : Nat} (h : l.isGranted ticket = true) :
    ∃ r ∈ l.requests, r.ticket = ticket ∧ r.granted = true := by
  obtain ⟨r, hr, hg⟩ := (Option.any_eq_true ..).1 h
  rw [find?] at hr
  exact ⟨r, List.mem_of_find?_eq_some hr, by simpa using List.find?_some hr, hg⟩

/-- The oldest request for a lock is granted when it is polled. -/
theorem WellFormed.isGranted_poll (h : l.WellFormed) {r : LockRequest} (hr : r ∈ l.requests)
    (hfirst : l.isFirst r = true) : (l.poll r.ticket).isGranted r.ticket = true := by
  have hmem : l.granting r.ticket r ∈ (l.poll r.ticket).requests := by
    rw [poll_requests]
    exact List.mem_map_of_mem hr
  have hgranted : (l.granting r.ticket r).granted = true := by
    rw [granting, if_pos (by rw [beq_self_eq_true, hfirst]; rfl)]
  have hfind := (wellFormed_poll h r.ticket).find?_eq hmem
  rw [granting_ticket] at hfind
  rw [isGranted, hfind, Option.any_some, hgranted]

/-- A request that was polled is granted just if it is the oldest one for its lock. -/
theorem WellFormed.isGranted_poll_iff (h : l.WellFormed) {r : LockRequest} (hr : r ∈ l.requests) :
    (l.poll r.ticket).isGranted r.ticket = true ↔ l.isFirst r = true := by
  refine ⟨fun hgranted => ?_, h.isGranted_poll hr⟩
  obtain ⟨q, hq, hticket, hg⟩ := exists_of_isGranted hgranted
  have hfirst := (wellFormed_poll h r.ticket).isFirst_of_granted q hq hg
  rw [poll_requests] at hq
  obtain ⟨a, ha, rfl⟩ := List.mem_map.1 hq
  rw [granting_ticket] at hticket
  obtain rfl := h.eq_of_ticket ha hr hticket
  rwa [isFirst_poll] at hfirst

/-- **Nobody waits alone.**  A request for a document that nobody else asked for is granted when it
is polled. -/
theorem WellFormed.isGranted_poll_ask (h : l.WellFormed) {p : Path}
    (hfree : ∀ r ∈ l.requests, r.path.key ≠ p.key) :
    ((l.ask p).1.poll (l.ask p).2).isGranted (l.ask p).2 = true := by
  have hmem : ⟨l.nextTicket, p, l.lockOf p, false⟩ ∈ (l.ask p).1.requests := by
    rw [ask_requests]
    exact List.mem_append_right _ (List.mem_singleton_self _)
  have hnone : l.requests.find? (fun other => other.lock == l.lockOf p) = none := by
    rw [List.find?_eq_none]
    intro r hr hlock
    have ht := h.in_table r hr
    rw [eq_of_beq hlock] at ht
    exact hfree r hr (h.key_eq_of_lockOf ht)
  have hfirst : (l.ask p).1.isFirst ⟨l.nextTicket, p, l.lockOf p, false⟩ = true := by
    refine isFirst_iff.2 ⟨_, ?_, rfl⟩
    rw [ask_requests, List.find?_append, hnone, Option.none_or]
    exact List.find?_cons_of_pos (beq_self_eq_true (l.lockOf p))
  rw [ask_snd]
  exact (wellFormed_ask h p).isGranted_poll hmem hfirst

/-! ## Leaving -/

theorem mem_leave {ticket : Nat} {r : LockRequest} :
    r ∈ (l.leave ticket).requests ↔ r ∈ l.requests ∧ r.ticket ≠ ticket := by
  rw [leave, List.mem_filter, bne_iff_ne]

/-- The oldest request for a lock stays the oldest when another one is gone. -/
theorem isFirst_leave {ticket : Nat} {r : LockRequest} (h : l.isFirst r = true)
    (hne : r.ticket ≠ ticket) : (l.leave ticket).isFirst r = true := by
  obtain ⟨f, hf, ht⟩ := isFirst_iff.1 h
  refine isFirst_iff.2 ⟨f, ?_, ht⟩
  obtain ⟨hlock, before, after, hsplit, hbefore⟩ := List.find?_eq_some_iff_append.1 hf
  have hkeep : (f.ticket != ticket) = true := by rw [ht, bne_iff_ne]; exact hne
  simp only [leave, hsplit, List.filter_append, List.filter_cons, hkeep, if_true]
  rw [List.find?_eq_some_iff_append]
  exact ⟨hlock, _, _, rfl, fun a ha => hbefore a (List.mem_of_mem_filter ha)⟩

theorem wellFormed_leave (h : l.WellFormed) (ticket : Nat) : (l.leave ticket).WellFormed where
  ticket_lt := fun r hr => h.ticket_lt r (mem_leave.1 hr).1
  tickets_nodup := h.tickets_nodup.sublist (List.filter_sublist.map LockRequest.ticket)
  lock_lt := h.lock_lt
  key_eq := h.key_eq
  in_table := fun r hr => h.in_table r (mem_leave.1 hr).1
  isFirst_of_granted := fun r hr hg =>
    isFirst_leave (h.isFirst_of_granted r (mem_leave.1 hr).1 hg) (mem_leave.1 hr).2

/-! ## Sweeping -/

theorem sweep_requests (l : Locks) (p : Path) : (l.sweep p).requests = l.requests := by
  unfold sweep
  split
  · rfl
  · split <;> rfl

theorem sweep_counters (l : Locks) (p : Path) :
    (l.sweep p).nextTicket = l.nextTicket ∧ (l.sweep p).nextLock = l.nextLock := by
  unfold sweep
  split
  · exact ⟨rfl, rfl⟩
  · split <;> exact ⟨rfl, rfl⟩

/-- Sweeping removes an entry only if no request refers to its lock. -/
theorem sweep_get? (l : Locks) (p q : Path) :
    (l.sweep p).table.get? q =
      if q.key = p.key ∧ ∀ r ∈ l.requests, l.table.get? p ≠ some r.lock then none
      else l.table.get? q := by
  unfold sweep
  cases hp : l.table.get? p with
  | none =>
      by_cases hk : q.key = p.key
      · have hq : l.table.get? q = none := by rw [l.table.get?_congr hk, hp]
        simp [hq]
      · simp [hk]
  | some lock =>
      by_cases hany : (l.requests.any fun r => r.lock == lock) = true
      · have hused : ¬ ∀ r ∈ l.requests, some lock ≠ some r.lock := by
          obtain ⟨r, hr, hlock⟩ := List.any_eq_true.1 hany
          exact fun hall => hall r hr (by rw [eq_of_beq hlock])
        simp only [hany, if_true, hused, and_false, if_false]
      · have hfree : ∀ r ∈ l.requests, some lock ≠ some r.lock := by
          intro r hr he
          exact hany (List.any_eq_true.2 ⟨r, hr, by simpa using (Option.some.inj he).symm⟩)
        simp only [hany, if_false, PathMap.get?_erase, Bool.false_eq_true]
        by_cases hk : q.key = p.key
        · rw [if_pos hk, if_pos ⟨hk, hfree⟩]
        · rw [if_neg hk, if_neg fun hc => hk hc.1]

theorem get?_of_sweep {p q : Path} {lock : Nat} (h : (l.sweep p).table.get? q = some lock) :
    l.table.get? q = some lock := by
  rw [sweep_get?] at h
  split at h
  · exact absurd h (by simp)
  · exact h

theorem wellFormed_sweep (h : l.WellFormed) (p : Path) : (l.sweep p).WellFormed where
  ticket_lt := by
    intro r hr
    rw [sweep_requests] at hr
    rw [(sweep_counters l p).1]
    exact h.ticket_lt r hr
  tickets_nodup := by
    rw [sweep_requests]
    exact h.tickets_nodup
  lock_lt := by
    intro q lock hq
    rw [(sweep_counters l p).2]
    exact h.lock_lt q lock (get?_of_sweep hq)
  key_eq := fun q q' lock hq hq' => h.key_eq q q' lock (get?_of_sweep hq) (get?_of_sweep hq')
  in_table := by
    intro r hr
    rw [sweep_requests] at hr
    rw [sweep_get?, if_neg]
    · exact h.in_table r hr
    · rintro ⟨hk, hfree⟩
      have ht := h.in_table r hr
      rw [l.table.get?_congr hk] at ht
      exact hfree r hr ht
  isFirst_of_granted := by
    intro r hr hg
    rw [sweep_requests] at hr
    rw [isFirst_of_requests (sweep_requests l p)]
    exact h.isFirst_of_granted r hr hg

end SqlxDryRun.Locks
