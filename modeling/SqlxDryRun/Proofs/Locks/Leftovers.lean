import Mathlib.Data.List.Dedup
import SqlxDryRun.Proofs.Locks.Traffic

/-!
# Entries that nobody uses

The table should have an entry for a document just as long as someone holds its lock or waits for
it.  A holder that leaves looks after the table, and removes the entry if nobody else refers to its
lock.  A request that is given up does not: if everybody else has left before it, the entry stays.

* `InUse` is a document that someone holds or waits for, and `documents` lists them.
* `givenUpLast` tells of the events whether the last one to go away from a document had given up.

Main statements: `Room.entries_of_quiet` says which entries there are when nobody is leaving, and
`Room.entry_of_unused` that the table may keep an entry that nobody uses.
-/

/-! ## Maps with one entry for a key -/

namespace SqlxDryRun.PathMap

variable {α : Type} {m : PathMap α}

/-- A map that has at most one entry for a key, and only keys of paths. -/
structure Proper (m : PathMap α) : Prop where
  nodup : m.keys.Nodup
  of_path : ∀ k ∈ m.keys, ∃ p : Path, p.key = k

theorem proper_empty : (empty : PathMap α).Proper where
  nodup := List.nodup_nil
  of_path := by simp [keys, empty]

theorem Proper.erase (h : m.Proper) (p : Path) : (m.erase p).Proper where
  nodup := by
    rw [keys_erase]
    exact h.nodup.filter _
  of_path := by
    intro k hk
    rw [keys_erase] at hk
    exact h.of_path k (List.mem_of_mem_filter hk)

theorem Proper.insert (h : m.Proper) (p : Path) (a : α) : (m.insert p a).Proper where
  nodup := by
    rw [keys_insert, List.nodup_cons]
    exact ⟨by simp, h.nodup.filter _⟩
  of_path := by
    intro k hk
    rw [keys_insert, List.mem_cons, List.mem_filter] at hk
    rcases hk with rfl | ⟨hk, -⟩
    · exact ⟨p, rfl⟩
    · exact h.of_path k hk

/-- The size of a proper map is the number of its keys, however they are listed. -/
theorem Proper.size_eq (h : m.Proper) {ks : List Path.Key} (hks : ks.Nodup)
    (hmem : ∀ k, k ∈ m.keys ↔ k ∈ ks) : m.size = ks.length := by
  rw [← length_keys]
  exact ((List.perm_ext_iff_of_nodup h.nodup hks).2 hmem).length_eq

end SqlxDryRun.PathMap

namespace SqlxDryRun.Locks

/-- Someone holds the lock of a document or waits for it. -/
def InUse (l : Locks) (p : Path) : Prop :=
  ∃ r ∈ l.requests, r.path.key = p.key

/-- The documents that someone holds or waits for, each once. -/
def documents (l : Locks) : List Path.Key :=
  (l.requests.map fun r => r.path.key).dedup

/-- Whether the last one that went away from a document had given its request up, and nobody looked
after the table since then.  The latest event comes first. -/
def givenUpLast : List Event → Path → Bool
  | [], _ => false
  | .sweeps q :: earlier, p => !q.same p && givenUpLast earlier p
  | .givesUp r :: earlier, p => r.path.same p || givenUpLast earlier p
  | _ :: earlier, p => givenUpLast earlier p

variable {l : Locks} {room room' : Room} {events : List Event} {e : Event} {p : Path}

/-! ## Documents in use -/

theorem mem_documents : p.key ∈ l.documents ↔ l.InUse p := by
  rw [documents, List.mem_dedup, List.mem_map]
  rfl

/-- A document in use has an entry. -/
theorem WellFormed.isSome_of_inUse (h : l.WellFormed) (hp : l.InUse p) :
    (l.table.get? p).isSome = true := by
  obtain ⟨r, hr, hkey⟩ := hp
  rw [← l.table.get?_congr hkey, h.in_table r hr]
  rfl

theorem inUse_ask (q : Path) : (l.ask q).1.InUse p ↔ l.InUse p ∨ q.key = p.key := by
  simp only [InUse, ask_requests, List.mem_append, List.mem_singleton]
  constructor
  · rintro ⟨r, hr | rfl, hkey⟩
    · exact Or.inl ⟨r, hr, hkey⟩
    · exact Or.inr hkey
  · rintro (⟨r, hr, hkey⟩ | hkey)
    · exact ⟨r, Or.inl hr, hkey⟩
    · exact ⟨_, Or.inr rfl, hkey⟩

theorem inUse_poll (ticket : Nat) : (l.poll ticket).InUse p ↔ l.InUse p := by
  simp only [InUse, poll_requests, List.mem_map, exists_exists_and_eq_and, granting_path]

theorem inUse_overtake (place : Nat) : (l.overtake place).InUse p ↔ l.InUse p := by
  simp only [InUse, mem_overtake]

theorem inUse_sweep (q : Path) : (l.sweep q).InUse p ↔ l.InUse p := by
  simp only [InUse, sweep_requests]

/-- A document that is no longer in use when a request goes away is the document of that request. -/
theorem WellFormed.key_eq_of_leave (h : l.WellFormed) {r : LockRequest} (hr : r ∈ l.requests)
    (hp : l.InUse p) (hleft : ¬ (l.leave r.ticket).InUse p) : r.path.key = p.key := by
  obtain ⟨q, hq, hkey⟩ := hp
  by_cases hticket : q.ticket = r.ticket
  · rwa [h.eq_of_ticket hq hr hticket] at hkey
  · exact absurd ⟨q, mem_leave.2 ⟨hq, hticket⟩, hkey⟩ hleft

/-- Sweeping removes the entry of a document that is not in use. -/
theorem WellFormed.get?_sweep (h : l.WellFormed) {q : Path} (hkey : p.key = q.key)
    (hp : ¬ l.InUse p) : (l.sweep q).table.get? p = none := by
  rw [sweep_get?, if_pos]
  refine ⟨hkey, fun r hr hlock => hp ⟨r, hr, ?_⟩⟩
  rw [hkey]
  exact h.key_eq r.path q r.lock (h.in_table r hr) hlock

/-- The table stays proper when a request is made. -/
theorem proper_ask (h : l.table.Proper) (q : Path) : (l.ask q).1.table.Proper := by
  unfold ask lockFor
  cases l.table.get? q with
  | some lock => exact h
  | none => exact h.insert q l.nextLock

theorem proper_sweep (h : l.table.Proper) (q : Path) : (l.sweep q).table.Proper := by
  unfold sweep
  split
  · exact h
  · split
    · exact h
    · exact h.erase q

/-! ## Entries -/

/-- What events make of the entries. -/
structure Accounted (events : List Event) (room : Room) : Prop where
  wellFormed : room.locks.WellFormed
  proper : room.locks.table.Proper
  /-- An entry that nobody uses is being looked after, or was left by a request that was given up.
  -/
  idle : ∀ p, (room.locks.table.get? p).isSome = true → ¬ room.locks.InUse p →
    (∃ q ∈ room.leaving, q.key = p.key) ∨ givenUpLast events p = true
  /-- Whoever gives up leaves an entry. -/
  left : ∀ p, givenUpLast events p = true → (room.locks.table.get? p).isSome = true

theorem Accounted.next? (h : Accounted events room) (hnext : room.next? e = some room') :
    Accounted (e :: events) room' := by
  have hwell := Room.wellFormed_next? h.wellFormed hnext
  cases e with
  | asks q =>
      obtain rfl := Option.some.inj hnext
      refine ⟨hwell, proper_ask h.proper q, fun p hentry hp => ?_, fun p hgiven => ?_⟩
      · rw [inUse_ask, not_or] at hp
        rw [ask_get?, if_neg (Ne.symm hp.2)] at hentry
        exact h.idle p hentry hp.1
      · rw [ask_get?]
        split
        · rfl
        · exact h.left p hgiven
  | polls ticket =>
      obtain rfl := Option.some.inj hnext
      refine ⟨hwell, h.proper, fun p hentry hp => ?_, h.left⟩
      exact h.idle p hentry fun hp' => hp ((inUse_poll ticket).2 hp')
  | overtakes place =>
      obtain rfl := Option.some.inj hnext
      refine ⟨hwell, h.proper, fun p hentry hp => ?_, h.left⟩
      exact h.idle p hentry fun hp' => hp ((inUse_overtake place).2 hp')
  | leaves r =>
      obtain ⟨⟨hr, -⟩, rfl⟩ := Room.next?_leaves.1 hnext
      refine ⟨hwell, h.proper, fun p hentry hp => ?_, h.left⟩
      by_cases hused : room.locks.InUse p
      · exact Or.inl ⟨r.path, List.mem_cons_self, h.wellFormed.key_eq_of_leave hr hused hp⟩
      · refine (h.idle p hentry hused).imp_left ?_
        rintro ⟨q, hq, hkey⟩
        exact ⟨q, List.mem_cons_of_mem _ hq, hkey⟩
  | sweeps q =>
      obtain ⟨hq, rfl⟩ := Room.next?_sweeps.1 hnext
      refine ⟨hwell, proper_sweep h.proper q, fun p hentry hp => ?_, fun p hgiven => ?_⟩
      · replace hp : ¬ room.locks.InUse p := fun hp' => hp ((inUse_sweep q).2 hp')
        have hkey : p.key ≠ q.key := by
          intro hkey
          rw [show (Room.mk (room.locks.sweep q) _).locks.table.get? p = none from
            h.wellFormed.get?_sweep hkey hp] at hentry
          exact Bool.false_ne_true hentry
        obtain ⟨lock, hlock⟩ := Option.isSome_iff_exists.1 hentry
        have hbefore : (room.locks.table.get? p).isSome = true := by
          rw [get?_of_sweep hlock]
          rfl
        rcases h.idle p hbefore hp with ⟨q', hq', hkey'⟩ | hgiven
        · refine Or.inl ⟨q', (List.mem_erase_of_ne ?_).2 hq', hkey'⟩
          rintro rfl
          exact hkey hkey'.symm
        · refine Or.inr ?_
          rw [givenUpLast, hgiven, Path.same, beq_eq_false_iff_ne.2 (Ne.symm hkey)]
          rfl
      · rw [givenUpLast, Bool.and_eq_true, Bool.not_eq_true', Path.same,
          beq_eq_false_iff_ne] at hgiven
        show ((room.locks.sweep q).table.get? p).isSome = true
        rw [sweep_get?, if_neg fun hc => hgiven.1 hc.1.symm]
        exact h.left p hgiven.2
  | givesUp r =>
      obtain ⟨⟨hr, -⟩, rfl⟩ := Room.next?_givesUp.1 hnext
      refine ⟨hwell, h.proper, fun p hentry hp => ?_, fun p hgiven => ?_⟩
      · by_cases hused : room.locks.InUse p
        · refine Or.inr ?_
          rw [givenUpLast, Path.same, beq_iff_eq.2 (h.wellFormed.key_eq_of_leave hr hused hp)]
          rfl
        · refine (h.idle p hentry hused).imp_right fun hgiven => ?_
          rw [givenUpLast, hgiven, Bool.or_true]
      · rw [givenUpLast, Bool.or_eq_true, Path.same, beq_iff_eq] at hgiven
        rcases hgiven with hkey | hgiven
        · exact h.wellFormed.isSome_of_inUse ⟨r, hr, hkey⟩
        · exact h.left p hgiven

/-- Which entries there are when nobody is leaving. -/
theorem Accounted.isSome_iff (h : Accounted events room) (hquiet : room.leaving = []) (p : Path) :
    (room.locks.table.get? p).isSome = true ↔
      room.locks.InUse p ∨ givenUpLast events p = true := by
  constructor
  · intro hentry
    by_cases hp : room.locks.InUse p
    · exact Or.inl hp
    · rcases h.idle p hentry hp with ⟨q, hq, -⟩ | hgiven
      · rw [hquiet] at hq
        exact absurd hq List.not_mem_nil
      · exact Or.inr hgiven
  · rintro (hp | hgiven)
    · exact h.wellFormed.isSome_of_inUse hp
    · exact h.left p hgiven

/-- If all documents with entries are in use, the entries are as many as these documents. -/
theorem Accounted.size_eq (h : Accounted events room)
    (hused : ∀ p, (room.locks.table.get? p).isSome = true → room.locks.InUse p) :
    room.locks.size = room.locks.documents.length := by
  refine h.proper.size_eq (List.nodup_dedup _) fun k => ⟨fun hk => ?_, fun hk => ?_⟩
  · obtain ⟨p, rfl⟩ := h.proper.of_path k hk
    exact mem_documents.2 (hused p ((PathMap.get?_isSome _ p).2 hk))
  · rw [documents, List.mem_dedup, List.mem_map] at hk
    obtain ⟨r, hr, rfl⟩ := hk
    exact (PathMap.get?_isSome _ r.path).1 (h.wellFormed.isSome_of_inUse ⟨r, hr, rfl⟩)

theorem accounted (h : Room.after? events = some room) : Accounted events room := by
  refine Room.after?_induction ?_ (fun _ _ _ _ hroom hnext => hroom.next? hnext) h
  exact ⟨wellFormed_empty, PathMap.proper_empty,
    fun p hentry => absurd hentry (by simp [Room.empty, Locks.empty]),
    fun p hgiven => absurd hgiven Bool.false_ne_true⟩

/-! ## Samples -/

namespace Sample

/-- One holds a document and another one waits for it.  The holder leaves, and then the other one
gives up. -/
def deserted : List Event :=
  [.givesUp ⟨1, orders, 0, false⟩, .sweeps orders, .leaves ⟨0, orders, 0, true⟩, .asks orders,
    .polls 0, .asks orders]

/-- Nobody is there any more, but the table still has an entry. -/
def desertedRoom : Room :=
  ⟨⟨⟨[(orders.key, 0)]⟩, [], 1, 2⟩, []⟩

theorem after?_deserted : Room.after? deserted = some desertedRoom := rfl

end Sample

/-! ## Main statements -/

/-- **When nobody is leaving, the table has entries for the documents in use, and for those that a
request was left last that was given up.**  If there are no such documents, its size is the number
of documents in use. -/
theorem Room.entries_of_quiet (h : after? events = some room) (hquiet : room.leaving = []) :
    (∀ p, (room.locks.table.get? p).isSome = true ↔
      room.locks.InUse p ∨ givenUpLast events p = true) ∧
    ((∀ p, givenUpLast events p = true → room.locks.InUse p) →
      room.locks.size = room.locks.documents.length) := by
  have hroom := accounted h
  refine ⟨hroom.isSome_iff hquiet, fun hnone => hroom.size_eq fun p hentry => ?_⟩
  exact ((hroom.isSome_iff hquiet p).1 hentry).elim id (hnone p)

/-- The holders and waiters of the sample room `busy` account for both of its entries, and the one
entry of the other room was left by a request that was given up. -/
theorem Room.entries_of_quiet_sample :
    (after? Sample.busy = some Sample.busyRoom ∧ Sample.busyRoom.leaving = [] ∧
      Sample.busyRoom.locks.size = Sample.busyRoom.locks.documents.length ∧
      Sample.busyRoom.locks.size = 2) ∧
    after? Sample.deserted = some Sample.desertedRoom ∧ Sample.desertedRoom.leaving = [] ∧
      givenUpLast Sample.deserted Sample.orders = true ∧
      (Sample.desertedRoom.locks.table.get? Sample.orders).isSome = true := by
  have hgiven : ∀ p, givenUpLast Sample.busy p = false := fun p => rfl
  refine ⟨⟨Sample.after?_busy, rfl, ?_, rfl⟩, Sample.after?_deserted, rfl, by decide, ?_⟩
  · exact (Room.entries_of_quiet Sample.after?_busy rfl).2 fun p hp =>
      absurd hp (Bool.eq_false_iff.1 (hgiven p))
  · exact ((Room.entries_of_quiet Sample.after?_deserted rfl).1 Sample.orders).2
      (Or.inr (by decide))

/-- **A table may keep an entry that nobody uses.**  It is not so that, whenever nobody is leaving,
it has entries for the documents in use only: in the sample, nobody holds or waits for anything, and
there is still one entry. -/
theorem Room.entry_of_unused :
    (¬ ∀ (events : List Event) (room : Room), after? events = some room → room.leaving = [] →
      ∀ p, (room.locks.table.get? p).isSome = true → room.locks.InUse p) ∧
    Sample.desertedRoom.locks.documents.length = 0 ∧ Sample.desertedRoom.locks.size = 1 := by
  refine ⟨fun hused => ?_, rfl, rfl⟩
  obtain ⟨r, hr, -⟩ := hused Sample.deserted Sample.desertedRoom Sample.after?_deserted rfl
    Sample.orders (by decide)
  exact absurd hr List.not_mem_nil

end SqlxDryRun.Locks
