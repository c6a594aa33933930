import SqlxDryRun.Path

/-!
# Maps from paths

A finite map whose keys are paths, up to segments that say nothing: what is stored under `a//b` is
found under `a/./b`. The laws `get?_insert` and `get?_erase` say what each operation does to each
key; `keys_insert` and `keys_erase` say which keys have entries.
-/

namespace SqlxDryRun

/-- A finite map from paths. -/
structure PathMap (α : Type) where
  entries : List (Path.Key × α)
deriving Repr, Inhabited

namespace PathMap

variable {α : Type}

/-- The map without entries. -/
def empty : PathMap α := ⟨[]⟩

/-- What is stored under a path. -/
def get? (m : PathMap α) (p : Path) : Option α :=
  m.entries.lookup p.key

/-- The map without the entry of a path. -/
def erase (m : PathMap α) (p : Path) : PathMap α :=
  ⟨m.entries.filter fun e => e.1 != p.key⟩

/-- The map with a new entry for a path, in the stead of an earlier one. -/
def insert (m : PathMap α) (p : Path) (a : α) : PathMap α :=
  ⟨(p.key, a) :: (m.erase p).entries⟩

/-- The number of entries. -/
def size (m : PathMap α) : Nat :=
  m.entries.length

/-- The keys that have entries. -/
def keys (m : PathMap α) : List Path.Key :=
  m.entries.map Prod.fst

theorem lookup_filter_ne (k k' : Path.Key) (es : List (Path.Key × α)) :
    (es.filter fun e => e.1 != k).lookup k' = if k' = k then none else es.lookup k' := by
  induction es with
  | nil => simp
  | cons e es ih =>
    obtain ⟨key, a⟩ := e
    by_cases h : key = k
    · subst h
      by_cases h' : k' = key
      · subst h'
        simpa only [bne_self_eq_false, List.filter_cons, Bool.false_eq_true, if_false,
          if_true] using ih
      · simp only [bne_self_eq_false, List.filter_cons, ih, h', if_false, Bool.false_eq_true,
          List.lookup_cons, beq_eq_false_iff_ne.2 h']
    · have hk : (key != k) = true := bne_iff_ne.2 h
      simp only [List.filter_cons, hk, if_true, List.lookup_cons, ih]
      by_cases h' : k' = key
      · subst h'
        simp only [BEq.rfl, h, if_false]
      · simp only [beq_eq_false_iff_ne.2 h']

@[simp] theorem get?_empty (p : Path) : (empty : PathMap α).get? p = none := rfl

/-- Paths that are the same have the same entry. -/
theorem get?_congr (m : PathMap α) {p q : Path} (h : q.key = p.key) : m.get? q = m.get? p := by
  rw [get?, get?, h]

theorem get?_erase (m : PathMap α) (p q : Path) :
    (m.erase p).get? q = if q.key = p.key then none else m.get? q :=
  lookup_filter_ne p.key q.key m.entries

theorem get?_insert (m : PathMap α) (p q : Path) (a : α) :
    (m.insert p a).get? q = if q.key = p.key then some a else m.get? q := by
  have h := get?_erase m p q
  simp only [get?] at h
  simp only [insert, get?, List.lookup_cons]
  by_cases hk : q.key = p.key
  · simp only [hk, BEq.rfl, if_true]
  · simp only [beq_eq_false_iff_ne.2 hk, h, hk, if_false]

theorem length_keys (m : PathMap α) : m.keys.length = m.size :=
  List.length_map ..

/-- A path has an entry just if its key is one of the keys. -/
theorem get?_isSome (m : PathMap α) (p : Path) : (m.get? p).isSome = true ↔ p.key ∈ m.keys := by
  rw [get?, List.lookup_isSome_iff, keys, List.mem_map]
  exact exists_congr fun e => and_congr_right fun _ => by rw [beq_iff_eq, eq_comm]

theorem keys_erase (m : PathMap α) (p : Path) :
    (m.erase p).keys = m.keys.filter fun k => k != p.key := by
  rw [keys, keys, List.filter_map, erase]
  rfl

theorem keys_insert (m : PathMap α) (p : Path) (a : α) :
    (m.insert p a).keys = p.key :: m.keys.filter fun k => k != p.key := by
  rw [← keys_erase]
  rfl

end PathMap

end SqlxDryRun
