/-!
# Searching a text for the first and the last place

A reader looks at the head of a text; `ReadsBehind` says where in a text it finds something.  A search
tries the reader at one place after the other.  If it prefers the earlier place, it finds what begins
first (`SeeksFirst.eq_some_iff`), and if it prefers the later one, what begins last
(`SeeksLast.eq_some_iff`); either finds nothing just if there is nothing at any place.
-/

namespace SqlxDryRun.Text

variable {α : Type} {here? seek? : List Char → Option α}

/-- The reader finds something right behind the front of a text. -/
def ReadsBehind (here? : List Char → Option α) (text front : List Char) (a : α) : Prop :=
  ∃ rest, text = front ++ rest ∧ here? rest = some a

theorem readsBehind_nil_iff {text : List Char} {a : α} :
    ReadsBehind here? text [] a ↔ here? text = some a := by
  constructor
  · rintro ⟨rest, rfl, h⟩
    exact h
  · intro h
    exact ⟨text, rfl, h⟩

theorem readsBehind_cons_iff {c d : Char} {rest front : List Char} {a : α} :
    ReadsBehind here? (c :: rest) (d :: front) a ↔ c = d ∧ ReadsBehind here? rest front a := by
  constructor
  · rintro ⟨back, hsplit, h⟩
    obtain ⟨rfl, hrest⟩ := List.cons.inj hsplit
    exact ⟨rfl, back, hrest, h⟩
  · rintro ⟨rfl, back, rfl, h⟩
    exact ⟨back, rfl, h⟩

theorem not_readsBehind_of_nil (hnil : here? [] = none) (front : List Char) (a : α) :
    ¬ReadsBehind here? [] front a := by
  rintro ⟨rest, hsplit, h⟩
  rw [(List.append_eq_nil_iff.1 hsplit.symm).2, hnil] at h
  cases h

/-- Behind a head at which nothing is read, what is read stands in the tail. -/
theorem ReadsBehind.exists_tail {c : Char} {rest front : List Char} {a : α}
    (hhere : here? (c :: rest) = none) (h : ReadsBehind here? (c :: rest) front a) :
    ∃ front', front = c :: front' ∧ ReadsBehind here? rest front' a := by
  cases front with
  | nil =>
      rw [readsBehind_nil_iff.1 h] at hhere
      cases hhere
  | cons d front' =>
      obtain ⟨rfl, hrest⟩ := readsBehind_cons_iff.1 h
      exact ⟨front', rfl, hrest⟩

/-- Nothing is read in a text just if nothing is read at its head or in its tail. -/
theorem not_readsBehind_cons_iff {c : Char} {rest : List Char} :
    (∀ front a, ¬ReadsBehind here? (c :: rest) front a) ↔
      here? (c :: rest) = none ∧ ∀ front a, ¬ReadsBehind here? rest front a := by
  constructor
  · intro h
    refine ⟨Option.eq_none_iff_forall_ne_some.2 fun a ha => ?_, fun front a ha => ?_⟩
    · exact h [] a (readsBehind_nil_iff.2 ha)
    · exact h (c :: front) a (readsBehind_cons_iff.2 ⟨rfl, ha⟩)
  · rintro ⟨hhere, hrest⟩ front a h
    obtain ⟨front', -, h'⟩ := h.exists_tail hhere
    exact hrest front' a h'

/-! ## The first place -/

/-- A search that tries a reader from left to right. -/
structure SeeksFirst (here? seek? : List Char → Option α) : Prop where
  here_nil : here? [] = none
  nil : seek? [] = none
  cons : ∀ c rest, seek? (c :: rest) = (here? (c :: rest)).or (seek? rest)

theorem SeeksFirst.eq_none_iff (hseek : SeeksFirst here? seek?) {text : List Char} :
    seek? text = none ↔ ∀ front a, ¬ReadsBehind here? text front a := by
  induction text with
  | nil => exact ⟨fun _ => not_readsBehind_of_nil hseek.here_nil, fun _ => hseek.nil⟩
  | cons c rest ih => rw [hseek.cons, Option.or_eq_none_iff, ih, not_readsBehind_cons_iff]

theorem SeeksFirst.eq_some_iff (hseek : SeeksFirst here? seek?) {text : List Char} {a : α} :
    seek? text = some a ↔ ∃ front, ReadsBehind here? text front a ∧
      ∀ front' a', ReadsBehind here? text front' a' → front.length ≤ front'.length := by
  induction text with
  | nil =>
      rw [hseek.nil]
      constructor
      · intro h
        cases h
      · rintro ⟨front, h, -⟩
        exact absurd h (not_readsBehind_of_nil hseek.here_nil front a)
  | cons c rest ih =>
      rw [hseek.cons]
      cases hhere : here? (c :: rest) with
      | some found =>
          -- Nothing begins before the head of the text.
          rw [Option.some_or, Option.some.injEq]
          constructor
          · rintro rfl
            exact ⟨[], readsBehind_nil_iff.2 hhere, fun _ _ _ => Nat.zero_le _⟩
          · rintro ⟨front, h, hfirst⟩
            have hlength := hfirst [] found (readsBehind_nil_iff.2 hhere)
            obtain rfl := List.length_eq_zero_iff.1 (Nat.le_zero.1 hlength)
            rw [readsBehind_nil_iff.1 h] at hhere
            exact (Option.some.inj hhere).symm
      | none =>
          rw [Option.none_or, ih]
          constructor
          · rintro ⟨front, h, hfirst⟩
            refine ⟨c :: front, readsBehind_cons_iff.2 ⟨rfl, h⟩, ?_⟩
            intro front' a' h'
            obtain ⟨front'', rfl, h''⟩ := h'.exists_tail hhere
            exact Nat.succ_le_succ (hfirst front'' a' h'')
          · rintro ⟨front, h, hfirst⟩
            obtain ⟨front', rfl, h'⟩ := h.exists_tail hhere
            refine ⟨front', h', ?_⟩
            intro front'' a'' h''
            exact Nat.le_of_succ_le_succ
              (hfirst (c :: front'') a'' (readsBehind_cons_iff.2 ⟨rfl, h''⟩))

/-! ## The last place -/

/-- A search that tries a reader from right to left. -/
structure SeeksLast (here? seek? : List Char → Option α) : Prop where
  here_nil : here? [] = none
  nil : seek? [] = none
  cons : ∀ c rest, seek? (c :: rest) = (seek? rest).or (here? (c :: rest))

theorem SeeksLast.eq_none_iff (hseek : SeeksLast here? seek?) {text : List Char} :
    seek? text = none ↔ ∀ front a, ¬ReadsBehind here? text front a := by
  induction text with
  | nil => exact ⟨fun _ => not_readsBehind_of_nil hseek.here_nil, fun _ => hseek.nil⟩
  | cons c rest ih =>
      rw [hseek.cons, Option.or_eq_none_iff, ih, not_readsBehind_cons_iff]
      exact and_comm

theorem SeeksLast.eq_some_iff (hseek : SeeksLast here? seek?) {text : List Char} {a : α} :
    seek? text = some a ↔ ∃ front, ReadsBehind here? text front a ∧
      ∀ front' a', ReadsBehind here? text front' a' → front'.length ≤ front.length := by
  induction text generalizing a with
  | nil =>
      rw [hseek.nil]
      constructor
      · intro h
        cases h
      · rintro ⟨front, h, -⟩
        exact absurd h (not_readsBehind_of_nil hseek.here_nil front a)
  | cons c rest ih =>
      rw [hseek.cons]
      cases hrest : seek? rest with
      | some found =>
          -- What is read in the tail begins later than what is read at the head.
          obtain ⟨later, hlater, -⟩ := ih.1 hrest
          rw [Option.some_or, ← hrest, ih]
          constructor
          · rintro ⟨front, h, hlast⟩
            refine ⟨c :: front, readsBehind_cons_iff.2 ⟨rfl, h⟩, ?_⟩
            intro front' a' h'
            cases front' with
            | nil => exact Nat.zero_le _
            | cons d front' =>
                exact Nat.succ_le_succ (hlast front' a' (readsBehind_cons_iff.1 h').2)
          · rintro ⟨front, h, hlast⟩
            cases front with
            | nil =>
                have hshort := hlast (c :: later) found (readsBehind_cons_iff.2 ⟨rfl, hlater⟩)
                exact absurd hshort (Nat.not_succ_le_zero _)
            | cons d front =>
                refine ⟨front, (readsBehind_cons_iff.1 h).2, ?_⟩
                intro front' a' h'
                exact Nat.le_of_succ_le_succ
                  (hlast (c :: front') a' (readsBehind_cons_iff.2 ⟨rfl, h'⟩))
      | none =>
          have hnone := hseek.eq_none_iff.1 hrest
          rw [Option.none_or, ← readsBehind_nil_iff]
          constructor
          · intro h
            refine ⟨[], h, ?_⟩
            intro front' a' h'
            cases front' with
            | nil => exact Nat.le_refl _
            | cons d front' => exact absurd (readsBehind_cons_iff.1 h').2 (hnone front' a')
          · rintro ⟨front, h, -⟩
            cases front with
            | nil => exact h
            | cons d front => exact absurd (readsBehind_cons_iff.1 h).2 (hnone front a)

end SqlxDryRun.Text
