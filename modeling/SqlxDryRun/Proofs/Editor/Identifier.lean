import SqlxDryRun.Editor.Cursor
import SqlxDryRun.Proofs.Text.Runs

/-!
# The identifier at a column

`TouchedAt` says which run of characters is the identifier that touches a column of a line: the
longest run around it of characters that a name may have.  `identifierBounds?_eq_some_iff` says that
the scan in both directions finds just this run, and `identifierRange?_eq_some_iff` the same of a
position of a document.  `IsIdentifier` says the same by columns, and `identifierBounds?_touching`
when there is an identifier at a column and from where to where it goes.
-/

namespace SqlxDryRun.Editor

open SqlxDryRun.Text

/-! ## The identifier of a line -/

/-- A line falls into what stands before an identifier that touches a column, the identifier, and
what stands behind it. -/
structure TouchedAt (line : List Char) (column : Nat) (front word back : List Char) : Prop where
  split : line = front ++ word ++ back
  nonempty : word ≠ []
  isName : ∀ c ∈ word, isIdentifierChar c = true
  /-- The identifier does not begin earlier, -/
  first : ∀ c ∈ front.getLast?, isIdentifierChar c = false
  /-- and it does not end later. -/
  last : ∀ c ∈ back.head?, isIdentifierChar c = false
  reached : front.length ≤ column
  near : column ≤ front.length + word.length

/-- The two halves of an identifier that is cut at the column are what the scan finds. -/
theorem identifierBounds?_append (front left right back : List Char)
    (hleft : ∀ c ∈ left, isIdentifierChar c = true)
    (hright : ∀ c ∈ right, isIdentifierChar c = true)
    (hfirst : ∀ c ∈ front.getLast?, isIdentifierChar c = false)
    (hlast : ∀ c ∈ back.head?, isIdentifierChar c = false) :
    identifierBounds? ((front ++ left) ++ (right ++ back)) (front ++ left).length =
      if left.length + right.length = 0 then none
      else some (front.length, (front ++ left).length + right.length) := by
  have hbefore : ((front ++ left).reverse.takeWhile isIdentifierChar).length = left.length := by
    rw [List.reverse_append, takeWhile_append_of_stop, List.length_reverse]
    · intro c hc
      exact hleft c (List.mem_reverse.1 hc)
    · rw [List.head?_reverse]
      exact hfirst
  have hafter : ((right ++ back).takeWhile isIdentifierChar).length = right.length := by
    rw [takeWhile_append_of_stop hright hlast]
  have hinside : ¬((front ++ left) ++ (right ++ back)).length < (front ++ left).length := by
    rw [List.length_append]
    omega
  have hfront : (front ++ left).length - left.length = front.length := by
    rw [List.length_append]
    omega
  rw [identifierBounds?, if_neg hinside, List.take_left, List.drop_left]
  simp only [hbefore, hafter, hfront]

/-- **The scan finds the identifier that touches a column**, and nothing if there is none. -/
theorem identifierBounds?_eq_some_iff {line : List Char} {column : Nat} {bounds : Nat × Nat} :
    identifierBounds? line column = some bounds ↔
      ∃ front word back, TouchedAt line column front word back ∧
        bounds = (front.length, front.length + word.length) := by
  constructor
  · intro h
    have hcolumn : column ≤ line.length := by
      by_contra hlong
      rw [identifierBounds?, if_pos (by omega)] at h
      cases h
    -- The line is cut at the column, and each half at the end of its run.
    obtain ⟨left, front, hbefore, -, hleft, hfirst⟩ :=
      exists_run isIdentifierChar (line.take column).reverse
    obtain ⟨right, back, hafter, -, hright, hlast⟩ :=
      exists_run isIdentifierChar (line.drop column)
    have htake : line.take column = front.reverse ++ left.reverse := by
      rw [← List.reverse_append, ← hbefore, List.reverse_reverse]
    have hline : line = (front.reverse ++ left.reverse) ++ (right ++ back) := by
      rw [← htake, ← hafter, List.take_append_drop]
    have hlength : column = (front.reverse ++ left.reverse).length := by
      rw [← htake, List.length_take_of_le hcolumn]
    have hleft' : ∀ c ∈ left.reverse, isIdentifierChar c = true := by
      intro c hc
      exact hleft c (List.mem_reverse.1 hc)
    have hfirst' : ∀ c ∈ front.reverse.getLast?, isIdentifierChar c = false := by
      rw [List.getLast?_reverse]
      exact hfirst
    rw [hline, hlength, identifierBounds?_append _ _ _ _ hleft' hright hfirst' hlast] at h
    split at h
    · cases h
    · rename_i hsome
      refine ⟨front.reverse, left.reverse ++ right, back, ?_, ?_⟩
      · refine ⟨?_, ?_, ?_, hfirst', hlast, ?_, ?_⟩
        · simp only [hline, List.append_assoc]
        · intro hnil
          rw [← List.length_append, hnil] at hsome
          exact hsome rfl
        · intro c hc
          rcases List.mem_append.1 hc with hc | hc
          · exact hleft' c hc
          · exact hright c hc
        · rw [hlength, List.length_append]
          omega
        · rw [hlength, List.length_append, List.length_append]
          omega
      · rw [← Option.some.inj h, List.length_append, List.length_append, Nat.add_assoc]
  · rintro ⟨front, word, back, h, rfl⟩
    have hreached := h.reached
    have hnear := h.near
    -- The column cuts the identifier.
    have hcut : word = word.take (column - front.length) ++ word.drop (column - front.length) :=
      (List.take_append_drop _ _).symm
    have hcolumn : column = (front ++ word.take (column - front.length)).length := by
      rw [List.length_append, List.length_take]
      omega
    have hline : line = (front ++ word.take (column - front.length)) ++
        (word.drop (column - front.length) ++ back) := by
      rw [h.split]
      simp only [List.append_assoc, ← List.append_assoc (word.take _), List.take_append_drop]
    have hbounds := identifierBounds?_append front (word.take (column - front.length))
      (word.drop (column - front.length)) back
      (fun c hc => h.isName c (List.mem_of_mem_take hc))
      (fun c hc => h.isName c (List.mem_of_mem_drop hc)) h.first h.last
    rw [← hline, ← hcolumn, ← List.length_append, ← hcut, if_neg] at hbounds
    · rw [hbounds, List.length_drop]
      congr 2
      omega
    · intro hnil
      exact h.nonempty (List.length_eq_zero_iff.1 hnil)

/-! ## The columns of an identifier -/

/-- The stretch of a line from one column up to another is an identifier. -/
structure IsIdentifier (cs : List Char) (first last : Nat) : Prop where
  nonempty : first < last
  inside : last ≤ cs.length
  isName : ∀ i, first ≤ i → i < last → ∀ c ∈ cs[i]?, isIdentifierChar c = true
  /-- It begins at the first column, -/
  starts : ∀ i, i + 1 = first → ∀ c ∈ cs[i]?, isIdentifierChar c = false
  /-- and it ends before the last one. -/
  ends : ∀ c ∈ cs[last]?, isIdentifierChar c = false

/-- The character just before a column, or the one at it, may belong to a name. -/
def Touches (cs : List Char) (column : Nat) : Prop :=
  (∃ i, i + 1 = column ∧ ∃ c ∈ cs[i]?, isIdentifierChar c = true) ∨
    ∃ c ∈ cs[column]?, isIdentifierChar c = true

theorem TouchedAt.isIdentifier {line : List Char} {column : Nat} {front word back : List Char}
    (h : TouchedAt line column front word back) :
    IsIdentifier line front.length (front.length + word.length) := by
  obtain ⟨rfl, hne, hname, hfirst, hlast, -, -⟩ := h
  have hpos : 0 < word.length := List.length_pos_iff.2 hne
  refine ⟨by omega, ?_, ?_, ?_, ?_⟩
  · rw [List.length_append, List.length_append]
    omega
  · intro i hi hlt c hc
    rw [List.append_assoc, List.getElem?_append_right hi,
      List.getElem?_append_left (by omega)] at hc
    exact hname c (List.mem_iff_getElem?.2 ⟨_, hc⟩)
  · intro i hi c hc
    rw [List.append_assoc, List.getElem?_append_left (by omega)] at hc
    refine hfirst c ?_
    rw [List.getLast?_eq_getElem?, ← hi, Nat.add_sub_cancel]
    exact hc
  · intro c hc
    rw [List.getElem?_append_right (by rw [List.length_append]), List.length_append,
      Nat.sub_self, ← List.head?_eq_getElem?] at hc
    exact hlast c hc

theorem IsIdentifier.touchedAt {line : List Char} {first last column : Nat}
    (h : IsIdentifier line first last) (hfirst : first ≤ column) (hlast : column ≤ last) :
    TouchedAt line column (line.take first) ((line.drop first).take (last - first))
      (line.drop last) := by
  have hnonempty := h.nonempty
  have hinside := h.inside
  have hfront : (line.take first).length = first := List.length_take_of_le (by omega)
  have hword : ((line.drop first).take (last - first)).length = last - first := by
    rw [List.length_take_of_le]
    rw [List.length_drop]
    omega
  refine ⟨?_, ?_, ?_, ?_, ?_, by omega, by omega⟩
  · have hrest : line.drop last = (line.drop first).drop (last - first) := by
      rw [List.drop_drop]
      congr 1
      omega
    rw [hrest, List.append_assoc, List.take_append_drop, List.take_append_drop]
  · intro hnil
    rw [hnil, List.length_nil] at hword
    omega
  · intro c hc
    obtain ⟨i, hi⟩ := List.mem_iff_getElem?.1 hc
    rw [List.getElem?_take] at hi
    split at hi
    · rename_i hlt
      rw [List.getElem?_drop] at hi
      exact h.isName (first + i) (by omega) (by omega) c hi
    · cases hi
  · intro c hc
    rw [List.getLast?_eq_getElem?, hfront, List.getElem?_take] at hc
    split at hc
    · exact h.starts (first - 1) (by omega) c hc
    · cases hc
  · intro c hc
    rw [List.head?_drop] at hc
    exact h.ends c hc

theorem identifierBounds?_eq_some_iff_isIdentifier {line : List Char} {column first last : Nat} :
    identifierBounds? line column = some (first, last) ↔
      IsIdentifier line first last ∧ first ≤ column ∧ column ≤ last := by
  rw [identifierBounds?_eq_some_iff]
  constructor
  · rintro ⟨front, word, back, h, hbounds⟩
    obtain ⟨rfl, rfl⟩ := Prod.mk.inj hbounds
    exact ⟨h.isIdentifier, h.reached, h.near⟩
  · rintro ⟨h, hfirst, hlast⟩
    have hnonempty := h.nonempty
    have hinside := h.inside
    refine ⟨_, _, _, h.touchedAt hfirst hlast, ?_⟩
    rw [List.length_take_of_le (by omega), List.length_take_of_le, Nat.add_sub_cancel' (by omega)]
    rw [List.length_drop]
    omega

/-- A run is empty where its first character does not belong to it. -/
theorem length_takeWhile_eq_zero_iff {α : Type} {p : α → Bool} {l : List α} :
    (l.takeWhile p).length = 0 ↔ ∀ a ∈ l.head?, p a = false := by
  cases l with
  | nil => simp
  | cons a l =>
      rw [List.takeWhile_cons]
      cases hp : p a <;> simp [hp]

/-- Neither half of an identifier is there just if no neighbour of the column may belong to a name.
-/
theorem halves_eq_zero_iff {cs : List Char} {column : Nat} (hinside : column ≤ cs.length) :
    ((cs.take column).reverse.takeWhile isIdentifierChar).length +
        ((cs.drop column).takeWhile isIdentifierChar).length = 0 ↔ ¬Touches cs column := by
  have hbefore : ((cs.take column).reverse.takeWhile isIdentifierChar).length = 0 ↔
      ∀ i, i + 1 = column → ∀ c ∈ cs[i]?, isIdentifierChar c = false := by
    rw [length_takeWhile_eq_zero_iff, List.head?_reverse, List.getLast?_eq_getElem?,
      List.length_take_of_le hinside, List.getElem?_take]
    cases column with
    | zero => simp
    | succ i => simp
  have hafter : ((cs.drop column).takeWhile isIdentifierChar).length = 0 ↔
      ∀ c ∈ cs[column]?, isIdentifierChar c = false := by
    rw [length_takeWhile_eq_zero_iff, List.head?_drop]
  rw [Nat.add_eq_zero_iff, hbefore, hafter, Touches, not_or]
  simp only [not_exists, not_and, Bool.not_eq_true]

theorem isSome_identifierBounds?_iff {line : List Char} {column : Nat} :
    (identifierBounds? line column).isSome = true ↔
      column ≤ line.length ∧ Touches line column := by
  rw [identifierBounds?]
  split
  · rename_i hlong
    constructor
    · intro h
      cases h
    · intro h
      omega
  · rename_i hlong
    have hinside : column ≤ line.length := Nat.le_of_not_gt hlong
    rw [and_iff_right hinside]
    dsimp only
    split
    · rename_i hnone
      constructor
      · intro h
        cases h
      · intro h
        exact absurd h ((halves_eq_zero_iff hinside).1 hnone)
    · rename_i hsome
      exact ⟨fun _ => not_not.1 (mt (halves_eq_zero_iff hinside).2 hsome), fun _ => rfl⟩

/-! ## The identifier of a document -/

/-- The identifier that touches a position of a text covers this range.  Columns count characters.
-/
def TouchedIn (text : String) (p : Position) (r : Range) : Prop :=
  ∃ line front word back, (splitLines text.toList)[p.line.toNat]? = some line ∧
    TouchedAt line p.column.toNat front word back ∧
    r = ⟨⟨p.line, .ofNat front.length⟩, ⟨p.line, .ofNat (front.length + word.length)⟩⟩

theorem identifierRange?_eq_some_iff {text : String} {p : Position} {r : Range} :
    identifierRange? text p = some r ↔ TouchedIn text p r := by
  rw [identifierRange?, Option.bind_eq_bind, Option.bind_eq_some_iff]
  constructor
  · rintro ⟨line, hline, h⟩
    obtain ⟨bounds, hbounds, h⟩ := Option.bind_eq_some_iff.1 h
    obtain ⟨front, word, back, htouched, rfl⟩ := identifierBounds?_eq_some_iff.1 hbounds
    exact ⟨line, front, word, back, hline, htouched, (Option.some.inj h).symm⟩
  · rintro ⟨line, front, word, back, hline, htouched, rfl⟩
    have hbounds := identifierBounds?_eq_some_iff.2 ⟨front, word, back, htouched, rfl⟩
    exact ⟨line, hline, Option.bind_eq_some_iff.2 ⟨_, hbounds, rfl⟩⟩

/-- The range in a document has the columns of the identifier, as long as these have 32 bits. -/
theorem identifierRange?_of_lt {text : String} {p : Position} {line : List Char}
    {first last : Nat} (hline : (splitLines text.toList)[p.line.toNat]? = some line)
    (hshort : line.length < UInt32.size)
    (h : identifierBounds? line p.column.toNat = some (first, last)) :
    ∃ r, identifierRange? text p = some r ∧ r.start.line = p.line ∧ r.stop.line = p.line ∧
      r.start.column.toNat = first ∧ r.stop.column.toNat = last := by
  have hcolumns := (identifierBounds?_eq_some_iff_isIdentifier.1 h).1
  have hnonempty := hcolumns.nonempty
  have hinside := hcolumns.inside
  have hsize : line.length < 2 ^ 32 := hshort
  refine ⟨⟨⟨p.line, .ofNat first⟩, ⟨p.line, .ofNat last⟩⟩, ?_, rfl, rfl, ?_, ?_⟩
  · rw [identifierRange?, Option.bind_eq_bind, hline, Option.bind_some, Option.bind_eq_bind, h]
    rfl
  · rw [UInt32.toNat_ofNat', Nat.mod_eq_of_lt (by omega)]
  · rw [UInt32.toNat_ofNat', Nat.mod_eq_of_lt (by omega)]

/-- **The identifier that touches a column.**  There is one just if the column lies in the line and
one of its neighbours may belong to a name.  Its bounds enclose the column, and between them stand
the characters of a name, which goes on at neither end.  So all columns from its first to its last
one have the same bounds.  In a document, the range at a position has these bounds. -/
theorem identifierBounds?_touching (line : List Char) (column : Nat) :
    ((identifierBounds? line column).isSome = true ↔
      column ≤ line.length ∧ Touches line column) ∧
    (∀ first last, identifierBounds? line column = some (first, last) ↔
      IsIdentifier line first last ∧ first ≤ column ∧ column ≤ last) ∧
    (∀ first last, identifierBounds? line column = some (first, last) →
      ∀ column', first ≤ column' → column' ≤ last →
        identifierBounds? line column' = some (first, last)) ∧
    ∀ (text : String) (p : Position) (first last : Nat),
      (splitLines text.toList)[p.line.toNat]? = some line → p.column.toNat = column →
      line.length < UInt32.size → identifierBounds? line column = some (first, last) →
      ∃ r, identifierRange? text p = some r ∧ r.start.line = p.line ∧ r.stop.line = p.line ∧
        r.start.column.toNat = first ∧ r.stop.column.toNat = last := by
  refine ⟨isSome_identifierBounds?_iff, fun _ _ => identifierBounds?_eq_some_iff_isIdentifier,
    ?_, ?_⟩
  · intro first last h column' hfirst hlast
    have hcolumns := (identifierBounds?_eq_some_iff_isIdentifier.1 h).1
    exact identifierBounds?_eq_some_iff_isIdentifier.2 ⟨hcolumns, hfirst, hlast⟩
  · rintro text p first last hline rfl hshort h
    exact identifierRange?_of_lt hline hshort h

/-- Both edges of a name, and a place between two marks. -/
theorem identifierBounds?_touching_sample :
    IsIdentifier "é_1, (ab".toList 0 3 ∧
      identifierBounds? "é_1, (ab".toList 0 = some (0, 3) ∧
      identifierBounds? "é_1, (ab".toList 3 = some (0, 3) ∧
      identifierBounds? "é_1, (ab".toList 5 = none ∧
      ∃ r, identifierRange? "x\né_1, (ab" ⟨1, 0⟩ = some r ∧ r.start.line = 1 ∧ r.stop.line = 1 ∧
        r.start.column.toNat = 0 ∧ r.stop.column.toNat = 3 := by
  obtain ⟨-, hbounds, hsame, hrange⟩ := identifierBounds?_touching "é_1, (ab".toList 0
  have hfirst : identifierBounds? "é_1, (ab".toList 0 = some (0, 3) := by decide
  exact ⟨((hbounds 0 3).1 hfirst).1, hfirst, hsame 0 3 hfirst 3 (by decide) (by decide), by decide,
    hrange "x\né_1, (ab" ⟨1, 0⟩ 0 3 (by decide) rfl (by decide) hfirst⟩

end SqlxDryRun.Editor
