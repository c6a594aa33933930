import SqlxDryRun.Position
import SqlxDryRun.Proofs.Text.Natural
import SqlxDryRun.Proofs.Text.Places
import SqlxDryRun.Proofs.Text.Runs
import SqlxDryRun.Proofs.Text.Search
import SqlxDryRun.Validation.Reply

/-!
# Which location a message gives

`Locates` says by the text alone where a location stands.  A location can begin only where its first
letter stands, which occurs nowhere else in it, so locations do not overlap, and a search from the
left that goes on behind each location it finds misses none (`getLast?_scan`).  The last one counts
(`last?_eq_some_iff`), and `ofMessage?_reads_last` says which place a message gives to an error.
-/

namespace SqlxDryRun.Validation.Location

open SqlxDryRun.Text

/-- A number as a location may have it: decimal digits of any script. -/
def IsNumeral (digits : List Char) : Prop :=
  digits ≠ [] ∧ ∀ c ∈ digits, isDecimalDigit c = true

/-- The written form of a location. -/
def place (line column : List Char) : List Char :=
  lead ++ line ++ ':' :: (column ++ [']'])

/-- A text has a location behind `front`. -/
structure Locates (text front line column back : List Char) : Prop where
  split : text = front ++ place line column ++ back
  line : IsNumeral line
  column : IsNumeral column

/-- A text has a location behind `front`, and none that begins later. -/
structure LocatesLast (text front line column back : List Char) : Prop extends
    Locates text front line column back where
  last : ∀ front' line' column' back', Locates text front' line' column' back' →
    front'.length ≤ front.length

/-! ## One place -/

theorem number?_eq_some_iff {mark : Char} (hmark : isDecimalDigit mark = false)
    {text digits rest : List Char} :
    number? mark text = some (digits, rest) ↔
      text = digits ++ mark :: rest ∧ IsNumeral digits := by
  constructor
  · intro h
    rw [number?] at h
    split at h
    · cases h
    · rename_i found c back hdrop hne
      split at h
      · rename_i hc
        obtain ⟨rfl, rfl⟩ := Prod.mk.inj (Option.some.inj h)
        rw [hc] at hdrop
        obtain ⟨hsplit, hdigits⟩ := (run_and_mark_iff hmark).1 ⟨rfl, hdrop⟩
        exact ⟨hsplit, hne, hdigits⟩
      · cases h
    · cases h
  · rintro ⟨rfl, hne, hdigits⟩
    obtain ⟨htake, hdrop⟩ : (digits ++ mark :: rest).takeWhile isDecimalDigit = digits ∧
        (digits ++ mark :: rest).dropWhile isDecimalDigit = mark :: rest :=
      (run_and_mark_iff hmark).2 ⟨rfl, hdigits⟩
    rw [number?]
    simp only [htake, hdrop, if_true]

/-- A location is read where it begins. -/
theorem here?_eq_some_iff {text line column : List Char} :
    here? text = some (line, column) ↔ ∃ back, Locates text [] line column back := by
  have hcolon : isDecimalDigit ':' = false := by decide
  have hbracket : isDecimalDigit ']' = false := by decide
  constructor
  · intro h
    obtain ⟨behind, hlead, h⟩ := Option.bind_eq_some_iff.1 h
    obtain ⟨⟨line', more⟩, hline, h⟩ := Option.bind_eq_some_iff.1 h
    obtain ⟨⟨column', back⟩, hcolumn, h⟩ := Option.bind_eq_some_iff.1 h
    obtain ⟨rfl, rfl⟩ := Prod.mk.inj (Option.some.inj h)
    obtain ⟨hmore, hline⟩ := (number?_eq_some_iff hcolon).1 hline
    obtain ⟨hback, hcolumn⟩ := (number?_eq_some_iff hbracket).1 hcolumn
    refine ⟨back, ?_, hline, hcolumn⟩
    rw [afterPrefix?_eq_some_iff.1 hlead, hmore, hback, place]
    simp only [List.nil_append, List.append_assoc, List.cons_append]
  · rintro ⟨back, hsplit, hline, hcolumn⟩
    have hlead : afterPrefix? lead text = some (line ++ ':' :: (column ++ ']' :: back)) := by
      rw [afterPrefix?_eq_some_iff, hsplit, place]
      simp only [List.nil_append, List.append_assoc, List.cons_append]
    have hmore : number? ':' (line ++ ':' :: (column ++ ']' :: back)) =
        some (line, column ++ ']' :: back) := (number?_eq_some_iff hcolon).2 ⟨rfl, hline⟩
    have hback : number? ']' (column ++ ']' :: back) = some (column, back) :=
      (number?_eq_some_iff hbracket).2 ⟨rfl, hcolumn⟩
    rw [here?, hlead]
    simp only [Option.bind_eq_bind, Option.bind_some, hmore, hback]

theorem readsBehind_iff {text front line column : List Char} :
    ReadsBehind here? text front (line, column) ↔ ∃ back, Locates text front line column back := by
  constructor
  · rintro ⟨rest, rfl, h⟩
    obtain ⟨back, hsplit, hline, hcolumn⟩ := here?_eq_some_iff.1 h
    refine ⟨back, ?_, hline, hcolumn⟩
    rw [hsplit]
    simp only [List.nil_append, List.append_assoc]
  · rintro ⟨back, hsplit, hline, hcolumn⟩
    refine ⟨place line column ++ back, ?_, here?_eq_some_iff.2 ⟨back, rfl, hline, hcolumn⟩⟩
    rw [hsplit, List.append_assoc]

/-! ## The last place -/

theorem seeksLast : SeeksLast here? last? where
  here_nil := rfl
  nil := rfl
  cons _ _ := rfl

theorem last?_eq_none_iff {text : List Char} :
    last? text = none ↔ ∀ front line column back, ¬Locates text front line column back := by
  rw [seeksLast.eq_none_iff]
  simp only [Prod.forall, readsBehind_iff, not_exists]

/-- **The location that counts is the one that begins last.** -/
theorem last?_eq_some_iff {text line column : List Char} :
    last? text = some (line, column) ↔ ∃ front back, LocatesLast text front line column back := by
  rw [seeksLast.eq_some_iff]
  constructor
  · rintro ⟨front, h, hlast⟩
    obtain ⟨back, hback⟩ := readsBehind_iff.1 h
    refine ⟨front, back, hback, ?_⟩
    intro front' line' column' back' h'
    exact hlast front' (line', column') (readsBehind_iff.2 ⟨back', h'⟩)
  · rintro ⟨front, back, h, hlast⟩
    refine ⟨front, readsBehind_iff.2 ⟨back, h⟩, ?_⟩
    rintro front' ⟨line', column'⟩ h'
    obtain ⟨back', hback'⟩ := readsBehind_iff.1 h'
    exact hlast front' line' column' back' hback'

/-! ## The search from the left -/

/-- The locations that a search from the left finds, which goes on behind each location it has
found: the next `skip` characters belong to the one found last. -/
def scanFrom : (skip : Nat) → List Char → List (List Char × List Char)
  | _, [] => []
  | skip + 1, _ :: rest => scanFrom skip rest
  | 0, c :: rest =>
    match here? (c :: rest) with
    | some (line, column) => (line, column) :: scanFrom ((place line column).length - 1) rest
    | none => scanFrom 0 rest

/-- The locations that a search of a text from the left finds, in order. -/
def scan (text : List Char) : List (List Char × List Char) :=
  scanFrom 0 text

/-- The first letter of a location occurs nowhere else in it. -/
theorem exists_place_eq {line column : List Char} (hline : IsNumeral line)
    (hcolumn : IsNumeral column) :
    ∃ body, place line column = 'a' :: body ∧ 'a' ∉ body := by
  have hdigits {digits : List Char} (h : IsNumeral digits) : 'a' ∉ digits := by
    intro hmem
    exact absurd (h.2 'a' hmem) (by decide)
  refine ⟨['t', ' ', '['] ++ line ++ ':' :: (column ++ [']']), rfl, ?_⟩
  simp [hdigits hline, hdigits hcolumn]

/-- Nothing begins with another letter. -/
theorem last?_cons_of_ne {c : Char} (hc : c ≠ 'a') (rest : List Char) :
    last? (c :: rest) = last? rest := by
  have hhere : here? (c :: rest) = none := by
    refine Option.eq_none_iff_forall_ne_some.2 fun found h => ?_
    obtain ⟨back, hsplit, -, -⟩ := here?_eq_some_iff.1 h
    exact hc (List.cons.inj hsplit).1
  rw [last?, hhere, Option.or_none]

theorem last?_append_of_not_mem {body : List Char} (hbody : 'a' ∉ body) (back : List Char) :
    last? (body ++ back) = last? back := by
  induction body with
  | nil => rfl
  | cons c body ih =>
      rw [List.mem_cons, not_or] at hbody
      rw [List.cons_append, last?_cons_of_ne (Ne.symm hbody.1), ih hbody.2]

/-- Behind a location, only what stands behind all of it can be a later one. -/
theorem last?_place_append {line column : List Char} (hline : IsNumeral line)
    (hcolumn : IsNumeral column) (back : List Char) :
    last? (place line column ++ back) = (last? back).or (some (line, column)) := by
  have hhere : here? (place line column ++ back) = some (line, column) :=
    here?_eq_some_iff.2 ⟨back, rfl, hline, hcolumn⟩
  obtain ⟨body, hplace, hbody⟩ := exists_place_eq hline hcolumn
  rw [hplace, List.cons_append] at hhere ⊢
  rw [last?, hhere, last?_append_of_not_mem hbody]

/-- A location stays the last one, whatever stands in front of it. -/
theorem last?_append_of_some {text : List Char} {found : List Char × List Char}
    (h : last? text = some found) (front : List Char) : last? (front ++ text) = some found := by
  induction front with
  | nil => exact h
  | cons c front ih => rw [List.cons_append, last?, ih, Option.some_or]

theorem getLast?_scanFrom (skip : Nat) (text : List Char) :
    (scanFrom skip text).getLast? = last? (text.drop skip) := by
  induction text generalizing skip with
  | nil =>
      rw [List.drop_nil]
      rfl
  | cons c rest ih =>
      cases skip with
      | succ skip =>
          rw [scanFrom, List.drop_succ_cons]
          exact ih skip
      | zero =>
          rw [scanFrom, List.drop_zero]
          cases hhere : here? (c :: rest) with
          | none =>
              rw [last?, hhere, Option.or_none]
              exact ih 0
          | some found =>
              obtain ⟨line, column⟩ := found
              obtain ⟨back, hsplit, hline, hcolumn⟩ := here?_eq_some_iff.1 hhere
              obtain ⟨body, hplace, -⟩ := exists_place_eq hline hcolumn
              have hrest : rest = body ++ back := by
                rw [List.nil_append, hplace] at hsplit
                exact (List.cons.inj hsplit).2
              have hdrop : rest.drop ((place line column).length - 1) = back := by
                rw [hplace, List.length_cons, Nat.add_sub_cancel, hrest, List.drop_left]
              rw [hsplit, List.nil_append, last?_place_append hline hcolumn]
              dsimp only
              rw [List.getLast?_cons, ih, hdrop]
              cases last? back <;> rfl

/-- **The search from the left misses no location that counts.** -/
theorem getLast?_scan (text : List Char) : (scan text).getLast? = last? text := by
  rw [scan, getLast?_scanFrom, List.drop_zero]

/-! ## Values -/

/-- Digits spell a 32-bit value: they are ASCII digits, and this is their value. -/
def Spells (digits : List Char) (n : UInt32) : Prop :=
  (∀ c ∈ digits, c.isDigit = true) ∧ Nat.ofDigitChars 10 digits 0 = n.toNat

theorem value?_eq_some_iff {digits : List Char} {n : UInt32} :
    value? digits = some n ↔ Spells digits n := by
  have hread {m : Nat} : readDigits (UInt32.size - 1) 0 digits = .ok m ↔
      (∀ c ∈ digits, c.isDigit = true) ∧ Nat.ofDigitChars 10 digits 0 = m ∧ m ≤ UInt32.size - 1 :=
    readDigits_eq_ok_iff (Nat.zero_le _)
  have hsize : n.toNat ≤ UInt32.size - 1 := Nat.le_sub_one_of_lt n.toNat_lt_size
  rw [value?]
  cases hdigits : readDigits (UInt32.size - 1) 0 digits with
  | ok m =>
      obtain ⟨hascii, hvalue, hm⟩ := hread.1 hdigits
      have htoNat : (UInt32.ofNat m).toNat = m := by
        rw [UInt32.toNat_ofNat', Nat.mod_eq_of_lt]
        exact Nat.lt_of_le_sub_one (by decide) hm
      dsimp only
      rw [Option.some.injEq, Spells, hvalue, ← UInt32.toNat_inj, htoNat]
      exact (and_iff_right hascii).symm
  | error e =>
      constructor
      · intro h
        cases h
      · rintro ⟨hascii, hvalue⟩
        rw [hread.2 ⟨hascii, hvalue, hsize⟩] at hdigits
        cases hdigits

theorem isDecimalDigit_of_isDigit {c : Char} (h : c.isDigit = true) :
    isDecimalDigit c = true := by
  have hascii : c.toNat < 0x80 := by
    simp only [Char.isDigit, Bool.and_eq_true, decide_eq_true_eq, UInt32.le_iff_toNat_le] at h
    have hhigh : c.toNat ≤ 57 := h.2
    omega
  rw [isDecimalDigit, if_pos hascii, h]

/-- The decimal form of a 32-bit number. -/
def decimal (n : UInt32) : List Char :=
  (toString n.toNat).toList

theorem decimal_eq (n : UInt32) : decimal n = Nat.toDigits 10 n.toNat := by
  rw [decimal, Nat.toString_eq_ofList_toDigits, String.toList_ofList]

theorem isDigit_of_mem_decimal {n : UInt32} {c : Char} (h : c ∈ decimal n) : c.isDigit = true := by
  rw [decimal_eq] at h
  exact Nat.isDigit_of_mem_toDigits (by decide) (by decide) h

theorem isNumeral_decimal (n : UInt32) : IsNumeral (decimal n) := by
  refine ⟨?_, fun c hc => isDecimalDigit_of_isDigit (isDigit_of_mem_decimal hc)⟩
  rw [decimal_eq]
  exact Nat.toDigits_ne_nil

theorem spells_decimal (n : UInt32) : Spells (decimal n) n := by
  refine ⟨fun c hc => isDigit_of_mem_decimal hc, ?_⟩
  rw [decimal_eq, Nat.ofDigitChars_ten_toDigits]

/-! ## Messages -/

/-- A message places an error: its last location spells these 32-bit numbers. -/
def Places (message : String) (line column : UInt32) : Prop :=
  ∃ front lineDigits columnDigits back,
    LocatesLast message.toList front lineDigits columnDigits back ∧
      Spells lineDigits line ∧ Spells columnDigits column

theorem ofMessage?_eq_some_iff_last? {message : String} {line column : UInt32} :
    ofMessage? message = some (line, column) ↔
      ∃ lineDigits columnDigits, last? message.toList = some (lineDigits, columnDigits) ∧
        Spells lineDigits line ∧ Spells columnDigits column := by
  constructor
  · intro h
    obtain ⟨⟨lineDigits, columnDigits⟩, hlast, h⟩ := Option.bind_eq_some_iff.1 h
    obtain ⟨line', hline, h⟩ := Option.bind_eq_some_iff.1 h
    obtain ⟨column', hcolumn, h⟩ := Option.bind_eq_some_iff.1 h
    obtain ⟨rfl, rfl⟩ := Prod.mk.inj (Option.some.inj h)
    exact ⟨lineDigits, columnDigits, hlast, value?_eq_some_iff.1 hline,
      value?_eq_some_iff.1 hcolumn⟩
  · rintro ⟨lineDigits, columnDigits, hlast, hline, hcolumn⟩
    rw [ofMessage?, hlast]
    simp only [Option.bind_eq_bind, Option.bind_some, value?_eq_some_iff.2 hline,
      value?_eq_some_iff.2 hcolumn]

theorem ofMessage?_eq_some_iff_places {message : String} {line column : UInt32} :
    ofMessage? message = some (line, column) ↔ Places message line column := by
  rw [ofMessage?_eq_some_iff_last?]
  simp only [last?_eq_some_iff, Places]
  constructor
  · rintro ⟨lineDigits, columnDigits, ⟨front, back, hlast⟩, hvalues⟩
    exact ⟨front, lineDigits, columnDigits, back, hlast, hvalues⟩
  · rintro ⟨front, lineDigits, columnDigits, back, hlast, hvalues⟩
    exact ⟨lineDigits, columnDigits, ⟨front, back, hlast⟩, hvalues⟩

/-- A reply from a message keeps the message, and puts the error where the message places it. -/
theorem reply_ofMessage (message : String) :
    ∃ line column, Reply.ofMessage message = ⟨⟨true, line, column, message⟩, ⟨0⟩⟩ ∧
      (Places message line column ∨
        line = 1 ∧ column = 1 ∧ ∀ line' column', ¬Places message line' column') := by
  rw [Reply.ofMessage]
  cases h : ofMessage? message with
  | some found =>
      exact ⟨found.1, found.2, rfl, Or.inl (ofMessage?_eq_some_iff_places.1 h)⟩
  | none =>
      refine ⟨1, 1, rfl, Or.inr ⟨rfl, rfl, fun line' column' hplaces => ?_⟩⟩
      rw [ofMessage?_eq_some_iff_places.2 hplaces] at h
      cases h

theorem toList_written (p : Position) :
    ("at [" ++ p.text ++ "]").toList = place (decimal p.line) (decimal p.column) := by
  simp only [Position.text, String.toList_append, place, decimal]
  simp [lead]

/-- A written position is read back, if no location stands behind it. -/
theorem ofMessage?_written {before after : String} {p : Position}
    (hafter : ∀ front line column back, ¬Locates after.toList front line column back) :
    ofMessage? (before ++ ("at [" ++ p.text ++ "]") ++ after) = some (p.line, p.column) := by
  have hlast : last? (place (decimal p.line) (decimal p.column) ++ after.toList) =
      some (decimal p.line, decimal p.column) := by
    rw [last?_place_append (isNumeral_decimal _) (isNumeral_decimal _),
      last?_eq_none_iff.2 hafter, Option.none_or]
  refine ofMessage?_eq_some_iff_last?.2
    ⟨decimal p.line, decimal p.column, ?_, spells_decimal _, spells_decimal _⟩
  rw [String.toList_append, String.toList_append, toList_written, List.append_assoc]
  exact last?_append_of_some hlast before.toList

/-- **The last location of a message places its error**, if its numbers are written with ASCII
digits and have 32 bits; there is no other place.  A search from the left finds this location last.
A reply from a message always is an error with this message, at its place or else at line one,
column one.  A position that is written into a message is read back, unless a location stands behind
it. -/
theorem ofMessage?_reads_last (message : String) :
    (∀ lineDigits columnDigits,
      (scan message.toList).getLast? = some (lineDigits, columnDigits) ↔
        ∃ front back, LocatesLast message.toList front lineDigits columnDigits back) ∧
    (∀ line column, ofMessage? message = some (line, column) ↔ Places message line column) ∧
    (∃ line column, Reply.ofMessage message = ⟨⟨true, line, column, message⟩, ⟨0⟩⟩ ∧
      (Places message line column ∨
        line = 1 ∧ column = 1 ∧ ∀ line' column', ¬Places message line' column')) ∧
    ∀ (before after : String) (p : Position),
      message = before ++ ("at [" ++ p.text ++ "]") ++ after →
      (∀ front line column back, ¬Locates after.toList front line column back) →
      ofMessage? message = some (p.line, p.column) := by
  refine ⟨?_, fun _ _ => ofMessage?_eq_some_iff_places, reply_ofMessage message, ?_⟩
  · intro lineDigits columnDigits
    rw [getLast?_scan, last?_eq_some_iff]
  · rintro before after p rfl hafter
    exact ofMessage?_written hafter

/-- A location that breaks off, one with foreign digits and one beyond 32 bits stand before the
position that counts. -/
theorem ofMessage?_reads_last_sample :
    (∀ front line column back,
        ¬Locates ", at [3:".toList front line column back) ∧
      ofMessage? "at [1:at [٣:4] at [4294967296:1] at [27:28], at [3:" = some (27, 28) := by
  have hafter : ∀ front line column back,
      ¬Locates ", at [3:".toList front line column back :=
    last?_eq_none_iff.1 (by decide)
  obtain ⟨-, -, -, hwritten⟩ :=
    ofMessage?_reads_last "at [1:at [٣:4] at [4294967296:1] at [27:28], at [3:"
  exact ⟨hafter, hwritten "at [1:at [٣:4] at [4294967296:1] " ", at [3:" ⟨27, 28⟩ rfl hafter⟩

end SqlxDryRun.Validation.Location
