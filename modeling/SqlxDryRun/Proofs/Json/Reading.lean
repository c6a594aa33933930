import Mathlib.Data.List.Basic
import SqlxDryRun.Proofs.Json.Spelling
import SqlxDryRun.Proofs.Text.Runs

/-!
# Reading written forms

The reader undoes every written form: a text that spells a value is read as that value, to its end
(`read_of_spellsText`).

A value is read behind a gap and in front of a text where a token may end (`Ends`); nothing less
would do for a number, which goes on as long as it can.  The fuel of the reader falls by one for a
bracket and by one for an item, and both take up characters, so twice the length of the written
form is enough.
-/

namespace SqlxDryRun.Json

/-! ## Strings -/

theorem Partial.push_settle (p : Partial) (c : Char) : p.settle.push c = p.push c := by
  simp [settle, push]

theorem readString_plain {c : Char} (hquote : c ≠ '"') (hescape : c ≠ '\\')
    (hcontrol : ¬c.toNat < 0x20) (p : Partial) (rest : List Char) :
    readString p (c :: rest) = readString (p.push c) rest := by
  rw [readString, if_neg hcontrol]
  · exact hquote
  · exact fun h _ => hescape h
  · intros; simp_all
  · intros; simp_all
  · intros; simp_all

theorem readString_short {c e : Char} (he : simpleEscape? e = some c) (p : Partial)
    (rest : List Char) :
    readString p ('\\' :: e :: rest) = readString (p.push c) rest := by
  have hu : e ≠ 'u' := by
    rintro rfl
    simp [simpleEscape?] at he
  rw [readString, he]
  · exact congrArg (readString · rest) (p.push_settle c)
  · exact fun _ _ _ _ _ h => absurd h hu
  · exact fun h => absurd h hu

theorem readString_unit {n : Nat} {x₁ x₂ x₃ x₄ : Char} (hx : hex4? x₁ x₂ x₃ x₄ = some n)
    (p : Partial) (rest : List Char) :
    readString p ('\\' :: 'u' :: x₁ :: x₂ :: x₃ :: x₄ :: rest) =
      readString (p.pushUnit n) rest := by
  rw [readString, hx]

theorem readString_close (p : Partial) (rest : List Char) :
    readString p ('"' :: rest) = .closed p.finish rest := by
  rw [readString]

/-- What has been read of a string after one more sign. -/
def Partial.take (p : Partial) : Sign → Partial
  | .char c => p.push c
  | .unit n => p.pushUnit n

/-- Every sign is read by one step. -/
theorem readString_cons {s : Sign} {signs : List Sign} {w : List Char}
    (h : SpellsSigns (s :: signs) w) :
    ∃ u, SpellsSigns signs u ∧
      ∀ p rest, readString p (w ++ rest) = readString (p.take s) (u ++ rest) := by
  cases h with
  | plain hquote hescape hcontrol h =>
      exact ⟨_, h, fun p rest => readString_plain hquote hescape hcontrol p _⟩
  | short he h => exact ⟨_, h, fun p rest => readString_short he p _⟩
  | unit hx h => exact ⟨_, h, fun p rest => readString_unit hx p _⟩

theorem readString_foldl {signs : List Sign} {w : List Char} (h : SpellsSigns signs w)
    (p : Partial) (rest : List Char) :
    readString p (w ++ '"' :: rest) = .closed (signs.foldl Partial.take p).finish rest := by
  induction signs generalizing p w with
  | nil =>
      cases h
      exact readString_close p rest
  | cons s signs ih =>
      obtain ⟨u, hu, hread⟩ := readString_cons h
      rw [hread, ih hu, List.foldl_cons]

/-- Nothing that follows mends a string with a lone half. -/
theorem finish_of_lone (signs : List Sign) (chars : List Char) (lead : Option Nat) :
    (signs.foldl Partial.take ⟨chars, false, lead⟩).finish = none := by
  induction signs generalizing chars lead with
  | nil => rfl
  | cons s signs ih =>
      have hlone : (Partial.mk chars false lead).take s =
          ⟨((Partial.mk chars false lead).take s).chars, false,
            ((Partial.mk chars false lead).take s).lead⟩ := by
        cases s with
        | char c => rfl
        | unit n =>
            cases lead with
            | none =>
                simp only [Partial.take, Partial.pushUnit]
                split
                · rfl
                · split <;> rfl
            | some m =>
                simp only [Partial.take, Partial.pushUnit]
                split <;> rfl
      rw [List.foldl_cons, hlone]
      exact ih _ _

/-- The signs of a string give its characters, or nothing if a half stands alone. -/
theorem finish_foldl (signs : List Sign) (chars : List Char) :
    (signs.foldl Partial.take ⟨chars, true, none⟩).finish =
      (charsOf signs).map fun cs => String.ofList (chars.reverse ++ cs) := by
  fun_induction charsOf signs generalizing chars with
  | case1 =>
    rw [List.foldl_nil, Option.map_some, List.append_nil]
    rfl
  | case2 c signs ih =>
    have hpush : (Partial.mk chars true none).take (.char c) = ⟨c :: chars, true, none⟩ := rfl
    rw [List.foldl_cons, hpush, ih, Option.map_map]
    simp [Function.comp_def]
  | case3 n hlead m signs htrail ih =>
    have htake : ((Partial.mk chars true none).take (.unit n)).take (.unit m) =
        ⟨Char.ofNat (pairValue n m) :: chars, true, none⟩ := by
      simp [Partial.take, Partial.pushUnit, hlead, htrail]
    rw [List.foldl_cons, List.foldl_cons, htake, ih, Option.map_map]
    simp [Function.comp_def]
  | case4 n hlead m signs htrail =>
    have htake : ((Partial.mk chars true none).take (.unit n)).take (.unit m) =
        ⟨chars, false, none⟩ := by
      simp [Partial.take, Partial.pushUnit, hlead, htrail]
    rw [List.foldl_cons, List.foldl_cons, htake, finish_of_lone, Option.map_none]
  | case5 n signs hlead hunit =>
    -- The pair is broken off by the end of the string or by a character.
    have htake : (Partial.mk chars true none).take (.unit n) = ⟨chars, true, some n⟩ := by
      simp [Partial.take, Partial.pushUnit, hlead]
    rw [List.foldl_cons, htake, Option.map_none]
    cases signs with
    | nil => rfl
    | cons s signs =>
        cases s with
        | char c => exact finish_of_lone signs (c :: chars) none
        | unit m => exact absurd rfl (hunit m signs)
  | case6 n signs hlead htrail =>
    have htake : (Partial.mk chars true none).take (.unit n) = ⟨chars, false, none⟩ := by
      simp [Partial.take, Partial.pushUnit, hlead, htrail]
    rw [List.foldl_cons, htake, finish_of_lone, Option.map_none]
  | case7 n signs hlead htrail ih =>
    have htake : (Partial.mk chars true none).take (.unit n) =
        ⟨Char.ofNat n :: chars, true, none⟩ := by
      simp [Partial.take, Partial.pushUnit, hlead, htrail]
    rw [List.foldl_cons, htake, ih, Option.map_map]
    simp [Function.comp_def]

/-- **Reading a written string.** -/
theorem readString_of_spells {signs : List Sign} {w : List Char} (h : SpellsSigns signs w)
    (rest : List Char) :
    readString .start (w ++ '"' :: rest) = .closed ((charsOf signs).map String.ofList) rest := by
  rw [readString_foldl h, Partial.start, finish_foldl]
  rfl


/-! ## Numbers -/

/-- Whether a token may end before a text. -/
def Ends (rest : List Char) : Prop :=
  ∀ c ∈ rest.head?, isGap c = true ∨ c = ',' ∨ c = ']' ∨ c = '}'

/-- What may not follow a number. -/
theorem Ends.not_number {c : Char} {rest : List Char} (h : Ends (c :: rest)) :
    c.isDigit = false ∧ c ≠ '.' ∧ c ≠ 'e' ∧ c ≠ 'E' := by
  have hc := h c rfl
  simp only [isGap, Bool.or_eq_true, beq_iff_eq] at hc
  rcases hc with (((rfl | rfl) | rfl) | rfl) | rfl | rfl | rfl <;> decide

/-- A text that does not begin with a digit. -/
def NoDigit (text : List Char) : Prop :=
  ∀ c ∈ text.head?, c.isDigit = false

theorem takeWhile_digits {ds rest : List Char} (hds : IsDigits ds) (hrest : NoDigit rest) :
    (ds ++ rest).takeWhile Char.isDigit = ds ∧ (ds ++ rest).dropWhile Char.isDigit = rest :=
  ⟨Text.takeWhile_append_of_stop hds.2 hrest, Text.dropWhile_append_of_stop hds.2 hrest⟩

theorem Ends.noDigit {rest : List Char} (h : Ends rest) : NoDigit rest := by
  cases rest with
  | nil => exact fun c hc => nomatch hc
  | cons c cs =>
      intro d hd
      obtain rfl : c = d := Option.some.inj hd
      exact h.not_number.1

theorem readExponent_of_spells {e : Option Int} {w rest : List Char} (h : SpellsExponent e w)
    (hrest : Ends rest) (negative : Bool) (digits places : List Char) (isPlain : Bool) :
    readExponent negative digits places isPlain (w ++ rest) =
      (.number (.ofDigits negative digits places (e.getD 0) (isPlain && e.isNone)),
        some rest) := by
  cases h with
  | missing =>
      rw [List.nil_append, Option.isNone_none, Bool.and_true]
      cases rest with
      | nil => rfl
      | cons c cs =>
          obtain ⟨-, -, he, hE⟩ := hrest.not_number
          simp [readExponent, he, hE]
  | @plain e ds he hds =>
      obtain ⟨d, more, rfl⟩ := List.exists_cons_of_ne_nil hds.1
      have hd : d.isDigit = true := hds.2 d (List.mem_cons_self ..)
      have hplus : d ≠ '+' := by rintro rfl; exact absurd hd (by decide)
      have hminus : d ≠ '-' := by rintro rfl; exact absurd hd (by decide)
      obtain ⟨htake, hdrop⟩ := takeWhile_digits hds hrest.noDigit
      rw [List.cons_append] at htake hdrop
      rcases he with rfl | rfl <;> simp [readExponent, hplus, hminus, htake, hdrop]
  | @plus e ds he hds =>
      obtain ⟨d, more, rfl⟩ := List.exists_cons_of_ne_nil hds.1
      obtain ⟨htake, hdrop⟩ := takeWhile_digits hds hrest.noDigit
      rw [List.cons_append] at htake hdrop
      rcases he with rfl | rfl <;> simp [readExponent, htake, hdrop]
  | @minus e ds he hds =>
      obtain ⟨d, more, rfl⟩ := List.exists_cons_of_ne_nil hds.1
      obtain ⟨htake, hdrop⟩ := takeWhile_digits hds hrest.noDigit
      rw [List.cons_append] at htake hdrop
      rcases he with rfl | rfl <;> simp [readExponent, htake, hdrop]

/-- What follows the digits of a number does not go on with a digit or a point. -/
theorem SpellsExponent.head_append {e : Option Int} {w rest : List Char} (h : SpellsExponent e w)
    (hrest : Ends rest) : NoDigit (w ++ rest) ∧ ∀ u, w ++ rest ≠ '.' :: u := by
  cases h with
  | missing =>
      refine ⟨hrest.noDigit, ?_⟩
      rintro u hu
      rw [List.nil_append] at hu
      subst hu
      exact hrest.not_number.2.1 rfl
  | plain he hds | plus he hds | minus he hds =>
      refine ⟨?_, ?_⟩
      · rintro c hc
        rcases he with rfl | rfl <;> (obtain rfl := Option.some.inj hc; decide)
      · rintro u hu
        rcases he with rfl | rfl <;> exact absurd (List.cons.inj hu).1 (by decide)

theorem IsWhole.not_padded {ds : List Char} (h : IsWhole ds) (c : Char) (cs : List Char) :
    ds ≠ '0' :: c :: cs := by
  rintro rfl
  rcases h.2 with h | h
  · exact absurd (List.cons.inj h).2 (List.cons_ne_nil c cs)
  · exact h rfl

/-- The digits before the point, or before the exponent, if there is no point. -/
theorem readNumber_of_digits {ds tail : List Char} (hds : IsWhole ds) (htail : NoDigit tail)
    (negative : Bool) :
    readNumber negative (ds ++ tail) =
      match tail with
      | '.' :: more =>
        match more.takeWhile Char.isDigit with
        | [] => (digitsMissing more, none)
        | places => readExponent negative ds places false (more.dropWhile Char.isDigit)
      | more => readExponent negative ds [] true more := by
  obtain ⟨htake, hdrop⟩ := takeWhile_digits hds.1 htail
  rw [readNumber, htake, hdrop]
  split
  · exact absurd rfl hds.1.1
  · exact absurd rfl (hds.not_padded _ _)
  · rfl
  · split
    · rename_i hpoint
      exact absurd rfl (hpoint _)
    · rfl

theorem readNumber_of_spells {negative : Bool} {n : Number} {w rest : List Char}
    (h : SpellsNumber negative n w) (hrest : Ends rest) :
    readNumber negative (w ++ rest) = (.number n, some rest) := by
  cases h with
  | @whole ds e w hds he =>
      obtain ⟨hdigit, hpoint⟩ := he.head_append hrest
      rw [List.append_assoc, readNumber_of_digits hds hdigit]
      split
      · rename_i htail _
        exact absurd htail (hpoint _)
      · exact readExponent_of_spells he hrest negative ds [] true
  | @point ds ps e w hds hps he =>
      have hpoint : NoDigit ('.' :: (ps ++ (w ++ rest))) := by
        rintro c hc
        obtain rfl := Option.some.inj hc
        decide
      obtain ⟨htake, hdrop⟩ := takeWhile_digits hps (he.head_append hrest).1
      obtain ⟨d, more, rfl⟩ := List.exists_cons_of_ne_nil hps.1
      rw [List.append_assoc, List.cons_append, List.append_assoc, readNumber_of_digits hds hpoint]
      simp only [htake, hdrop]
      exact readExponent_of_spells he hrest negative ds (d :: more) false

/-! ## Values -/

/-! White space, and the characters with which tokens begin and end. -/

theorem skipGap_append {g rest : List Char} (hg : IsGap g) : skipGap (g ++ rest) = skipGap rest :=
  List.dropWhile_append_of_pos hg

theorem skipGap_cons {c : Char} (hc : isGap c = false) (rest : List Char) :
    skipGap (c :: rest) = c :: rest := by
  rw [skipGap, List.dropWhile_cons, hc]
  rfl

theorem skipGap_append_cons {g : List Char} {c : Char} (hg : IsGap g) (hc : isGap c = false)
    (rest : List Char) : skipGap (g ++ c :: rest) = c :: rest := by
  rw [skipGap_append hg, skipGap_cons hc]

theorem isGap_nil : IsGap [] := fun _ hc => nomatch hc

theorem IsDigits.head {ds : List Char} (h : IsDigits ds) :
    ∃ d more, ds = d :: more ∧ d.isDigit = true := by
  obtain ⟨d, more, rfl⟩ := List.exists_cons_of_ne_nil h.1
  exact ⟨d, more, rfl, h.2 d (List.mem_cons_self ..)⟩

theorem SpellsNumber.head {negative : Bool} {n : Number} {w : List Char}
    (h : SpellsNumber negative n w) : ∃ d u, w = d :: u ∧ d.isDigit = true := by
  cases h with
  | whole hds | point hds =>
      obtain ⟨d, more, rfl, hd⟩ := hds.1.head
      exact ⟨d, _, rfl, hd⟩

theorem isGap_of_isDigit {d : Char} (h : d.isDigit = true) : isGap d = false := by
  rw [isGap, Bool.eq_false_iff]
  intro hgap
  simp only [Bool.or_eq_true, beq_iff_eq] at hgap
  rcases hgap with ((rfl | rfl) | rfl) | rfl <;> exact absurd h (by decide)

/-- A written value begins with a character that is neither white space nor a closing bracket. -/
theorem Spells.head {v : Value} {w : List Char} (h : Spells v w) :
    ∃ c u, w = c :: u ∧ isGap c = false ∧ c ≠ ']' := by
  cases h with
  | positive h =>
      obtain ⟨d, u, rfl, hd⟩ := h.head
      refine ⟨d, u, rfl, isGap_of_isDigit hd, ?_⟩
      rintro rfl
      exact absurd hd (by decide)
  | _ => exact ⟨_, _, rfl, by decide, by decide⟩

theorem Spells.skipGap {v : Value} {g w rest : List Char} (h : Spells v w) (hg : IsGap g) :
    skipGap (g ++ (w ++ rest)) = w ++ rest := by
  obtain ⟨c, u, rfl, hc, -⟩ := h.head
  rw [skipGap_append hg]
  exact skipGap_cons hc _

theorem ends_close {c : Char} (h : c = ']' ∨ c = '}' ∨ c = ',') (rest : List Char) :
    Ends (c :: rest) := by
  rintro d hd
  obtain rfl := Option.some.inj hd
  rcases h with rfl | rfl | rfl <;> simp

theorem ends_gap {g rest : List Char} (hg : IsGap g) (hrest : Ends rest) : Ends (g ++ rest) := by
  cases g with
  | nil => exact hrest
  | cons c cs =>
      rintro d hd
      obtain rfl := Option.some.inj hd
      exact Or.inl (hg c (List.mem_cons_self ..))

/-- A written array goes on with its first item. -/
theorem SpellsItems.head {items : Items} {w : List Char} (h : SpellsItems items w) :
    ∃ c u, w = c :: u ∧ isGap c = false ∧ c ≠ ']' := by
  cases h with
  | last h hg | more h hg hg' hmore =>
      obtain ⟨c, u, rfl, hc⟩ := h.head
      exact ⟨c, _, rfl, hc⟩

theorem SpellsFields.head {fields : Fields} {w : List Char} (h : SpellsFields fields w) :
    ∃ u, w = '"' :: u := by
  cases h with
  | last => exact ⟨_, rfl⟩
  | more => exact ⟨_, rfl⟩

/-! ## Values by their first characters -/

section Dispatch

variable {text rest : List Char} (fuel : Nat)

theorem readValue_digit {d : Char} (h : skipGap text = d :: rest) (hd : d.isDigit = true) :
    readValue (fuel + 1) text = readNumber false (d :: rest) := by
  rw [readValue.eq_def]
  dsimp only
  rw [h]
  dsimp only
  split
  · exact absurd hd (by decide)
  · exact absurd hd (by decide)
  · exact absurd hd (by decide)
  · exact absurd hd (by decide)
  · exact absurd hd (by decide)
  · exact absurd hd (by decide)
  · exact absurd hd (by decide)
  · exact if_pos hd

theorem readValue_minus (h : skipGap text = '-' :: rest) :
    readValue (fuel + 1) text = readNumber true rest := by
  rw [readValue.eq_def]
  dsimp only
  rw [h]
  rfl

theorem readValue_quote (h : skipGap text = '"' :: rest) :
    readValue (fuel + 1) text =
      match readString .start rest with
      | .closed (some s) rest => (.string s, some rest)
      | .closed none rest => (.unpaired, some rest)
      | .broken b => (.broken b, none) := by
  rw [readValue.eq_def]
  dsimp only
  rw [h]
  rfl

theorem readValue_bracket (h : skipGap text = '[' :: rest) :
    readValue (fuel + 1) text =
      match skipGap rest with
      | ']' :: rest => (.array .closed, some rest)
      | [] => (.array (.broken (.both .ended)), none)
      | rest => (.array (readItems fuel rest).1, (readItems fuel rest).2) := by
  rw [readValue.eq_def]
  dsimp only
  rw [h]
  rfl

theorem readValue_brace (h : skipGap text = '{' :: rest) :
    readValue (fuel + 1) text =
      match skipGap rest with
      | '}' :: rest => (.object .closed, some rest)
      | rest => (.object (readFields fuel rest).1, (readFields fuel rest).2) := by
  rw [readValue.eq_def]
  dsimp only
  rw [h]
  rfl

theorem readValue_emptyArray {more : List Char} (h : skipGap text = '[' :: rest)
    (hrest : skipGap rest = ']' :: more) :
    readValue (fuel + 1) text = (.array .closed, some more) := by
  rw [readValue_bracket fuel h, hrest]
  rfl

theorem readValue_array {c : Char} {more : List Char} (h : skipGap text = '[' :: rest)
    (hrest : skipGap rest = c :: more) (hc : c ≠ ']') :
    readValue (fuel + 1) text =
      (.array (readItems fuel (c :: more)).1, (readItems fuel (c :: more)).2) := by
  rw [readValue_bracket fuel h, hrest]
  split
  · rename_i heq
    exact absurd (List.cons.inj heq).1 hc
  · rename_i heq
    exact absurd heq (List.cons_ne_nil c more)
  · rfl

theorem readValue_emptyObject {more : List Char} (h : skipGap text = '{' :: rest)
    (hrest : skipGap rest = '}' :: more) :
    readValue (fuel + 1) text = (.object .closed, some more) := by
  rw [readValue_brace fuel h, hrest]
  rfl

theorem readValue_object {c : Char} {more : List Char} (h : skipGap text = '{' :: rest)
    (hrest : skipGap rest = c :: more) (hc : c ≠ '}') :
    readValue (fuel + 1) text =
      (.object (readFields fuel (c :: more)).1, (readFields fuel (c :: more)).2) := by
  rw [readValue_brace fuel h, hrest]
  split
  · rename_i heq
    exact absurd (List.cons.inj heq).1 hc
  · rfl

/-- The last item, before the closing bracket. -/
theorem readItems_last {v : Value} {more : List Char}
    (hv : readValue fuel text = (v, some rest)) (hrest : skipGap rest = ']' :: more) :
    readItems (fuel + 1) text = (.more v .closed, some more) := by
  rw [readItems, hv]
  dsimp only
  rw [hrest]
  rfl

/-- An item before a comma and another item. -/
theorem readItems_more {v : Value} {c : Char} {after more : List Char}
    (hv : readValue fuel text = (v, some rest)) (hrest : skipGap rest = ',' :: after)
    (hafter : skipGap after = c :: more) (hc : c ≠ ']') :
    readItems (fuel + 1) text =
      (.more v (readItems fuel (c :: more)).1, (readItems fuel (c :: more)).2) := by
  rw [readItems, hv]
  dsimp only
  rw [hrest]
  simp only [hafter]
  split
  · rename_i heq
    exact absurd (List.cons.inj heq).1 hc
  · rfl

/-- A field, behind its key and its colon. -/
theorem readFields_key {key : Option String} {after more : List Char}
    (h : skipGap text = '"' :: rest) (hkey : readString .start rest = .closed key after)
    (hafter : skipGap after = ':' :: more) :
    readFields (fuel + 1) text =
      match readValue fuel more with
      | (value, none) => (.more key value .closed, none)
      | (value, some rest) =>
        match skipGap rest with
        | '}' :: rest => (.more key value .closed, some rest)
        | ',' :: rest =>
          (.more key value (readFields fuel rest).1, (readFields fuel rest).2)
        | rest => (.more key value (.broken (.both (causeAt rest))), none) := by
  rw [readFields, h]
  simp only [hkey]
  rw [hafter]
  rfl

end Dispatch

-- By induction on the written form.  A value needs fuel for both of its brackets, which pays for the
-- step into them and for the first item; every further item is paid by its comma.
mutual

/-- **Reading a written value.** -/
theorem readValue_of_spells {v : Value} {w : List Char} (h : Spells v w) (fuel : Nat)
    (hfuel : 2 * w.length ≤ fuel) {g rest : List Char} (hg : IsGap g) (hrest : Ends rest) :
    readValue fuel (g ++ (w ++ rest)) = (v, some rest) := by
  have hskip : skipGap (g ++ (w ++ rest)) = w ++ rest := h.skipGap hg
  obtain ⟨n, rfl⟩ : ∃ n, fuel = n + 1 := by
    obtain ⟨c, u, rfl, -⟩ := h.head
    rw [List.length_cons] at hfuel
    exact ⟨fuel - 1, by omega⟩
  cases h with
  | null | yes | no =>
      rw [readValue.eq_def]
      dsimp only
      rw [hskip]
      rfl
  | positive h =>
      obtain ⟨d, u, rfl, hd⟩ := h.head
      rw [readValue_digit n hskip hd]
      exact readNumber_of_spells h hrest
  | negative h =>
      rw [readValue_minus n hskip]
      exact readNumber_of_spells h hrest
  | string h hcs =>
      rw [List.cons_append, List.append_assoc] at hskip ⊢
      rw [readValue_quote n hskip, List.singleton_append, readString_of_spells h, hcs]
      rfl
  | unpaired h hlone =>
      rw [List.cons_append, List.append_assoc] at hskip ⊢
      rw [readValue_quote n hskip, List.singleton_append, readString_of_spells h, hlone]
      rfl
  | emptyArray hg' =>
      rw [List.cons_append, List.append_assoc] at hskip ⊢
      refine readValue_emptyArray n hskip ?_
      rw [skipGap_append hg']
      exact skipGap_cons (by decide) rest
  | @array g' items u hg' h =>
      obtain ⟨c, more, rfl, hc, hclose⟩ := h.head
      have hitems : skipGap (g' ++ ((c :: more) ++ [']']) ++ rest) =
          c :: (more ++ ']' :: rest) := by
        rw [List.append_assoc, skipGap_append hg']
        simpa using skipGap_cons hc (more ++ ']' :: rest)
      have hread : readItems n ((c :: more) ++ ']' :: rest) = (items, some rest) :=
        readItems_of_spells h n
          (by simp only [List.length_append, List.length_cons] at hfuel ⊢; omega)
      rw [readValue_array n hskip hitems hclose, ← List.cons_append, hread]
  | emptyObject hg' =>
      rw [List.cons_append, List.append_assoc] at hskip ⊢
      refine readValue_emptyObject n hskip ?_
      rw [skipGap_append hg']
      exact skipGap_cons (by decide) rest
  | @object g' fields u hg' h =>
      obtain ⟨more, rfl⟩ := h.head
      have hfields : skipGap (g' ++ (('"' :: more) ++ ['}']) ++ rest) =
          '"' :: (more ++ '}' :: rest) := by
        rw [List.append_assoc, skipGap_append hg']
        simpa using skipGap_cons (show isGap '"' = false by decide) (more ++ '}' :: rest)
      have hread : readFields n ([] ++ (('"' :: more) ++ '}' :: rest)) = (fields, some rest) :=
        readFields_of_spells h n
          (by simp only [List.length_append, List.length_cons] at hfuel ⊢; omega) isGap_nil
      rw [List.nil_append] at hread
      rw [readValue_object n hskip hfields (by decide), ← List.cons_append, hread]

/-- Reading the items of a written array. -/
theorem readItems_of_spells {items : Items} {w : List Char} (h : SpellsItems items w) (fuel : Nat)
    (hfuel : 2 * w.length + 1 ≤ fuel) {rest : List Char} :
    readItems fuel (w ++ ']' :: rest) = (items, some rest) := by
  obtain ⟨n, rfl⟩ : ∃ n, fuel = n + 1 := ⟨fuel - 1, by omega⟩
  cases h with
  | @last v w g h hg =>
      have hv := readValue_of_spells h n (by rw [List.length_append] at hfuel; omega) isGap_nil
        (ends_gap hg (ends_close (Or.inl rfl) rest))
      rw [List.append_assoc]
      exact readItems_last n hv (skipGap_append_cons hg (by decide) rest)
  | @more v w g g' items u h hg hg' hmore =>
      simp only [List.length_append, List.length_cons] at hfuel
      have hv := readValue_of_spells h n (by omega) isGap_nil
        (ends_gap hg (ends_close (Or.inr (Or.inr rfl)) (g' ++ (u ++ ']' :: rest))))
      have hmore' : readItems n (u ++ ']' :: rest) = (items, some rest) :=
        readItems_of_spells hmore n (by omega)
      obtain ⟨c, cs, rfl, hc, hclose⟩ := hmore.head
      simp only [List.nil_append, List.append_assoc, List.cons_append] at hv ⊢
      rw [readItems_more n hv (skipGap_append_cons hg (by decide) _)
        (skipGap_append_cons hg' hc _) hclose]
      rw [List.cons_append] at hmore'
      rw [hmore']

/-- Reading the fields of a written object. -/
theorem readFields_of_spells {fields : Fields} {w : List Char} (h : SpellsFields fields w)
    (fuel : Nat) (hfuel : 2 * w.length + 1 ≤ fuel) {g rest : List Char} (hg : IsGap g) :
    readFields fuel (g ++ (w ++ '}' :: rest)) = (fields, some rest) := by
  obtain ⟨n, rfl⟩ : ∃ n, fuel = n + 1 := ⟨fuel - 1, by omega⟩
  cases h with
  | @last signs k g₁ g₂ v w g₃ hkey hg₁ hg₂ h hg₃ =>
      simp only [List.length_append, List.length_cons] at hfuel
      have hv := readValue_of_spells h n (by omega) hg₂
        (ends_gap hg₃ (ends_close (Or.inr (Or.inl rfl)) rest))
      simp only [List.append_assoc, List.cons_append]
      rw [readFields_key n (skipGap_append_cons hg (by decide) _) (readString_of_spells hkey _)
        (skipGap_append_cons hg₁ (by decide) _), hv]
      dsimp only
      rw [skipGap_append_cons hg₃ (by decide)]
      rfl
  | @more signs k g₁ g₂ v w g₃ g₄ fields u hkey hg₁ hg₂ h hg₃ hg₄ hmore =>
      simp only [List.length_append, List.length_cons] at hfuel
      have hv := readValue_of_spells h n (by omega) hg₂
        (ends_gap hg₃ (ends_close (Or.inr (Or.inr rfl)) (g₄ ++ (u ++ '}' :: rest))))
      have hmore' : readFields n (g₄ ++ (u ++ '}' :: rest)) = (fields, some rest) :=
        readFields_of_spells hmore n (by omega) hg₄
      simp only [List.append_assoc, List.cons_append]
      rw [readFields_key n (skipGap_append_cons hg (by decide) _) (readString_of_spells hkey _)
        (skipGap_append_cons hg₁ (by decide) _), hv]
      dsimp only
      rw [skipGap_append_cons hg₃ (by decide)]
      change (Fields.more _ v (readFields n _).1, (readFields n _).2) = _
      rw [hmore']

end

/-- **Reading a written text.**  A written form of a value, with white space around it and
between its tokens and with any escapes in its strings, is read as that value, to the end. -/
theorem read_of_spellsText {v : Value} {text : String} (h : SpellsText v text) :
    read text = ⟨v, true⟩ := by
  obtain ⟨g, w, g', hg, hw, hg', htext⟩ := h
  have hends : Ends g' := by
    intro c hc
    exact Or.inl (hg' c (List.mem_of_mem_head? hc))
  have hread := readValue_of_spells hw (2 * text.toList.length + 2)
    (by simp only [htext, List.length_append]; omega) hg hends
  have hskip : skipGap g' = [] := List.dropWhile_eq_nil_iff.2 hg'
  rw [← htext] at hread
  rw [read, hread]
  dsimp only
  rw [hskip]
  rfl

end SqlxDryRun.Json
