import SqlxDryRun.Proofs.Json.Parts
import SqlxDryRun.Proofs.Json.Shape

/-!
# Only written forms are read

`read_of_spellsText` says that every written form of a value is read as this value.  Here is the
other direction: whatever is read to its end has been written in front of the text that is left.  So
a text holds a value just if it spells it (`read_eq_iff`), and to decode a text is to decode the
value that it spells (`decodeText_eq_ok_iff`).

The proof follows the functions of the reader, each of which leaves a rest only behind a written
form.
-/

namespace SqlxDryRun.Json

/-! ## Strings -/

/-- A string that is closed has been written in front of the text that is left. -/
theorem spellsSigns_of_readString {p : Partial} {text rest : List Char} {s : Option String}
    (h : readString p text = .closed s rest) :
    ∃ signs w, SpellsSigns signs w ∧ text = w ++ '"' :: rest ∧
      s = (signs.foldl Partial.take p).finish := by
  fun_induction readString p text with
  | case1 | case3 | case5 | case6 | case8 | case9 => cases h
  | case2 p more =>
      cases h
      exact ⟨[], [], .nil, rfl, rfl⟩
  | case4 p a b c d more n hn ih =>
      obtain ⟨signs, w, hw, rfl, rfl⟩ := ih h
      exact ⟨_, _, .unit hn hw, rfl, rfl⟩
  | case7 p c more hmore hu e he ih =>
      obtain ⟨signs, w, hw, rfl, rfl⟩ := ih h
      exact ⟨_, _, .short he hw, rfl, by rw [Partial.push_settle]; rfl⟩
  | case10 p c more hquote hlast hunit hu hescape hcontrol ih =>
      have hplain : c ≠ '\\' := by
        intro hc
        cases more with
        | nil => exact hlast hc rfl
        | cons d more => exact hescape d more hc rfl
      obtain ⟨signs, w, hw, rfl, rfl⟩ := ih h
      exact ⟨_, _, .plain hquote hplain hcontrol hw, rfl, rfl⟩

theorem spellsSigns_of_readString_start {text rest : List Char} {s : Option String}
    (h : readString .start text = .closed s rest) :
    ∃ signs w, SpellsSigns signs w ∧ text = w ++ '"' :: rest ∧
      s = (charsOf signs).map String.ofList := by
  obtain ⟨signs, w, hw, htext, hs⟩ := spellsSigns_of_readString h
  rw [Partial.start, finish_foldl] at hs
  exact ⟨signs, w, hw, htext, hs⟩

/-! ## Numbers -/

/-- The digits at the head of a text, if there are any, and what follows them. -/
theorem isDigits_of_takeWhile {text ds : List Char} (h : text.takeWhile Char.isDigit = ds)
    (hne : ds ≠ []) : IsDigits ds ∧ text = ds ++ text.dropWhile Char.isDigit := by
  subst h
  exact ⟨⟨hne, fun c hc => List.mem_takeWhile_imp hc⟩, List.takeWhile_append_dropWhile.symm⟩

theorem isDigits_of_readExponent {value : List Char → Value} {text rest : List Char} {v : Value}
    (h : (match text.takeWhile Char.isDigit with
      | [] => (digitsMissing text, none)
      | ds => (value ds, some (text.dropWhile Char.isDigit))) = (v, some rest)) :
    ∃ ds, IsDigits ds ∧ text = ds ++ rest ∧ v = value ds := by
  split at h
  · cases h
  · rename_i hne
    obtain ⟨hds, htext⟩ := isDigits_of_takeWhile rfl hne
    cases h
    exact ⟨_, hds, htext, rfl⟩

/-- An exponent, or none. -/
theorem spellsExponent_of_readExponent {negative isPlain : Bool} {digits places text : List Char}
    {v : Value} {rest : List Char}
    (h : readExponent negative digits places isPlain text = (v, some rest)) :
    ∃ e w, SpellsExponent e w ∧ text = w ++ rest ∧
      v = .number (.ofDigits negative digits places (e.getD 0) (isPlain && e.isNone)) := by
  cases text with
  | nil =>
      cases h
      exact ⟨none, [], .missing, rfl, by rw [Option.isNone_none, Bool.and_true]; rfl⟩
  | cons c more =>
      rw [readExponent.eq_def] at h
      dsimp only at h
      split at h
      · rename_i he
        simp only [Bool.or_eq_true, beq_iff_eq] at he
        obtain ⟨ds, hds, htext, rfl⟩ := isDigits_of_readExponent h
        revert htext
        split
        · rintro rfl
          exact ⟨_, _, .plus he hds, rfl, by rw [Option.isNone_some, Bool.and_false]; rfl⟩
        · rintro rfl
          exact ⟨_, _, .minus he hds, rfl, by rw [Option.isNone_some, Bool.and_false]; rfl⟩
        · rintro rfl
          exact ⟨_, _, .plain he hds, rfl, by rw [Option.isNone_some, Bool.and_false]; rfl⟩
      · cases h
        exact ⟨none, [], .missing, rfl, by rw [Option.isNone_none, Bool.and_true]; rfl⟩

theorem spellsNumber_of_readNumber {negative : Bool} {text rest : List Char} {v : Value}
    (h : readNumber negative text = (v, some rest)) :
    ∃ n w, SpellsNumber negative n w ∧ text = w ++ rest ∧ v = .number n := by
  have hwhole {ds : List Char} (hds : IsDigits ds) (hzero : ∀ c cs, ds ≠ '0' :: c :: cs) :
      IsWhole ds := by
    refine ⟨hds, ?_⟩
    cases ds with
    | nil => exact absurd rfl hds.1
    | cons d ds =>
        by_cases hd : d = '0'
        · subst hd
          cases ds with
          | nil => exact Or.inl rfl
          | cons c cs => exact absurd rfl (hzero c cs)
        · exact Or.inr fun hhead => hd (Option.some.inj hhead)
  rw [readNumber] at h
  split at h
  · cases h
  · cases h
  · rename_i more hpoint hne hzero
    generalize hdigits : text.takeWhile Char.isDigit = ds at h hne hzero
    obtain ⟨hds, htext⟩ := isDigits_of_takeWhile hdigits hne
    rw [hpoint] at htext
    split at h
    · cases h
    · rename_i hmore
      generalize hplaces : more.takeWhile Char.isDigit = ps at h hmore
      obtain ⟨hps, hbehind⟩ := isDigits_of_takeWhile hplaces hmore
      obtain ⟨e, w, he, hrest, rfl⟩ := spellsExponent_of_readExponent h
      rw [hbehind, hrest] at htext
      rw [Bool.false_and]
      exact ⟨_, _, .point (hwhole hds hzero) hps he, by rw [htext]; simp, rfl⟩
  · rename_i hne hzero _
    generalize hdigits : text.takeWhile Char.isDigit = ds at h hne hzero
    obtain ⟨hds, htext⟩ := isDigits_of_takeWhile hdigits hne
    obtain ⟨e, w, he, hrest, rfl⟩ := spellsExponent_of_readExponent h
    rw [hrest] at htext
    rw [Bool.true_and]
    exact ⟨_, _, .whole (hwhole hds hzero) he, by rw [htext, List.append_assoc], rfl⟩

/-! ## Values -/

theorem eq_of_readWord {v v' : Value} {word text rest : List Char}
    (h : readWord v word text = (v', some rest)) : v' = v ∧ text = word ++ rest := by
  fun_induction readWord v word text with
  | case1 text =>
      cases h
      exact ⟨rfl, rfl⟩
  | case2 | case4 => cases h
  | case3 w word c text hc ih =>
      obtain ⟨hv, rfl⟩ := ih h
      exact ⟨hv, by rw [beq_iff_eq.1 hc]; rfl⟩

/-- A string, behind its opening quote. -/
theorem spells_of_quote {text rest : List Char} {v : Value}
    (h : (match readString .start text with
      | .closed (some s) rest => (.string s, some rest)
      | .closed none rest => (.unpaired, some rest)
      | .broken b => (.broken b, none)) = (v, some rest)) :
    ∃ w, Spells v w ∧ '"' :: text = w ++ rest := by
  split at h
  · rename_i hread
    cases h
    obtain ⟨signs, w, hw, rfl, hs⟩ := spellsSigns_of_readString_start hread
    obtain ⟨cs, hcs, rfl⟩ := Option.map_eq_some_iff.1 hs.symm
    exact ⟨_, .string hw hcs, by simp⟩
  · rename_i hread
    cases h
    obtain ⟨signs, w, hw, rfl, hs⟩ := spellsSigns_of_readString_start hread
    exact ⟨_, .unpaired hw (Option.map_eq_none_iff.1 hs.symm), by simp⟩
  · cases h

/-- A gap, and the text behind it. -/
theorem gap_skipGap (text : List Char) : ∃ g, IsGap g ∧ text = g ++ skipGap text :=
  ⟨text.takeWhile isGap, fun _ hc => List.mem_takeWhile_imp hc,
    List.takeWhile_append_dropWhile.symm⟩

-- By induction on the fuel, along the three functions of the reader.  What was read of the text is
-- put behind the gap that was skipped before.
mutual

/-- A value that is read to its end has been written behind a gap. -/
theorem spells_of_readValue {fuel : Nat} {text rest : List Char} {v : Value}
    (h : readValue fuel text = (v, some rest)) :
    ∃ g w, IsGap g ∧ Spells v w ∧ text = g ++ (w ++ rest) := by
  obtain ⟨g, hg, htext⟩ := gap_skipGap text
  suffices hw : ∃ w, Spells v w ∧ skipGap text = w ++ rest by
    obtain ⟨w, hw, hskip⟩ := hw
    exact ⟨g, w, hg, hw, by rw [← hskip]; exact htext⟩
  cases fuel with
  | zero =>
      rw [readValue.eq_def] at h
      cases h
  | succ fuel =>
      rw [readValue.eq_def] at h
      dsimp only at h
      cases hskip : skipGap text with
      | nil =>
          rw [hskip] at h
          cases h
      | cons c more =>
          rw [hskip] at h
          dsimp only at h
          split at h
          · obtain ⟨rfl, rfl⟩ := eq_of_readWord h
            exact ⟨_, .null, rfl⟩
          · obtain ⟨rfl, rfl⟩ := eq_of_readWord h
            exact ⟨_, .yes, rfl⟩
          · obtain ⟨rfl, rfl⟩ := eq_of_readWord h
            exact ⟨_, .no, rfl⟩
          · obtain ⟨n, w, hw, rfl, rfl⟩ := spellsNumber_of_readNumber h
            exact ⟨_, .negative hw, rfl⟩
          · exact spells_of_quote h
          · -- An array: the items go on behind the gap that follows the bracket.
            obtain ⟨g', hg', hmore⟩ := gap_skipGap more
            split at h
            · rename_i hclose
              cases h
              exact ⟨_, .emptyArray hg', by rw [hmore, hclose]; simp⟩
            · cases h
            · obtain ⟨rfl, hitems⟩ := Prod.mk.inj h
              obtain ⟨g'', w, hg'', hw, hbehind⟩ := spellsItems_of_readItems (Prod.ext rfl hitems)
              exact ⟨_, .array (hg'.append hg'') hw, by rw [hmore, hbehind]; simp⟩
          · -- An object, in the same way.
            obtain ⟨g', hg', hmore⟩ := gap_skipGap more
            split at h
            · rename_i hclose
              cases h
              exact ⟨_, .emptyObject hg', by rw [hmore, hclose]; simp⟩
            · obtain ⟨rfl, hfields⟩ := Prod.mk.inj h
              obtain ⟨g'', w, hg'', hw, hbehind⟩ :=
                spellsFields_of_readFields (Prod.ext rfl hfields)
              exact ⟨_, .object (hg'.append hg'') hw, by rw [hmore, hbehind]; simp⟩
          · split at h
            · obtain ⟨n, w, hw, htext, rfl⟩ := spellsNumber_of_readNumber h
              exact ⟨_, .positive hw, htext⟩
            · cases h

/-- Items that are read up to the bracket have been written behind a gap. -/
theorem spellsItems_of_readItems {fuel : Nat} {text rest : List Char} {items : Items}
    (h : readItems fuel text = (items, some rest)) :
    ∃ g w, IsGap g ∧ SpellsItems items w ∧ text = g ++ (w ++ ']' :: rest) := by
  cases fuel with
  | zero =>
      rw [readItems] at h
      cases h
  | succ fuel =>
      rw [readItems] at h
      split at h
      · cases h
      · rename_i item more hvalue
        obtain ⟨g, w, hg, hw, rfl⟩ := spells_of_readValue hvalue
        obtain ⟨g₁, hg₁, hmore⟩ := gap_skipGap more
        split at h
        · rename_i hclose
          cases h
          exact ⟨g, _, hg, .last hw hg₁, by rw [hmore, hclose]; simp⟩
        · rename_i behind hcomma
          obtain ⟨g₂, hg₂, hbehind⟩ := gap_skipGap behind
          split at h
          · cases h
          · obtain ⟨rfl, hitems⟩ := Prod.mk.inj h
            obtain ⟨g₃, u, hg₃, hu, hrest⟩ := spellsItems_of_readItems (Prod.ext rfl hitems)
            exact ⟨g, _, hg, .more hw hg₁ (hg₂.append hg₃) hu,
              by rw [hmore, hcomma, hbehind, hrest]; simp⟩
        · cases h

/-- Fields that are read up to the brace have been written behind a gap. -/
theorem spellsFields_of_readFields {fuel : Nat} {text rest : List Char} {fields : Fields}
    (h : readFields fuel text = (fields, some rest)) :
    ∃ g w, IsGap g ∧ SpellsFields fields w ∧ text = g ++ (w ++ '}' :: rest) := by
  cases fuel with
  | zero =>
      rw [readFields] at h
      cases h
  | succ fuel =>
      obtain ⟨g, hg, htext⟩ := gap_skipGap text
      rw [readFields] at h
      split at h
      · rename_i hquote
        split at h
        · cases h
        · rename_i behind hkey
          obtain ⟨signs, k, hk, rfl, rfl⟩ := spellsSigns_of_readString_start hkey
          obtain ⟨g₁, hg₁, hbehind⟩ := gap_skipGap behind
          split at h
          · rename_i hcolon
            split at h
            · cases h
            · rename_i more hvalue
              obtain ⟨g₂, w, hg₂, hw, rfl⟩ := spells_of_readValue hvalue
              obtain ⟨g₃, hg₃, hmore⟩ := gap_skipGap more
              split at h
              · rename_i hclose
                cases h
                exact ⟨g, _, hg, .last hk hg₁ hg₂ hw hg₃,
                  by rw [htext, hquote, hbehind, hcolon, hmore, hclose]; simp⟩
              · rename_i hcomma
                obtain ⟨rfl, hfields⟩ := Prod.mk.inj h
                obtain ⟨g₄, u, hg₄, hu, hrest⟩ :=
                  spellsFields_of_readFields (Prod.ext rfl hfields)
                exact ⟨g, _, hg, .more hk hg₁ hg₂ hw hg₃ hg₄ hu,
                  by rw [htext, hquote, hbehind, hcolon, hmore, hcomma, hrest]; simp⟩
              · cases h
          · cases h
      · cases h

end

/-! ## Whole texts -/

/-- **What a text is read as is what it spells.** -/
theorem read_eq_iff {v : Value} {text : String} : read text = ⟨v, true⟩ ↔ SpellsText v text := by
  refine ⟨fun h => ?_, read_of_spellsText⟩
  rw [read] at h
  split at h
  · rename_i rest hvalue
    obtain ⟨rfl, hall⟩ := Content.mk.inj h
    obtain ⟨g, w, hg, hw, htext⟩ := spells_of_readValue hvalue
    have hrest : IsGap rest := List.dropWhile_eq_nil_iff.1 (List.isEmpty_iff.1 hall)
    exact ⟨g, w, rest, hg, hw, hrest, htext⟩
  · cases (Content.mk.inj h).2

/-- **Decoding a text is decoding the value that it spells.** -/
theorem decodeText_eq_ok_iff {α : Type} {decode : Decoder α} {text : String} {a : α} :
    decodeText decode text = .ok a ↔ ∃ v, SpellsText v text ∧ decode v = .ok a := by
  constructor
  · intro h
    obtain ⟨b, hdecode, h⟩ := bind_eq_ok.1 h
    split at h
    · rename_i hall
      obtain rfl := Except.ok.inj h
      have hread : read text = ⟨(read text).value, true⟩ := by rw [← hall]
      exact ⟨_, read_eq_iff.1 hread, hdecode⟩
    · cases h
  · rintro ⟨v, hspells, hdecode⟩
    rw [decodeText, read_of_spellsText hspells]
    exact bind_eq_ok.2 ⟨a, hdecode, if_pos rfl⟩

end SqlxDryRun.Json
