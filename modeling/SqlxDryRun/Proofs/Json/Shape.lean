import SqlxDryRun.Proofs.Json.Edits
import SqlxDryRun.Proofs.Json.Reading
import SqlxDryRun.Text.Blank

/-!
# What written values look like

A written value has white space at none of its ends (`Spells.isTight`), so a line that spells a
value is not blank, and the carriage return of its line end may stay or go.  What is written has no
break (`Spells.isWhole`).
-/

namespace SqlxDryRun.Json

/-! ## Both ends of a written value -/

theorem IsDigits.not_blank {ds : List Char} (h : IsDigits ds) :
    ∀ c ∈ ds, Text.isBlank c = false := by
  intro c hc
  have hdigit := h.2 c hc
  simp only [Char.isDigit, Bool.and_eq_true, decide_eq_true_eq, UInt32.le_iff_toNat_le] at hdigit
  have hlow : 48 ≤ c.toNat := hdigit.1
  have hhigh : c.toNat ≤ 57 := hdigit.2
  simp [Text.isBlank]
  omega

theorem SpellsExponent.not_blank {e : Option Int} {w : List Char} (h : SpellsExponent e w) :
    ∀ c ∈ w, Text.isBlank c = false := by
  cases h with
  | missing => exact fun c hc => nomatch hc
  | plain he hds =>
      refine List.forall_mem_cons.2 ⟨?_, hds.not_blank⟩
      rcases he with rfl | rfl <;> decide
  | plus he hds | minus he hds =>
      refine List.forall_mem_cons.2 ⟨?_, List.forall_mem_cons.2 ⟨by decide, hds.not_blank⟩⟩
      rcases he with rfl | rfl <;> decide

theorem SpellsNumber.not_blank {negative : Bool} {n : Number} {w : List Char}
    (h : SpellsNumber negative n w) : w ≠ [] ∧ ∀ c ∈ w, Text.isBlank c = false := by
  cases h with
  | whole hds he =>
      exact ⟨by simp [hds.1.1], List.forall_mem_append.2 ⟨hds.1.not_blank, he.not_blank⟩⟩
  | point hds hps he =>
      exact ⟨by simp, List.forall_mem_append.2 ⟨hds.1.not_blank, List.forall_mem_cons.2
        ⟨by decide, List.forall_mem_append.2 ⟨hps.not_blank, he.not_blank⟩⟩⟩⟩

/-- A text that is not empty and has white space at none of its ends. -/
def IsTight (w : List Char) : Prop :=
  w ≠ [] ∧ (∀ c ∈ w.head?, Text.isBlank c = false) ∧ ∀ c ∈ w.getLast?, Text.isBlank c = false

theorem isTight_of_not_blank {w : List Char} (hne : w ≠ []) (h : ∀ c ∈ w, Text.isBlank c = false) :
    IsTight w :=
  ⟨hne, fun c hc => h c (List.mem_of_mem_head? hc), fun c hc => h c (List.mem_of_getLast? hc)⟩

theorem isTight_cons_concat {first last : Char} (hfirst : Text.isBlank first = false)
    (hlast : Text.isBlank last = false) (u : List Char) : IsTight (first :: (u ++ [last])) := by
  refine ⟨List.cons_ne_nil _ _, ?_, ?_⟩
  · rintro c ⟨⟩
    exact hfirst
  · intro c hc
    rw [← List.cons_append, List.getLast?_concat] at hc
    obtain rfl := Option.some.inj hc
    exact hlast

/-- A written value has white space at none of its ends. -/
theorem Spells.isTight {v : Value} {w : List Char} (h : Spells v w) : IsTight w := by
  cases h with
  | null | yes | no => exact isTight_of_not_blank (by simp) (by simp [Text.isBlank])
  | positive h => exact isTight_of_not_blank h.not_blank.1 h.not_blank.2
  | negative h =>
      exact isTight_of_not_blank (by simp) (List.forall_mem_cons.2 ⟨by decide, h.not_blank.2⟩)
  | string | unpaired | emptyArray | emptyObject =>
      exact isTight_cons_concat (by decide) (by decide) _
  | array | object =>
      rw [← List.append_assoc]
      exact isTight_cons_concat (by decide) (by decide) _

theorem IsGap.append {g g' : List Char} (hg : IsGap g) (hg' : IsGap g') : IsGap (g ++ g') :=
  fun c hc => (List.mem_append.1 hc).elim (hg c) (hg' c)

/-- A text that spells a value is not blank. -/
theorem SpellsText.not_blank {v : Value} {text : String} (h : SpellsText v text) :
    Text.isBlankText text = false := by
  obtain ⟨g, w, g', -, hw, -, htext⟩ := h
  obtain ⟨hne, hfirst, -⟩ := hw.isTight
  obtain ⟨c, u, rfl⟩ := List.exists_cons_of_ne_nil hne
  rw [Text.isBlankText, List.all_eq_false]
  exact ⟨c, by simp [htext], by rw [hfirst c rfl]; exact Bool.false_ne_true⟩

/-- A line that ends in a carriage return spells the same value without it. -/
theorem spellsText_concat_return {v : Value} {line : List Char} :
    SpellsText v (String.ofList (line ++ ['\r'])) ↔ SpellsText v (String.ofList line) := by
  have hreturn : IsGap ['\r'] := by decide
  simp only [SpellsText, String.toList_ofList]
  constructor
  · rintro ⟨g, w, g', hg, hw, hg', hline⟩
    obtain ⟨hne, -, hlast⟩ := hw.isTight
    rcases List.eq_nil_or_concat' g' with rfl | ⟨more, c, rfl⟩
    · -- The value would end in the carriage return.
      obtain ⟨u, c, rfl⟩ := (List.eq_nil_or_concat' w).resolve_left hne
      rw [List.append_nil, ← List.append_assoc] at hline
      obtain ⟨-, heq⟩ := List.append_inj' hline rfl
      have hc := hlast c List.getLast?_concat
      rw [← List.singleton_inj.1 heq] at hc
      exact absurd hc (by decide)
    · rw [← List.append_assoc, ← List.append_assoc] at hline
      obtain ⟨hline, -⟩ := List.append_inj' hline rfl
      exact ⟨g, w, more, hg, hw, fun d hd => hg' d (List.mem_append_left _ hd),
        by rw [hline, List.append_assoc]⟩
  · rintro ⟨g, w, g', hg, hw, hg', rfl⟩
    exact ⟨g, w, g' ++ ['\r'], hg, hw, hg'.append hreturn, by simp⟩

/-! ## Values without breaks -/

mutual

/-- A value that can be written has no break. -/
theorem Spells.isWhole {v : Value} {w : List Char} (h : Spells v w) : v.isWhole = true := by
  cases h with
  | array _ h =>
      rw [Value.isWhole]
      exact h.isWhole
  | object _ h =>
      rw [Value.isWhole]
      exact h.isWhole
  | _ => rfl

theorem SpellsItems.isWhole {items : Items} {w : List Char} (h : SpellsItems items w) :
    items.isWhole = true := by
  cases h with
  | last h =>
      rw [Items.isWhole, h.isWhole]
      rfl
  | more h _ _ hmore => rw [Items.isWhole, h.isWhole, hmore.isWhole, Bool.and_true]

theorem SpellsFields.isWhole {fields : Fields} {w : List Char} (h : SpellsFields fields w) :
    fields.isWhole = true := by
  cases h with
  | last _ _ _ h =>
      rw [Fields.isWhole, h.isWhole]
      rfl
  | more _ _ _ h _ _ hmore => rw [Fields.isWhole, h.isWhole, hmore.isWhole, Bool.and_true]

end

end SqlxDryRun.Json
