import SqlxDryRun.Json.Writer
import SqlxDryRun.Proofs.Json.Reading

/-!
# The text of a value is a written form of it

Values that are put together from words and strings are written in one of their written forms
(`WritesBack`), whatever characters stand in the strings.  With `read_of_spellsText` this is the
round trip through a text (`read_text`).
-/

namespace SqlxDryRun.Json

/-! ## Strings -/

/-- What the written form of a character stands for: control characters are written as units. -/
def signOf (c : Char) : Sign :=
  if c.toNat < 0x20 then .unit c.toNat else .char c

/-- The two last digits of an escaped control character. -/
theorem hex4?_hexDigit {n : Nat} (hn : n < 0x20) :
    hex4? '0' '0' (hexDigit (n / 16)) (hexDigit (n % 16)) = some n := by
  revert n
  decide

theorem spellsSigns_escaped (c : Char) {signs : List Sign} {w : List Char}
    (h : SpellsSigns signs w) : SpellsSigns (signOf c :: signs) (escaped c ++ w) := by
  by_cases hquote : c = '"'
  · subst hquote
    exact .short rfl h
  · by_cases hescape : c = '\\'
    · subst hescape
      exact .short rfl h
    · rw [escaped, if_neg (mt beq_iff_eq.1 hquote), if_neg (mt beq_iff_eq.1 hescape), signOf]
      by_cases hcontrol : c.toNat < 0x20
      · rw [if_pos hcontrol, if_pos hcontrol]
        exact .unit (hex4?_hexDigit hcontrol) h
      · rw [if_neg hcontrol, if_neg hcontrol]
        exact .plain hquote hescape hcontrol h

theorem spellsSigns_flatMap (cs : List Char) :
    SpellsSigns (cs.map signOf) (cs.flatMap escaped) := by
  induction cs with
  | nil => exact .nil
  | cons c cs ih => exact spellsSigns_escaped c ih

theorem charsOf_map_signOf (cs : List Char) : charsOf (cs.map signOf) = some cs := by
  induction cs with
  | nil => rfl
  | cons c cs ih =>
      by_cases hcontrol : c.toNat < 0x20
      · have hlead : isLeadUnit c.toNat = false := by simp [isLeadUnit]; omega
        have htrail : isTrailUnit c.toNat = false := by simp [isTrailUnit]; omega
        rw [List.map_cons, signOf, if_pos hcontrol, charsOf_unit hlead htrail, ih, Option.map_some,
          Char.ofNat_toNat]
      · rw [List.map_cons, signOf, if_neg hcontrol, charsOf, ih]
        rfl

theorem charsOf_toList (s : String) :
    (charsOf (s.toList.map signOf)).map String.ofList = some s := by
  rw [charsOf_map_signOf, Option.map_some, String.ofList_toList]

theorem toList_quoted (s : String) :
    (quoted s).toList = '"' :: (s.toList.flatMap escaped ++ ['"']) := by
  simp [quoted]

/-! ## Values -/

/-- The text of a value is a written form of it. -/
def WritesBack (v : Value) : Prop :=
  ∃ w, Spells v w ∧ ∀ done, (v.writeTo done).toList = done.toList ++ w

namespace WritesBack

theorem null : WritesBack .null :=
  ⟨_, .null, fun done => by simp [Value.writeTo]⟩

theorem string (s : String) : WritesBack (.string s) := by
  have h : Spells (.string s) ('"' :: (s.toList.flatMap escaped ++ ['"'])) := by
    have := Spells.string (spellsSigns_flatMap s.toList) (charsOf_map_signOf s.toList)
    rwa [String.ofList_toList] at this
  exact ⟨_, h, fun done => by rw [Value.writeTo, String.toList_append, toList_quoted]⟩

/-- Items behind the bracket, or behind an item and its comma. -/
theorem items {v : Value} {vs : List Value} (h : ∀ x ∈ v :: vs, WritesBack x) :
    ∃ w, SpellsItems (.ofList (v :: vs)) w ∧ ∀ first done,
      ((Items.ofList (v :: vs)).writeTo first done).toList =
        (if first then done else done ++ ",").toList ++ w := by
  induction vs generalizing v with
  | nil =>
      obtain ⟨w, hw, hwrite⟩ := h v (List.mem_cons_self ..)
      refine ⟨w ++ [], .last hw isGap_nil, fun first done => ?_⟩
      rw [List.append_nil]
      exact hwrite _
  | cons x xs ih =>
      obtain ⟨w, hw, hwrite⟩ := h v (List.mem_cons_self ..)
      obtain ⟨u, hu, hmore⟩ := ih fun y hy => h y (List.mem_cons_of_mem _ hy)
      refine ⟨w ++ ([] ++ ',' :: ([] ++ u)), .more hw isGap_nil isGap_nil hu, fun first done => ?_⟩
      rw [Items.ofList, Items.writeTo, hmore false, if_neg Bool.false_ne_true, String.toList_append,
        hwrite]
      simp

theorem ofItems {vs : List Value} (h : ∀ v ∈ vs, WritesBack v) : WritesBack (.ofItems vs) := by
  cases vs with
  | nil => exact ⟨_, .emptyArray isGap_nil, fun done => by
      simp [Value.ofItems, Items.ofList, Value.writeTo, Items.writeTo]⟩
  | cons v vs =>
      obtain ⟨w, hw, hwrite⟩ := items h
      refine ⟨_, .array isGap_nil hw, fun done => ?_⟩
      simp [Value.ofItems, Value.writeTo, hwrite]

/-- A key and its value. -/
theorem field {key : String} {v : Value} {w : List Char}
    (h : ∀ done, (v.writeTo done).toList = done.toList ++ w) (done : String) :
    (v.writeTo (done ++ quoted key ++ ":")).toList =
      done.toList ++ '"' :: (key.toList.flatMap escaped ++ '"' :: ([] ++ ':' :: ([] ++ w))) := by
  rw [h, String.toList_append, String.toList_append, toList_quoted]
  simp

/-- Fields behind the brace, or behind a field and its comma. -/
theorem fields {key : String} {v : Value} {kvs : List (String × Value)}
    (h : ∀ x ∈ (key, v) :: kvs, WritesBack x.2) :
    ∃ w, SpellsFields (.ofList ((key, v) :: kvs)) w ∧ ∀ first done,
      ((Fields.ofList ((key, v) :: kvs)).writeTo first done).toList =
        (if first then done else done ++ ",").toList ++ w := by
  induction kvs generalizing key v with
  | nil =>
      obtain ⟨w, hw, hwrite⟩ := h (key, v) (List.mem_cons_self ..)
      have hlast := SpellsFields.last (spellsSigns_flatMap key.toList) isGap_nil isGap_nil hw
        isGap_nil
      rw [charsOf_toList] at hlast
      refine ⟨_, hlast, fun first done => ?_⟩
      rw [List.append_nil]
      exact field hwrite _
  | cons x xs ih =>
      obtain ⟨w, hw, hwrite⟩ := h (key, v) (List.mem_cons_self ..)
      obtain ⟨u, hu, hmore⟩ := ih fun y hy => h y (List.mem_cons_of_mem _ hy)
      have hall := SpellsFields.more (spellsSigns_flatMap key.toList) isGap_nil isGap_nil hw
        isGap_nil isGap_nil hu
      rw [charsOf_toList] at hall
      refine ⟨_, hall, fun first done => ?_⟩
      rw [Fields.ofList, Fields.writeTo, hmore false, if_neg Bool.false_ne_true,
        String.toList_append, Option.getD_some, field hwrite]
      simp

theorem ofFields {kvs : List (String × Value)} (h : ∀ x ∈ kvs, WritesBack x.2) :
    WritesBack (.ofFields kvs) := by
  cases kvs with
  | nil => exact ⟨_, .emptyObject isGap_nil, fun done => by
      simp [Value.ofFields, Fields.ofList, Value.writeTo, Fields.writeTo]⟩
  | cons kv kvs =>
      obtain ⟨w, hw, hwrite⟩ := fields h
      refine ⟨_, .object isGap_nil hw, fun done => ?_⟩
      simp [Value.ofFields, Value.writeTo, hwrite]

theorem ofStrings (ss : List String) : WritesBack (.ofStrings ss) := by
  refine ofItems fun v hv => ?_
  obtain ⟨s, -, rfl⟩ := List.mem_map.1 hv
  exact string s

theorem ofOption {f : α → Value} (h : ∀ a, WritesBack (f a)) (o : Option α) :
    WritesBack (.ofOption f o) := by
  cases o with
  | none => exact null
  | some a => exact h a

/-- The text of a value, without white space. -/
theorem spellsText {v : Value} (h : WritesBack v) : SpellsText v v.text := by
  obtain ⟨w, hw, hwrite⟩ := h
  refine ⟨[], w, [], isGap_nil, hw, isGap_nil, ?_⟩
  rw [Value.text, hwrite]
  simp

end WritesBack

/-- **Reading what was written.** -/
theorem read_text {v : Value} (h : WritesBack v) : read v.text = ⟨v, true⟩ :=
  read_of_spellsText h.spellsText

end SqlxDryRun.Json
