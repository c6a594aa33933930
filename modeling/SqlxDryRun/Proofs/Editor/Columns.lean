import SqlxDryRun.Editor.Server
import SqlxDryRun.Proofs.Editor.Identifier

/-!
# The columns of an editor

An editor that agrees on nothing else counts the columns of a line in units of UTF-16: a character
of the basic plane is one unit, any other character is a pair of units.  The server counts
characters.  Both counts agree up to the first pair, so they lead to the same place in a line if no
pair stands in front of it (`linePrefix?_eq_some_iff`).

* `cut?` says what a column in units means, and `editLine?` what an edit between two columns does.
* `Server.heeds_columns` says what the server gets right: completion if there is no pair in front of
  the cursor, and the identifier at the cursor if there is none in the identifier either.
* `Server.pair_shifts_columns` is a line with a pair at its beginning, on which both go wrong.
-/

namespace SqlxDryRun.Editor

open SqlxDryRun.Text

/-! ## Units -/

/-- The number of units of a character. -/
def unitsOf (c : Char) : Nat :=
  if c.toNat < 0x10000 then 1 else 2

/-- The number of units of a text. -/
def units : List Char → Nat
  | [] => 0
  | c :: text => unitsOf c + units text

/-- A text without pairs. -/
def IsBasic (text : List Char) : Prop :=
  ∀ c ∈ text, unitsOf c = 1

instance (text : List Char) : Decidable (IsBasic text) :=
  decidable_of_iff (text.all fun c => unitsOf c == 1) (by simp [IsBasic])

@[simp] theorem units_nil : units [] = 0 := rfl

@[simp] theorem units_cons (c : Char) (text : List Char) :
    units (c :: text) = unitsOf c + units text := rfl

@[simp] theorem units_append (front back : List Char) :
    units (front ++ back) = units front + units back := by
  induction front with
  | nil => rw [List.nil_append, units_nil, Nat.zero_add]
  | cons c front ih => rw [List.cons_append, units_cons, units_cons, ih, Nat.add_assoc]

theorem unitsOf_pos (c : Char) : 0 < unitsOf c := by
  rw [unitsOf]
  split <;> decide

theorem length_le_units (text : List Char) : text.length ≤ units text := by
  induction text with
  | nil => exact Nat.le_refl 0
  | cons c text ih =>
      have hpos := unitsOf_pos c
      rw [List.length_cons, units_cons]
      omega

/-- A text has as many units as characters just if it has no pairs. -/
theorem units_eq_length_iff {text : List Char} : units text = text.length ↔ IsBasic text := by
  induction text with
  | nil => exact iff_of_true rfl (List.forall_mem_nil _)
  | cons c text ih =>
      have hpos := unitsOf_pos c
      have hle := length_le_units text
      rw [IsBasic, List.forall_mem_cons, ← IsBasic, ← ih, units_cons, List.length_cons]
      omega

/-! ## Columns -/

/-- A column has one place in a line. -/
theorem eq_of_units_eq {front front' back back' : List Char}
    (h : front ++ back = front' ++ back') (hunits : units front = units front') :
    front = front' ∧ back = back' := by
  have hnil {more : List Char} (hmore : units more = 0) : more = [] := by
    have hle := length_le_units more
    exact List.length_eq_zero_iff.1 (by omega)
  rcases List.append_eq_append_iff.1 h with ⟨more, rfl, rfl⟩ | ⟨more, rfl, rfl⟩
  all_goals
    rw [units_append] at hunits
    have hmore : more = [] := hnil (by omega)
    simp [hmore]

/-- The line that an edit leaves behind: it puts a text in the place of what stands between two
columns, each of which lies between two characters. -/
def Edits (line : List Char) (first last : Nat) (new after : List Char) : Prop :=
  ∃ front word back, line = front ++ word ++ back ∧ units front = first ∧
    units (front ++ word) = last ∧ after = front ++ new ++ back

/-- An edit between the two ends of a run replaces the run. -/
theorem edits_iff {front word back new after : List Char} :
    Edits (front ++ word ++ back) (units front) (units (front ++ word)) new after ↔
      after = front ++ new ++ back := by
  constructor
  · rintro ⟨front', word', back', hline, hfirst, hlast, rfl⟩
    obtain ⟨hword, rfl⟩ := eq_of_units_eq hline hlast.symm
    obtain ⟨rfl, -⟩ := eq_of_units_eq hword hfirst.symm
    rfl
  · rintro rfl
    exact ⟨front, word, back, rfl, rfl, rfl, rfl⟩

/-- A position lies between two characters of a text: these stand before and behind it on its line.
-/
structure LiesIn (text : String) (p : Position) (front back : List Char) : Prop where
  line : (splitLines text.toList)[p.line.toNat]? = some (front ++ back)
  column : units front = p.column.toNat

instance (line : List Char) (column : Nat) (front word back : List Char) :
    Decidable (TouchedAt line column front word back) :=
  decidable_of_iff
    (line = front ++ word ++ back ∧ word ≠ [] ∧ word.all isIdentifierChar = true ∧
      front.getLast?.all (fun c => !isIdentifierChar c) = true ∧
      back.head?.all (fun c => !isIdentifierChar c) = true ∧
      front.length ≤ column ∧ column ≤ front.length + word.length)
    ⟨fun ⟨hsplit, hnonempty, hname, hfirst, hlast, hreached, hnear⟩ =>
      ⟨hsplit, hnonempty, List.all_eq_true.1 hname, by simpa [Option.all_eq_true] using hfirst,
        by simpa [Option.all_eq_true] using hlast, hreached, hnear⟩,
    fun h => ⟨h.split, h.nonempty, List.all_eq_true.2 h.isName,
      by simpa [Option.all_eq_true] using h.first, by simpa [Option.all_eq_true] using h.last,
      h.reached, h.near⟩⟩

/-- The range of a run of characters, in units. -/
def unitRange (line : UInt32) (front word : List Char) : Range :=
  ⟨⟨line, .ofNat (units front)⟩, ⟨line, .ofNat (units (front ++ word))⟩⟩

/-! ## The server's columns -/

section Position

variable {text : String} {p : Position} {front back : List Char}

/-- The server takes as many characters as there are units in front of the cursor. -/
theorem linePrefix?_of_liesIn (h : LiesIn text p front back) :
    linePrefix? text p = some (front ++ back.take (units front - front.length)) := by
  rw [linePrefix?, h.line, Option.map_some, ← h.column, List.take_append,
    List.take_of_length_le (length_le_units front)]

/-- **Counting characters finds the text before the cursor** just if there is no pair in it, or if
it is the whole line. -/
theorem linePrefix?_eq_some_iff (h : LiesIn text p front back) :
    linePrefix? text p = some front ↔ IsBasic front ∨ back = [] := by
  have hle := length_le_units front
  rw [linePrefix?_of_liesIn h, Option.some.injEq, List.append_right_eq_self, List.take_eq_nil_iff,
    ← units_eq_length_iff]
  exact or_congr_left (by omega)

/-- The identifier at the cursor is found, and its range is one in units. -/
theorem identifierRange?_of_isBasic (h : LiesIn text p front back) (hfront : IsBasic front)
    {before word behind : List Char}
    (htouched : TouchedAt (front ++ back) front.length before word behind) (hword : IsBasic word) :
    identifierRange? text p = some (unitRange p.line before word) := by
  have hcolumn : p.column.toNat = front.length := by
    rw [← h.column, units_eq_length_iff.2 hfront]
  -- The identifier begins at the cursor or in front of it, so no pair stands before it either.
  have hbefore : before <+: front := by
    refine List.prefix_of_prefix_length_le ?_ (List.prefix_append front back) htouched.reached
    rw [htouched.split, List.append_assoc]
    exact List.prefix_append before (word ++ behind)
  have hfirst : units before = before.length :=
    units_eq_length_iff.2 fun c hc => hfront c (hbefore.subset hc)
  have hlast : units (before ++ word) = before.length + word.length := by
    rw [units_append, hfirst, units_eq_length_iff.2 hword]
  refine identifierRange?_eq_some_iff.2 ⟨_, before, word, behind, h.line, ?_, ?_⟩
  · rw [hcolumn]
    exact htouched
  · rw [unitRange, hfirst, hlast]

/-- Where nothing touches the cursor, nothing is found. -/
theorem identifierRange?_eq_none (h : LiesIn text p front back) (hfront : IsBasic front)
    (hnone : ∀ before word behind, ¬TouchedAt (front ++ back) front.length before word behind) :
    identifierRange? text p = none := by
  rw [Option.eq_none_iff_forall_not_mem]
  intro r hr
  obtain ⟨line, before, word, behind, hline, htouched, -⟩ := identifierRange?_eq_some_iff.1 hr
  obtain rfl := Option.some.inj (h.line.symm.trans hline)
  rw [← h.column, units_eq_length_iff.2 hfront] at htouched
  exact hnone before word behind htouched

/-- The edit of the range of a run replaces the run. -/
theorem edits_unitRange_iff {line : UInt32} {front word back new after : List Char}
    (hsmall : units (front ++ word) < UInt32.size) :
    Edits (front ++ word ++ back) (unitRange line front word).start.column.toNat
      (unitRange line front word).stop.column.toNat new after ↔ after = front ++ new ++ back := by
  have hfirst : units front < UInt32.size := by
    rw [units_append] at hsmall
    omega
  rw [unitRange, UInt32.toNat_ofNat_of_lt' hfirst, UInt32.toNat_ofNat_of_lt' hsmall]
  exact edits_iff

end Position

namespace Server

/-- What completes a document depends on the text before the cursor alone. -/
theorem complete_congr {s s' : Server} {u u' : Uri} {text text' : String} {p p' : Position}
    (hoffers : s'.offers = s.offers) (hopen : s.textOf? u = some text)
    (hopen' : s'.textOf? u' = some text') (hbefore : linePrefix? text' p' = linePrefix? text p) :
    s'.complete u' p' = s.complete u p := by
  rw [complete, complete, hopen, hopen', Option.bind_some, Option.bind_some, hbefore, hoffers]

/-- **The server heeds columns in units up to the first pair of a line.**  A position lies between
two characters of an open document.  What the server takes for the text before the cursor is this
text just if there is no pair in it or nothing behind it.  If there is no pair in it, then

* the same list completes every document with this text before the cursor, if the same is offered;
* nothing is taken for the identifier at the cursor if there is none;
* and an identifier without pairs is found, with its range in units: the fix for a remark that
  starts here puts the suggestion in the place of this identifier and leaves the rest of the line.
-/
theorem heeds_columns {s : Server} {u : Uri} {text : String} {p : Position}
    {front back : List Char} (hopen : s.textOf? u = some text) (h : LiesIn text p front back) :
    (linePrefix? text p = some front ↔ IsBasic front ∨ back = []) ∧
    (IsBasic front →
      (∀ (s' : Server) (u' : Uri) (text' : String) (p' : Position) (back' : List Char),
        s'.offers = s.offers → s'.textOf? u' = some text' → LiesIn text' p' front back' →
          s'.complete u' p' = s.complete u p) ∧
      ((∀ before word behind, ¬TouchedAt (front ++ back) front.length before word behind) →
        identifierRange? text p = none) ∧
      ∀ before word behind, TouchedAt (front ++ back) front.length before word behind →
        IsBasic word →
        identifierRange? text p = some (unitRange p.line before word) ∧
        ∀ (r : Remark) (suggestion : String), r.range.start = p →
          r.suggestion? = some suggestion → units (before ++ word) < UInt32.size →
          ∃ f, s.fixes u [r] = [f] ∧ f.range.start.line = p.line ∧ f.range.stop.line = p.line ∧
            ∀ after, Edits (front ++ back) f.range.start.column.toNat f.range.stop.column.toNat
              f.replacement.toList after ↔ after = before ++ suggestion.toList ++ behind) := by
  refine ⟨linePrefix?_eq_some_iff h, fun hfront => ⟨?_, identifierRange?_eq_none h hfront, ?_⟩⟩
  · intro s' u' text' p' back' hoffers hopen' h'
    refine complete_congr hoffers hopen hopen' ?_
    rw [(linePrefix?_eq_some_iff h).2 (.inl hfront), (linePrefix?_eq_some_iff h').2 (.inl hfront)]
  · intro before word behind htouched hword
    have hrange := identifierRange?_of_isBasic h hfront htouched hword
    refine ⟨hrange, fun r suggestion hstart hsuggestion hsmall => ?_⟩
    have hfix : QuickFix.ofRemark? u (some text) r =
        some ⟨u, unitRange p.line before word, suggestion, r⟩ := by
      rw [QuickFix.ofRemark?, hsuggestion, Option.map_some, Option.bind_some, hstart, hrange,
        Option.getD_some]
    refine ⟨_, by rw [fixes, hopen, List.filterMap_cons, hfix]; rfl, rfl, rfl, fun after => ?_⟩
    rw [htouched.split]
    exact edits_unitRange_iff hsmall

end Server

/-! ## Samples -/

namespace Sample

/-- The document `/w/letters.sqlx`. -/
def lettersUri : Uri :=
  ⟨"file", some ⟨"", .empty, none⟩, .segments ["w".toList, "letters.sqlx".toList], none, none⟩

/-- A server on which the document is open. -/
def lettersServer (text : String) : Server :=
  { Server.fresh with phase := .running }.keepText lettersUri text

/-- The name `NAM` is misspelt. -/
def misspeltAt (p : Position) : Remark :=
  .ofDiagnostic (.queryError p 5 "Unrecognized name: NAM; Did you mean NAME? at [1:8]")

/-- The misspelt name in front of a pair. -/
def pairBehind : String := "select NAM, '😀'"

/-- The misspelt name behind a pair. -/
def pairBefore : String := "'😀' NAM, tags"

end Sample

/-- A pair behind the misspelt name does no harm: the fix replaces the name. -/
theorem Server.heeds_columns_sample :
    LiesIn Sample.pairBehind ⟨0, 7⟩ "select ".toList "NAM, '😀'".toList ∧
      linePrefix? Sample.pairBehind ⟨0, 7⟩ = some "select ".toList ∧
      ∃ f, (Sample.lettersServer Sample.pairBehind).fixes Sample.lettersUri
          [Sample.misspeltAt ⟨0, 7⟩] = [f] ∧
        ∀ after, Edits Sample.pairBehind.toList f.range.start.column.toNat
          f.range.stop.column.toNat f.replacement.toList after ↔
            after = "select NAME, '😀'".toList := by
  have hplace : LiesIn Sample.pairBehind ⟨0, 7⟩ "select ".toList "NAM, '😀'".toList :=
    ⟨by decide, by decide⟩
  have htouched : TouchedAt ("select ".toList ++ "NAM, '😀'".toList) "select ".toList.length
      "select ".toList "NAM".toList ", '😀'".toList :=
    by decide
  have hopen : (Sample.lettersServer Sample.pairBehind).textOf? Sample.lettersUri =
      some Sample.pairBehind := by
    decide +kernel
  obtain ⟨hbefore, hbasic⟩ := Server.heeds_columns hopen hplace
  obtain ⟨-, -, hword⟩ := hbasic (by decide)
  obtain ⟨f, hf, -, -, hedits⟩ := (hword _ _ _ htouched (by decide)).2
    (Sample.misspeltAt ⟨0, 7⟩) "NAME" (by decide) (by decide) (by decide)
  exact ⟨hplace, hbefore.2 (.inl (by decide)), f, hf, hedits⟩

/-- **A pair in front of the cursor shifts columns.**  Behind a pair the server takes a keyword
that ends behind the cursor for text before it; and for the name that begins at column 5 it finds
a range that ends in front of the last letter of the name, so the fix leaves this letter behind. -/
theorem Server.pair_shifts_columns :
    LiesIn Sample.pairBefore ⟨0, 13⟩ "'😀' NAM, tag".toList "s".toList ∧
      linePrefix? Sample.pairBefore ⟨0, 13⟩ = some "'😀' NAM, tags".toList ∧
      LiesIn Sample.pairBefore ⟨0, 5⟩ "'😀' ".toList "NAM, tags".toList ∧
      TouchedAt Sample.pairBefore.toList "'😀' ".toList.length "'😀' ".toList "NAM".toList
        ", tags".toList ∧
      (unitRange 0 "'😀' ".toList "NAM".toList = ⟨⟨0, 5⟩, ⟨0, 8⟩⟩ ∧
        identifierRange? Sample.pairBefore ⟨0, 5⟩ = some ⟨⟨0, 4⟩, ⟨0, 7⟩⟩) ∧
      Edits Sample.pairBefore.toList 4 7 "NAME".toList "'😀'NAMEM, tags".toList := by
  refine ⟨⟨by decide, by decide⟩, by decide, ⟨by decide, by decide⟩,
    by decide,
    ⟨by decide, by decide⟩, "'😀'".toList, " NA".toList, "M, tags".toList, ?_⟩
  decide

end SqlxDryRun.Editor
