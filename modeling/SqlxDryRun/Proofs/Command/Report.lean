import Mathlib.Data.List.Forall2
import Mathlib.Data.List.Nodup
import Mathlib.Data.List.Perm.Basic
import SqlxDryRun.Command
import SqlxDryRun.Proofs.Json.Records
import SqlxDryRun.Proofs.Json.Soundness
import SqlxDryRun.Proofs.Json.Writing
import SqlxDryRun.Proofs.Text.Lines
import SqlxDryRun.Text.Blank

/-!
# Cost reports

A cost report has a record on each line that is not blank.  `Report` says which texts report which
cost lines, by the written forms of the records alone: an object names the three parts in any order
and may hold other fields, an array lists the three parts.  `runReported_of_report` says that such a
text gives its cost lines and the command line that runs them, and that one line that is neither
blank nor a record is enough to give neither.
-/

namespace SqlxDryRun.Command

open Json

/-! ## Records -/

namespace CostLine

/-- The fields of the object of a cost line. -/
def fields (c : CostLine) : List (String × Value) :=
  [("Database", .string c.database), ("Schema", .string c.schema),
    ("FileName", .string c.fileName)]

/-- A line holds the object of a cost line: its fields in any order, among others with other
keys. -/
def IsObject (c : CostLine) (line : String) : Prop :=
  ∃ kvs : List (String × Value), SpellsText (.ofFields kvs) line ∧
    (kvs.filter fun kv => kv.1 ∈ c.fields.map Prod.fst).Perm c.fields

/-- A line holds the array of a cost line. -/
def IsArray (c : CostLine) (line : String) : Prop :=
  SpellsText (.ofStrings [c.database, c.schema, c.fileName]) line

/-- A line holds the record of a cost line. -/
def IsRecord (c : CostLine) (line : String) : Prop :=
  c.IsObject line ∨ c.IsArray line

/-! ### Parts of a cost line -/

/-- A field has no influence on a part of the cost line, unless it is the field of the part. -/
theorem spares_of_ne {part : CostLine → String} {key : String}
    (hdatabase : "Database" = key ∨ ∀ c s, part { c with database := s } = part c)
    (hschema : "Schema" = key ∨ ∀ c s, part { c with schema := s } = part c)
    (hfileName : "FileName" = key ∨ ∀ c s, part { c with fileName := s } = part c) :
    ∀ f ∈ layout.fields, f.key ≠ key → f.Spares part := by
  intro f hf hkey
  simp only [layout, List.mem_cons, List.not_mem_nil, or_false] at hf
  rcases hf with rfl | rfl | rfl
  · exact RecordField.spares_needed (hdatabase.resolve_left hkey)
  · exact RecordField.spares_needed (hschema.resolve_left hkey)
  · exact RecordField.spares_needed (hfileName.resolve_left hkey)

theorem sets_database : layout.Sets "Database" Json.string CostLine.database where
  own := ⟨_, rfl, fun _ _ => rfl⟩
  others := spares_of_ne (.inl rfl) (.inr fun _ _ => rfl) (.inr fun _ _ => rfl)

theorem sets_schema : layout.Sets "Schema" Json.string CostLine.schema where
  own := ⟨_, rfl, fun _ _ => rfl⟩
  others := spares_of_ne (.inr fun _ _ => rfl) (.inl rfl) (.inr fun _ _ => rfl)

theorem sets_fileName : layout.Sets "FileName" Json.string CostLine.fileName where
  own := ⟨_, rfl, fun _ _ => rfl⟩
  others := spares_of_ne (.inr fun _ _ => rfl) (.inr fun _ _ => rfl) (.inl rfl)

/-- The fields that a cost line knows are read as its parts. -/
theorem mem_fields_of_applyFields {c : CostLine} {kvs : List (String × Value)}
    (h : layout.applyFields layout.default [] (.ofList kvs) = .ok c) {kv : String × Value}
    (hkv : kv ∈ kvs) (hkey : kv.1 ∈ c.fields.map Prod.fst) : kv ∈ c.fields := by
  obtain ⟨key, v⟩ := kv
  simp only [fields, List.map_cons, List.map_nil, List.mem_cons, List.not_mem_nil, or_false] at hkey
  rcases hkey with rfl | rfl | rfl
  · rw [string_eq_ok.1 (decode_of_mem sets_database h hkv)]
    simp [fields]
  · rw [string_eq_ok.1 (decode_of_mem sets_schema h hkv)]
    simp [fields]
  · rw [string_eq_ok.1 (decode_of_mem sets_fileName h hkv)]
    simp [fields]

theorem keys_fields (c : CostLine) :
    c.fields.map Prod.fst = layout.fields.map RecordField.key := rfl

theorem nodup_keys (c : CostLine) : (c.fields.map Prod.fst).Nodup := by
  rw [keys_fields]
  decide

theorem filter_keys (c : CostLine) (kvs : List (String × Value)) :
    (kvs.filter fun kv => kv.1 ∈ c.fields.map Prod.fst) = layout.own kvs := rfl

/-- Only the object of a cost line gives it. -/
theorem perm_of_decode {c : CostLine} {kvs : List (String × Value)}
    (h : layout.decode (.ofFields kvs) = .ok c) : (layout.own kvs).Perm c.fields := by
  rw [decode_ofFields] at h
  obtain ⟨hnodup, -, hneeded⟩ := own_of_applyFields h
  have hmem {kv : String × Value} (hkv : kv ∈ layout.own kvs) : kv ∈ c.fields :=
    mem_fields_of_applyFields h (Layout.mem_own.1 hkv).1 (Layout.mem_own.1 hkv).2
  refine (List.perm_ext_iff_of_nodup (List.Nodup.of_map _ hnodup)
    (List.Nodup.of_map _ c.nodup_keys)).2 fun kv => ⟨hmem, fun hkv => ?_⟩
  -- The key is needed, so it stands there, and its value is that of the cost line.
  have hkey : kv.1 ∈ layout.fields.map RecordField.key := List.mem_map_of_mem hkv
  obtain ⟨f, hf, hfkey⟩ := List.mem_map.1 hkey
  have hrequired : f.required = true := by
    simp only [layout, List.mem_cons, List.not_mem_nil, or_false] at hf
    rcases hf with rfl | rfl | rfl <;> rfl
  obtain ⟨own, hin, hsame⟩ :=
    List.mem_map.1 ((hneeded f hf hrequired).resolve_left List.not_mem_nil)
  rw [hfkey] at hsame
  have hlisted : own ∈ layout.own kvs := Layout.mem_own.2 ⟨hin, hsame ▸ hkey⟩
  have heq : own = kv := List.inj_on_of_nodup_map c.nodup_keys (hmem hlisted) hkv hsame
  exact heq ▸ hlisted

/-- The object of a cost line gives it. -/
theorem decode_of_perm {c : CostLine} {kvs : List (String × Value)}
    (hwhole : ∀ kv ∈ kvs, kv.2.isWhole = true) (hperm : (layout.own kvs).Perm c.fields) :
    layout.decode (.ofFields kvs) = .ok c := by
  have hin : ∀ kv ∈ c.fields, kv ∈ kvs := fun kv hkv =>
    (Layout.mem_own.1 (hperm.mem_iff.2 hkv)).1
  have htakes : ∀ kv ∈ kvs, layout.Takes kv := by
    intro kv hkv
    rw [Layout.Takes]
    cases hf : layout.field? kv.1 with
    | none => exact Value.skip_of_isWhole (hwhole kv hkv)
    | some f =>
        have hmem : kv ∈ c.fields :=
          hperm.mem_iff.1 (Layout.mem_own.2 ⟨hkv, Layout.mem_keys_of_field? hf⟩)
        simp only [fields, List.mem_cons, List.not_mem_nil, or_false] at hmem
        rcases hmem with rfl | rfl | rfl <;>
          (obtain rfl := Option.some.inj hf; exact fun record => ⟨_, rfl⟩)
  have hneeded : ∀ f ∈ layout.fields, f.key ∈ kvs.map Prod.fst := by
    intro f hf
    have hkey : f.key ∈ c.fields.map Prod.fst := List.mem_map_of_mem hf
    obtain ⟨kv, hkv, heq⟩ := List.mem_map.1 hkey
    exact heq ▸ List.mem_map_of_mem (hin kv hkv)
  have hnew : ∀ kv ∈ layout.own kvs, kv.1 ∉ ([] : List String) := fun _ _ => List.not_mem_nil
  obtain ⟨a, ha⟩ := exists_applyFields layout.default htakes
    ((hperm.map Prod.fst).nodup_iff.2 c.nodup_keys) hnew fun f hf _ => Or.inr (hneeded f hf)
  have hpart {key : String} {part : CostLine → String} (hsets : layout.Sets key Json.string part)
      (hmem : (key, Value.string (part c)) ∈ c.fields) : part a = part c :=
    (Except.ok.inj (decode_of_mem hsets ha (hin _ hmem))).symm
  have heq : a = c :=
    calc a = ⟨a.database, a.schema, a.fileName⟩ := rfl
      _ = ⟨c.database, c.schema, c.fileName⟩ := by
          rw [hpart sets_database (by simp [fields]), hpart sets_schema (by simp [fields]),
            hpart sets_fileName (by simp [fields])]
      _ = c := rfl
  rw [decode_ofFields, ha, heq]

/-- The array of a cost line gives it, and no other array does. -/
theorem decode_array_iff {c : CostLine} {items : Items} :
    layout.decode (.array items) = .ok c ↔
      Value.array items = .ofStrings [c.database, c.schema, c.fileName] := by
  have harray : layout.decode (.array items) =
      Layout.applyItems false layout.default layout.fields items := rfl
  rw [harray, layout]
  simp only [applyItems_cons_eq_ok, applyItems_nil_eq_ok]
  constructor
  · rintro ⟨v₁, _, _, rfl, h₁, v₂, _, _, rfl, h₂, v₃, _, _, rfl, h₃, rfl, rfl⟩
    obtain ⟨s₁, hs₁, rfl⟩ := map_eq_ok.1 h₁
    obtain ⟨s₂, hs₂, rfl⟩ := map_eq_ok.1 h₂
    obtain ⟨s₃, hs₃, rfl⟩ := map_eq_ok.1 h₃
    rw [string_eq_ok.1 hs₁, string_eq_ok.1 hs₂, string_eq_ok.1 hs₃]
    rfl
  · intro h
    obtain rfl := Value.array.inj h
    exact ⟨_, _, _, rfl, rfl, _, _, _, rfl, rfl, _, _, _, rfl, rfl, rfl, rfl⟩

/-- The text of such an object holds the cost line. -/
theorem isObject_text {c : CostLine} {kvs : List (String × Value)}
    (hwrite : ∀ kv ∈ kvs, WritesBack kv.2)
    (hperm : (kvs.filter fun kv => kv.1 ∈ c.fields.map Prod.fst).Perm c.fields) :
    c.IsObject (Value.ofFields kvs).text :=
  ⟨kvs, WritesBack.spellsText (.ofFields hwrite), hperm⟩

/-- **Which lines give a cost line.** -/
theorem decodeText_eq_ok_iff {c : CostLine} {line : String} :
    decodeText layout.decode line = .ok c ↔ c.IsRecord line := by
  rw [Json.decodeText_eq_ok_iff]
  constructor
  · rintro ⟨v, hspells, h⟩
    cases v with
    | object fields =>
        have hfields : fields = .ofList fields.entries := eq_ofList_of_applyFields h
        rw [hfields] at hspells h
        refine Or.inl ⟨fields.entries, hspells, ?_⟩
        rw [filter_keys]
        exact perm_of_decode h
    | array items =>
        rw [decode_array_iff] at h
        rw [h] at hspells
        exact Or.inr hspells
    | _ => cases h
  · rintro (⟨kvs, hspells, hperm⟩ | hspells)
    · obtain ⟨-, w, -, -, hw, -, -⟩ := id hspells
      exact ⟨_, hspells, decode_of_perm (isWhole_of_ofFields hw.isWhole) hperm⟩
    · exact ⟨_, hspells, decode_array_iff.2 rfl⟩

end CostLine

/-! ## Reports -/

/-- What a line of a report holds: nothing, if it is blank, or a record. -/
inductive Holds : String → Option CostLine → Prop
  | blank {line} (h : Text.isBlankText line = true) : Holds line none
  | record {line c} (h : c.IsRecord line) : Holds line (some c)

/-- The texts that report cost lines: lines with their ends, and a last line that need not have
one. -/
inductive Report : List CostLine → String → Prop
  | last {line o} (h : Holds line o) (hlf : '\n' ∉ line.toList) : Report o.toList line
  | line {line o cs rest} (h : Holds line o) (hlf : '\n' ∉ line.toList) (e : Text.LineEnd)
      (hrest : Report cs rest) : Report (o.toList ++ cs) (line ++ e.text ++ rest)

/-! ### Lines -/

theorem CostLine.isRecord_concat_return {c : CostLine} {line : List Char} :
    c.IsRecord (String.ofList (line ++ ['\r'])) ↔ c.IsRecord (String.ofList line) := by
  simp only [IsRecord, IsObject, IsArray, spellsText_concat_return]

theorem CostLine.IsRecord.not_blank {c : CostLine} {line : String} (h : c.IsRecord line) :
    Text.isBlankText line = false := by
  rcases h with ⟨kvs, hspells, -⟩ | hspells
  · exact hspells.not_blank
  · exact hspells.not_blank

/-- A carriage return that is read as a part of the line end makes no difference. -/
theorem Holds.readBefore {line : String} {o : Option CostLine} (h : Holds line o)
    (e : Text.LineEnd) : Holds (String.ofList (Text.readBefore e line.toList)) o := by
  cases e with
  | crlf => rwa [Text.readBefore, String.ofList_toList]
  | lf =>
      rw [Text.readBefore]
      rcases Text.dropReturn_cases line.toList with heq | heq
      · rwa [heq, String.ofList_toList]
      · rw [← String.ofList_toList (s := line), heq] at h
        cases h with
        | blank hblank =>
            refine .blank ?_
            rw [Text.isBlankText, String.toList_ofList, List.all_append, Bool.and_eq_true] at hblank
            rw [Text.isBlankText, String.toList_ofList]
            exact hblank.1
        | record hrecord => exact .record (CostLine.isRecord_concat_return.1 hrecord)

/-- The lines of a text that are not blank. -/
def inkedLines (text : String) : List String :=
  (Text.lines text).filter fun line => !Text.isBlankText line

theorem Holds.forall₂ {line : String} {o : Option CostLine} (h : Holds line o) :
    List.Forall₂ (fun line c => CostLine.IsRecord c line)
      ([line].filter fun line => !Text.isBlankText line) o.toList := by
  cases h with
  | blank h =>
      rw [List.filter_cons_of_neg (by simp [h])]
      exact .nil
  | record h =>
      rw [List.filter_cons_of_pos (by simp [h.not_blank])]
      exact .cons h .nil

theorem Report.forall₂ {cs : List CostLine} {text : String} (h : Report cs text) :
    List.Forall₂ (fun line c => CostLine.IsRecord c line) (inkedLines text) cs := by
  induction h with
  | @last line o h hlf =>
      rw [inkedLines, Text.lines_of_not_mem hlf]
      by_cases hline : line = ""
      · subst hline
        cases h with
        | blank => exact .nil
        | record h => exact absurd h.not_blank (by decide)
      · rw [if_neg hline]
        exact h.forall₂
  | @line line o cs rest h hlf e _ ih =>
      rw [inkedLines, Text.lines_append_end e hlf, ← List.singleton_append, List.filter_append]
      exact List.rel_append (h.readBefore e).forall₂ ih

/-! ### All lines -/

/-- A list is mapped without an error just if each of its elements is. -/
theorem mapM_eq_ok_iff {α β ε : Type} {f : α → Except ε β} {as : List α} {bs : List β} :
    as.mapM f = .ok bs ↔ List.Forall₂ (fun a b => f a = .ok b) as bs := by
  induction as generalizing bs with
  | nil => cases bs <;> simp [pure, Except.pure]
  | cons a as ih =>
      rw [List.mapM_cons]
      cases ha : f a with
      | error e => cases bs <;> simp [bind, Except.bind, ha]
      | ok b =>
          cases has : as.mapM f with
          | error e => cases bs <;> simp [bind, Except.bind, ← ih, has, ha]
          | ok more => cases bs <;> simp [bind, Except.bind, pure, Except.pure, ← ih, has, ha]

/-- **Which texts are read as cost lines.** -/
theorem CostLine.ofOutput_eq_ok_iff {text : String} {cs : List CostLine} :
    ofOutput text = .ok cs ↔
      List.Forall₂ (fun line c => IsRecord c line) (inkedLines text) cs := by
  rw [ofOutput, mapM_eq_ok_iff]
  simp only [CostLine.decodeText_eq_ok_iff]
  rfl

theorem runReported_of_ok {workspace : Path} {text : String} {scope : Scope} {cs : List CostLine}
    (h : CostLine.ofOutput text = .ok cs) :
    runReported workspace text scope = .ok (if cs = [] then none else
      some (withScope ("dataform run " ++ workspace.toString ++ String.join (cs.map fun c =>
        " --actions \"" ++ (c.database ++ "." ++ c.schema ++ "." ++ c.fileName) ++ "\""))
          scope)) := by
  rw [runReported, h]
  cases cs with
  | nil => rfl
  | cons c cs =>
      rw [if_neg (List.cons_ne_nil c cs)]
      simp [bind, Except.bind, runActions, CostLine.actionName, Function.comp_def]

/-- **What becomes of a report.**  The cost lines of a report are read in order, whatever their
strings, and the command line names the action of each of them once, in the same order; there is
none just if there are no cost lines.  One line that is neither blank nor a record is enough for an
error instead of both, whatever the other lines hold. -/
theorem runReported_of_report (workspace : Path) (scope : Scope) :
    (∀ cs text, Report cs text →
      CostLine.ofOutput text = .ok cs ∧
      runReported workspace text scope = .ok (if cs = [] then none else
        some (withScope ("dataform run " ++ workspace.toString ++ String.join (cs.map fun c =>
          " --actions \"" ++ (c.database ++ "." ++ c.schema ++ "." ++ c.fileName) ++ "\""))
            scope))) ∧
    ∀ text line, line ∈ Text.lines text → Text.isBlankText line = false →
      (∀ c : CostLine, ¬c.IsRecord line) →
        (∃ p, CostLine.ofOutput text = .error p) ∧
        ∃ p, runReported workspace text scope = .error p := by
  constructor
  · intro cs text h
    have hok : CostLine.ofOutput text = .ok cs := CostLine.ofOutput_eq_ok_iff.2 h.forall₂
    exact ⟨hok, runReported_of_ok hok⟩
  · intro text line hline hinked hbad
    have hmem : line ∈ inkedLines text := List.mem_filter.2 ⟨hline, by simp [hinked]⟩
    have herror : ∃ p, CostLine.ofOutput text = .error p := by
      cases hok : CostLine.ofOutput text with
      | error p => exact ⟨p, rfl⟩
      | ok cs =>
          have hall := CostLine.ofOutput_eq_ok_iff.1 hok
          obtain ⟨c, hc⟩ := ((List.forall₂_and_left (p := fun line => ∃ c, CostLine.IsRecord c line)
            _ _).1 (hall.imp fun line c hc => ⟨⟨c, hc⟩, hc⟩)).1 line hmem
          exact absurd hc (hbad c)
    obtain ⟨p, hp⟩ := herror
    refine ⟨⟨p, hp⟩, p, ?_⟩
    rw [runReported, hp]
    rfl

/-! ## A sample -/

namespace Sample

/-- A cost line with characters that a string has to escape. -/
def odd : CostLine :=
  ⟨"d\\b", "a\"b", "orders"⟩

/-- Another one. -/
def plain : CostLine :=
  ⟨"db", "reporting", "clicks"⟩

/-- Both, with a blank line between them: the parts of the first one stand in another order and
among other fields, and the last line has no end. -/
def report : String :=
  (Value.ofFields [("FileName", .string "orders"), ("Notes", .ofStrings ["Schema"]),
    ("Schema", .string "a\"b"), ("Database", .string "d\\b")]).text ++ "\r\n" ++
      (" \u00a0" ++ "\n" ++ (Value.ofFields plain.fields).text)

theorem report_report : Report [odd, plain] report := by
  refine .line (.record (Or.inl (CostLine.isObject_text ?_ ?_))) (by decide +kernel) .crlf
    (.line (.blank (by decide)) (by decide) .lf
      (.last (.record (Or.inl (CostLine.isObject_text ?_ ?_))) (by decide +kernel)))
  · intro kv hkv
    simp only [List.mem_cons, List.not_mem_nil, or_false] at hkv
    rcases hkv with rfl | rfl | rfl | rfl
    · exact .string _
    · exact .ofStrings _
    · exact .string _
    · exact .string _
  · exact List.reverse_perm odd.fields
  · intro kv hkv
    simp only [CostLine.fields, List.mem_cons, List.not_mem_nil, or_false] at hkv
    rcases hkv with rfl | rfl | rfl <;> exact .string _
  · exact List.Perm.refl plain.fields

/-- The array of a cost line. -/
def array : String :=
  "[\"db\",\"reporting\",\"orders\"]"

theorem not_isRecord (c : CostLine) : ¬c.IsRecord "not json" := by
  intro h
  have herror : (decodeText CostLine.layout.decode "not json").isOk = false := by decide +kernel
  rw [CostLine.decodeText_eq_ok_iff.2 h] at herror
  cases herror

end Sample

/-- The sample report gives both cost lines and the command line that runs them, and a line of words
gives an error. -/
theorem runReported_of_report_sample :
    CostLine.ofOutput Sample.report = .ok [Sample.odd, Sample.plain] ∧
      runReported ⟨true, ["ws"]⟩ Sample.report .withDependencies = .ok (some
        ("dataform run /ws --actions \"d\\b.a\"b.orders\" --actions \"db.reporting.clicks\"" ++
          " --include-deps")) ∧
      ∃ p, runReported ⟨true, ["ws"]⟩ (Sample.report ++ "\nnot json\n") .withDependencies =
        .error p := by
  obtain ⟨hreport, hbad⟩ := runReported_of_report ⟨true, ["ws"]⟩ .withDependencies
  obtain ⟨hok, hrun⟩ := hreport _ _ Sample.report_report
  refine ⟨hok, ?_, ?_⟩
  · rw [hrun, if_neg (by decide)]
    refine congrArg (fun line => Except.ok (some line)) ?_
    decide +kernel
  · exact (hbad _ "not json" (by decide +kernel) (by decide) Sample.not_isRecord).2

/-- **An array is read like an object.**  The line `["db","reporting","orders"]` holds no object.
Yet it gives a cost line, and its action is run. -/
theorem array_accepted :
    (∀ c : CostLine, ¬c.IsObject Sample.array) ∧ Text.isBlankText Sample.array = false ∧
      Text.lines (Sample.array ++ "\n") = [Sample.array] ∧
      CostLine.ofOutput (Sample.array ++ "\n") = .ok [⟨"db", "reporting", "orders"⟩] ∧
      runReported ⟨true, ["ws"]⟩ (Sample.array ++ "\n") .selected =
        .ok (some "dataform run /ws --actions \"db.reporting.orders\"") := by
  have hspells : SpellsText (.ofStrings ["db", "reporting", "orders"]) Sample.array := by
    have htext : (Value.ofStrings ["db", "reporting", "orders"]).text = Sample.array := by
      decide +kernel
    rw [← htext]
    exact WritesBack.spellsText (.ofStrings _)
  have hlines : Text.lines (Sample.array ++ "\n") = [Sample.array] := by decide +kernel
  have hrecord : (CostLine.mk "db" "reporting" "orders").IsRecord Sample.array := Or.inr hspells
  have hok : CostLine.ofOutput (Sample.array ++ "\n") = .ok [⟨"db", "reporting", "orders"⟩] := by
    rw [CostLine.ofOutput_eq_ok_iff, inkedLines, hlines]
    exact (Holds.record hrecord).forall₂
  refine ⟨?_, hrecord.not_blank, hlines, hok, ?_⟩
  · rintro c ⟨kvs, hobject, -⟩
    have hsame := (read_of_spellsText hobject).symm.trans (read_of_spellsText hspells)
    cases (Content.mk.inj hsame).1
  · rw [runReported_of_ok hok, if_neg (by decide)]
    refine congrArg (fun line => Except.ok (some line)) ?_
    decide +kernel

end SqlxDryRun.Command
