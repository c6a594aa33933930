import SqlxDryRun.Editor.QuickFix
import SqlxDryRun.Proofs.DryRun.LoneRun
import SqlxDryRun.Proofs.LineShift
import SqlxDryRun.Terminal

/-!
# The line of an error in a terminal and in an editor

The validation service counts lines from one.  A terminal prints the line of a diagnostic as it is,
so it names the line of the source where the error is.  Editors count lines from zero, and they get
the same number: the remark stands one line below the error, and its quick fix edits that line
(`error_line_in_terminal_and_editor`).
-/

namespace SqlxDryRun.Editor

open SqlxDryRun.Text SqlxDryRun.ConfigBlock SqlxDryRun.DryRun SqlxDryRun.Validation

/-! ## Both ends of a range -/

/-- A range within one line. -/
def OnLine (r : Range) (line : UInt32) : Prop :=
  r.start.line = line ∧ r.stop.line = line

/-- The diagnostic of an error lies on the line to which that of the error is led. -/
theorem diagnosticFor_onLine (t : Tools) (text : String) (e : QueryError) :
    OnLine (t.diagnosticFor text e).range
      ((Position.mk e.line e.column).toSource (locate (lines text))
        t.queryLayout.preambleLines).line := by
  simp only [Tools.diagnosticFor, Diagnostic.queryError, Range.onLine, OnLine, and_self]

theorem identifierRange?_onLine {text : String} {p : Position} {r : Range}
    (h : identifierRange? text p = some r) : OnLine r p.line := by
  simp only [identifierRange?, bind, Option.bind_eq_some_iff] at h
  obtain ⟨_, _, ⟨first, last⟩, _, hr⟩ := h
  obtain rfl := Option.some.inj hr
  exact ⟨rfl, rfl⟩

/-- A fix stays on the line of its remark, whether it replaces an identifier or the range. -/
theorem QuickFix.ofRemark?_onLine {u : Uri} {text : Option String} {r : Remark} {f : QuickFix}
    {line : UInt32} (hr : OnLine r.range line) (h : QuickFix.ofRemark? u text r = some f) :
    OnLine f.range line := by
  obtain ⟨s, _, rfl⟩ := Option.map_eq_some_iff.1 h
  change OnLine ((text.bind fun t => identifierRange? t r.range.start).getD r.range) line
  cases hfound : text.bind fun t => identifierRange? t r.range.start with
  | none => exact hr
  | some range =>
      obtain ⟨t, _, hrange⟩ := Option.bind_eq_some_iff.1 hfound
      exact hr.1 ▸ identifierRange?_onLine hrange

/-- A terminal prints the line and the column where a diagnostic starts. -/
theorem diagnosticText_prefix (colour : Bool) (path : Path) (d : Diagnostic) :
    ∃ rest, Terminal.diagnosticText colour path d =
      path.toString ++ ":" ++ d.range.start.text ++ ": " ++ rest := by
  rw [Terminal.diagnosticText]
  cases d.suggestion with
  | none =>
      refine ⟨Ansi.paintIf colour (Terminal.severityLabel d.severity).2
        (Terminal.severityLabel d.severity).1 ++ ": " ++ d.message, ?_⟩
      simp only [String.append_assoc]
  | some s =>
      refine ⟨Ansi.paintIf colour (Terminal.severityLabel d.severity).2
        (Terminal.severityLabel d.severity).1 ++ ": " ++ d.message ++ ("\n  " ++
          Ansi.paintIf colour (.plain .green) "help:" ++ " replace with \x60" ++ s ++ "\x60"), ?_⟩
      simp only [String.append_assoc]

/-! ## An error behind a block -/

/-- Where the diagnostic of an error lies: `n` is the line of the source, counted from one, that
became the line of the error. -/
theorem diagnosticFor_range {t : Tools} {text : String} {above block below : List String}
    {preamble k : Nat} (hlines : HasLines text (above ++ block ++ below))
    (habove : ∀ l ∈ above, hasToken l.toList = false)
    (hfirst : block.head?.any (fun l => hasToken l.toList) = true)
    (hclose : closingLine? 0 1 (block.map String.toList) = some block.length)
    (ht : t.queryLayout.preambleLines = .ofNat preamble) (column : UInt32) (message : String)
    (hquery : preamble + (above.length + (k + 1)) < 2 ^ 32)
    (hsource : above.length + block.length + (k + 1) < 2 ^ 32) :
    OnLine (t.diagnosticFor text
        ⟨true, .ofNat (preamble + (above.length + (k + 1))), column, message⟩).range
        (.ofNat (above.length + block.length + (k + 1))) ∧
      (t.diagnosticFor text
        ⟨true, .ofNat (preamble + (above.length + (k + 1))), column, message⟩).range.start =
        ⟨.ofNat (above.length + block.length + (k + 1)), column⟩ := by
  have hlength := length_locate_block hlines habove hfirst hclose (by omega)
  have hplace := toSource_add_preamble (s := locate (lines text)) column hquery (by omega)
  have hsum : above.length + (k + 1) + (locate (lines text)).length.toNat + 1 =
      above.length + block.length + (k + 1) := by omega
  rw [hsum] at hplace
  constructor
  · have hline := diagnosticFor_onLine t text
      ⟨true, .ofNat (preamble + (above.length + (k + 1))), column, message⟩
    rwa [ht, hplace] at hline
  · simp only [Tools.diagnosticFor, Diagnostic.queryError, Range.onLine, ht, hplace]

/-- **The terminal names the line of the error, the editor gets the line below it.**  A source with
a closed block is compiled to a preamble and the source without the block, and the service finds an
error on the line that line `n` of the source became; both are counted from one.  The terminal prints
`n`.  The remark and its fix lie on line `n` as editors count, from zero: that is the next line of
the source. -/
theorem error_line_in_terminal_and_editor {t : Tools} {text : String}
    {preamble above block below : List String} {k : Nat}
    (hlines : HasLines text (above ++ block ++ below))
    (habove : ∀ l ∈ above, hasToken l.toList = false)
    (hfirst : block.head?.any (fun l => hasToken l.toList) = true)
    (hclose : closingLine? 0 1 (block.map String.toList) = some block.length)
    (ht : t.queryLayout.preambleLines = .ofNat preamble.length) (hk : k < below.length)
    (column : UInt32) (message : String)
    (hquery : preamble.length + (above.length + (k + 1)) < 2 ^ 32)
    (hsource : above.length + block.length + (k + 1) < 2 ^ 32) :
    let compiled := preamble.length + (above.length + (k + 1))
    let n := above.length + block.length + (k + 1)
    let d := t.diagnosticFor text ⟨true, .ofNat compiled, column, message⟩
    (preamble ++ (above ++ below))[compiled - 1]? = some below[k] ∧
      (above ++ block ++ below)[n - 1]? = some below[k] ∧
      (above ++ block ++ below)[n]? = below[k + 1]? ∧
      (∀ colour path, ∃ rest, Terminal.diagnosticText colour path d =
        path.toString ++ ":" ++ (toString n ++ ":" ++ toString column.toNat) ++ ": " ++ rest) ∧
      OnLine (Remark.ofDiagnostic d).range (.ofNat n) ∧
      ∀ u text' f, QuickFix.ofRemark? u text' (Remark.ofDiagnostic d) = some f →
        OnLine f.range (.ofNat n) := by
  intro compiled n d
  obtain ⟨hline, hstart⟩ :=
    diagnosticFor_range hlines habove hfirst hclose ht column message hquery hsource
  have hn : (UInt32.ofNat n).toNat = n := UInt32.toNat_ofNat_of_lt' hsource
  have hrange : OnLine (Remark.ofDiagnostic d).range (.ofNat n) := hline
  refine ⟨?_, ?_, ?_, fun colour path => ?_, hrange, fun u text' f hf =>
    QuickFix.ofRemark?_onLine hrange hf⟩
  -- Lists are counted from zero, so line `n` is item `n - 1`, and item `n` is the line below it.
  · rw [List.getElem?_append_right (by omega),
      show compiled - 1 - preamble.length = above.length + k by omega,
      List.getElem?_append_right (by omega), Nat.add_sub_cancel_left,
      List.getElem?_eq_getElem hk]
  · rw [List.getElem?_append_right (by rw [List.length_append]; omega),
      show n - 1 - (above ++ block).length = k by rw [List.length_append]; omega,
      List.getElem?_eq_getElem hk]
  · rw [List.getElem?_append_right (by rw [List.length_append]; omega),
      show n - (above ++ block).length = k + 1 by rw [List.length_append]; omega]
  · obtain ⟨rest, hrest⟩ := diagnosticText_prefix colour path d
    refine ⟨rest, ?_⟩
    rw [hrest, show d.range.start = ⟨.ofNat n, column⟩ from hstart, Position.text, hn]

namespace Sample

/-- A source with a block of three lines and a misspelt name. -/
def misspelt : String :=
  "config \x7b\n  type: \"table\"\n\x7d\n\nselect\n  MODELID,\n  amount\nfrom t\n"

/-- What the service says about the name, behind a preamble of three lines. -/
def unknownName : QueryError :=
  ⟨true, 6, 3, "Unrecognized name: MODELID; Did you mean MODEL_ID? at [6:3]"⟩

theorem hasLines_misspelt : HasLines misspelt
    ([] ++ ["config \x7b", "  type: \"table\"", "\x7d"] ++
      ["", "select", "  MODELID,", "  amount", "from t"]) :=
  .read (by decide)

end Sample

/-- The terminal says `6:3`, and the remark lies on the seventh line. -/
theorem error_line_in_terminal_and_editor_sample :
    (∃ rest, Terminal.diagnosticText false ⟨false, ["orders.sqlx"]⟩
        (DryRun.Sample.tools.diagnosticFor Sample.misspelt Sample.unknownName) =
      "orders.sqlx" ++ ":" ++ (toString 6 ++ ":" ++ toString 3) ++ ": " ++ rest) ∧
    (Remark.ofDiagnostic
      (DryRun.Sample.tools.diagnosticFor Sample.misspelt Sample.unknownName)).range.start.line =
        6 := by
  have h := @error_line_in_terminal_and_editor DryRun.Sample.tools _ ["-- 1", "-- 2", "-- 3"] _ _ _ 2
    Sample.hasLines_misspelt (by decide) (by decide) (by decide) (by decide) (by decide) 3
    Sample.unknownName.message (by decide) (by decide)
  obtain ⟨-, -, -, hterminal, hremark, -⟩ := h
  exact ⟨hterminal false ⟨false, ["orders.sqlx"]⟩, hremark.1⟩

/-- **The fix edits the line below the error.**  The misspelt name stands on the sixth line, which
editors call line five; the fix for it replaces what stands on the seventh line. -/
theorem fix_edits_next_line :
    (lines Sample.misspelt)[5]? = some "  MODELID," ∧
      (lines Sample.misspelt)[6]? = some "  amount" ∧
      (QuickFix.ofRemark? default (some Sample.misspelt) (Remark.ofDiagnostic
          (DryRun.Sample.tools.diagnosticFor Sample.misspelt Sample.unknownName))).map
        (fun f => (f.range, f.replacement)) = some (⟨⟨6, 2⟩, ⟨6, 8⟩⟩, "MODEL_ID") := by
  decide

end SqlxDryRun.Editor
