import SqlxDryRun.Text.Lines

/-!
# Reading the lines of a written text

An editor joins the lines of a document by one kind of line end throughout.  `splitLines_intercalate`
says what comes back when such a text is read: the lines themselves, up to a carriage return that a
line feed follows, and without an empty last line, which no text shows.
-/

namespace SqlxDryRun.Text

/-! ## Line ends -/

/-- The two ways to end a line. -/
inductive LineEnd where
  | lf
  | crlf
deriving DecidableEq, Repr

/-- The text of a line end. -/
def LineEnd.text : LineEnd → String
  | lf => "\n"
  | crlf => "\r\n"

/-- A text has these lines if it is read as them, or if it joins them by one kind of line end; a
line holds no line feed of its own. -/
inductive HasLines (text : String) (ls : List String) : Prop
  | read (h : lines text = ls) : HasLines text ls
  | joined (e : LineEnd) (hlf : ∀ l ∈ ls, '\n' ∉ l.toList) (h : text = e.text.intercalate ls) :
      HasLines text ls

/-! ## One line -/

/-- A line without the carriage return at its end, if there is one. -/
def dropReturn : List Char → List Char
  | [] => []
  | c :: rest => if c = '\r' ∧ rest = [] then [] else c :: dropReturn rest

/-- Before a line feed, a carriage return at the end of a line counts as a part of the line end. -/
def readBefore (e : LineEnd) (line : List Char) : List Char :=
  match e with
  | .lf => dropReturn line
  | .crlf => line

theorem dropReturn_append_return (line : List Char) : dropReturn (line ++ ['\r']) = line := by
  induction line with
  | nil => rfl
  | cons c cs ih =>
      have hne : cs ++ ['\r'] ≠ [] := by simp
      rw [List.cons_append, dropReturn, if_neg (fun h => hne h.2), ih]

/-- At most a carriage return is lost. -/
theorem dropReturn_cases (line : List Char) :
    dropReturn line = line ∨ line = dropReturn line ++ ['\r'] := by
  induction line with
  | nil => exact Or.inl rfl
  | cons c cs ih =>
      rw [dropReturn]
      by_cases hlast : c = '\r' ∧ cs = []
      · obtain ⟨rfl, rfl⟩ := hlast
        exact Or.inr rfl
      · rw [if_neg hlast, List.cons_append, List.cons.injEq, List.cons.injEq]
        exact ih.imp (fun h => ⟨rfl, h⟩) fun h => ⟨rfl, h⟩

/-- A character that ends no line is put in front of the first line. -/
theorem splitLines_cons {c : Char} {rest : List Char} (hc : c ≠ '\n')
    (hr : c = '\r' → ∀ r, rest ≠ '\n' :: r) :
    splitLines (c :: rest) =
      match splitLines rest with
      | [] => [[c]]
      | line :: ls => (c :: line) :: ls := by
  refine splitLines.eq_4 c rest hc ?_
  intro r hcr he
  exact hr hcr r he

/-- A line without a line feed ends where the first line feed stands. -/
theorem splitLines_append_newline {line : List Char} (h : '\n' ∉ line) (rest : List Char) :
    splitLines (line ++ '\n' :: rest) = dropReturn line :: splitLines rest := by
  induction line with
  | nil => rw [List.nil_append, splitLines, dropReturn]
  | cons c cs ih =>
      rw [List.mem_cons, not_or] at h
      rw [List.cons_append, dropReturn]
      by_cases hlast : c = '\r' ∧ cs = []
      · obtain ⟨rfl, rfl⟩ := hlast
        rw [if_pos ⟨rfl, rfl⟩, List.nil_append, splitLines]
      · have hr : c = '\r' → ∀ r, cs ++ '\n' :: rest ≠ '\n' :: r := by
          intro hcr r he
          cases cs with
          | nil => exact hlast ⟨hcr, rfl⟩
          | cons d ds =>
              rw [List.cons_append, List.cons.injEq] at he
              exact h.2 (by rw [he.1]; exact List.mem_cons_self ..)
        rw [if_neg hlast, splitLines_cons (Ne.symm h.1) hr, ih h.2]

/-- The last line of a text is read as it stands, and there is none if it is empty. -/
theorem splitLines_of_not_mem {line : List Char} (h : '\n' ∉ line) :
    splitLines line = if line = [] then [] else [line] := by
  induction line with
  | nil => rfl
  | cons c cs ih =>
      rw [List.mem_cons, not_or] at h
      have hr : c = '\r' → ∀ r, cs ≠ '\n' :: r := by
        rintro - r rfl
        exact h.2 (List.mem_cons_self ..)
      rw [splitLines_cons (Ne.symm h.1) hr, ih h.2, if_neg (List.cons_ne_nil c cs)]
      by_cases hcs : cs = []
      · rw [if_pos hcs, hcs]
      · rw [if_neg hcs]

theorem splitLines_append_end (e : LineEnd) {line : List Char} (h : '\n' ∉ line)
    (rest : List Char) :
    splitLines (line ++ e.text.toList ++ rest) = readBefore e line :: splitLines rest := by
  cases e with
  | lf =>
      rw [show LineEnd.lf.text.toList = ['\n'] from rfl, List.append_assoc, List.singleton_append,
        splitLines_append_newline h, readBefore]
  | crlf =>
      have hr : '\n' ∉ line ++ ['\r'] := by simpa using h
      rw [show line ++ LineEnd.crlf.text.toList ++ rest = (line ++ ['\r']) ++ '\n' :: rest from by
          simp [LineEnd.text],
        splitLines_append_newline hr, dropReturn_append_return, readBefore]

theorem lines_append_end (e : LineEnd) {line : String} (h : '\n' ∉ line.toList) (rest : String) :
    lines (line ++ e.text ++ rest) = String.ofList (readBefore e line.toList) :: lines rest := by
  rw [lines, String.toList_append, String.toList_append, splitLines_append_end e h, List.map_cons,
    lines]

theorem lines_of_not_mem {line : String} (h : '\n' ∉ line.toList) :
    lines line = if line = "" then [] else [line] := by
  rw [lines, splitLines_of_not_mem h]
  by_cases hline : line = ""
  · rw [if_pos hline, if_pos (String.toList_eq_nil_iff.2 hline), List.map_nil]
  · rw [if_neg hline, if_neg (mt String.toList_eq_nil_iff.1 hline), List.map_singleton,
      String.ofList_toList]

/-! ## All lines -/

/-- What is read of lines that were joined. -/
def readBack (e : LineEnd) : List (List Char) → List (List Char)
  | [] => []
  | [line] => if line = [] then [] else [line]
  | line :: next :: rest => readBefore e line :: readBack e (next :: rest)

/-- **Reading what was written.** -/
theorem splitLines_intercalate (e : LineEnd) {ls : List (List Char)} (h : ∀ l ∈ ls, '\n' ∉ l) :
    splitLines (e.text.toList.intercalate ls) = readBack e ls := by
  induction ls with
  | nil => rfl
  | cons line rest ih =>
      have hline : '\n' ∉ line := h line (List.mem_cons_self ..)
      cases rest with
      | nil => rw [List.intercalate_singleton, splitLines_of_not_mem hline, readBack]
      | cons next rest =>
          rw [List.intercalate_cons_cons, splitLines_append_end e hline,
            ih (fun l hl => h l (List.mem_cons_of_mem _ hl)), readBack]

end SqlxDryRun.Text
