import Mathlib.Data.List.Basic

/-!
# The words of a shell

How a shell splits a line into words.  Blanks end a word.  A backslash quotes the next character,
single quotes quote everything up to the next one, and double quotes quote everything but
substitutions; within them a backslash quotes only a character that would mean something there.
Whatever the shell would not take for a part of a word gives no words here: an operator or a line
end, a comment, a substitution, a home directory, a pattern that stands for file names, and a
quotation that is left open.

* `words?` is this splitting, `Scan.step` what one character does.
* `IsBareWord` and `isQuotable` tell the texts that stand for themselves outside and inside double
  quotes: `run_bareWord` and `run_isQuotable`.
* A reading is *thrifty* if it drops no character but double quotes.  `ThriftyStep` is all that a
  thrifty reading can do, and `isBare_of_thrifty` and `isQuotable_of_thrifty` say that it reads
  only texts that stand for themselves.
-/

namespace SqlxDryRun.Shell

/-! ## Reading a line -/

/-- What is quoted where a line is read. -/
inductive Quoting where
  | bare
  | escaped
  | single
  | double
  | doubleEscaped
deriving DecidableEq, Repr

/-- What has been read: the words that have ended, the word that has begun, and what is quoted. -/
structure Scan where
  words : List (List Char)
  word : Option (List Char)
  quoting : Quoting
deriving DecidableEq, Repr

/-- The characters between words. -/
def isBlank (c : Char) : Bool :=
  c == ' ' || c == '\t'

/-- The characters that a shell does not take for themselves outside of quotes, besides blanks and
those that quote: operators, line ends, substitutions and patterns. -/
def isSpecial (c : Char) : Bool :=
  "|&;<>()$\x60*?[\n".toList.contains c

/-- The characters that are special at the beginning of a word. -/
def isSpecialFirst (c : Char) : Bool :=
  c == '~' || c == '#'

/-- The characters that mean something between double quotes. -/
def isSpecialQuoted (c : Char) : Bool :=
  c == '"' || c == '\\' || c == '$' || c == '\x60'

namespace Scan

/-- Nothing has been read. -/
def start : Scan := ⟨[], none, .bare⟩

/-- A character that belongs to the word. -/
def keep (s : Scan) (c : Char) : Scan :=
  { s with word := some (s.word.getD [] ++ [c]) }

/-- A quotation begins, and so does a word if there is none. -/
def enter (s : Scan) (q : Quoting) : Scan :=
  { s with word := some (s.word.getD []), quoting := q }

/-- What a character does. -/
def step (s : Scan) (c : Char) : Option Scan :=
  match s.quoting with
  | .bare =>
    if isBlank c then
      match s.word with
      | some w => some ⟨s.words ++ [w], none, .bare⟩
      | none => some s
    else if c == '"' then some (s.enter .double)
    else if c == '\x27' then some (s.enter .single)
    else if c == '\\' then some { s with quoting := .escaped }
    else if isSpecial c || s.word.isNone && isSpecialFirst c then none
    else some (s.keep c)
  | .escaped =>
    -- A quoted line end is dropped.
    if c == '\n' then some { s with quoting := .bare }
    else some { s.keep c with quoting := .bare }
  | .single => if c == '\x27' then some { s with quoting := .bare } else some (s.keep c)
  | .double =>
    if c == '"' then some { s with quoting := .bare }
    else if c == '\\' then some { s with quoting := .doubleEscaped }
    else if isSpecialQuoted c then none
    else some (s.keep c)
  | .doubleEscaped =>
    if c == '\n' then some { s with quoting := .double }
    else if isSpecialQuoted c then some { s.keep c with quoting := .double }
    else some { (s.keep '\\').keep c with quoting := .double }

theorem keep_mk (ws : List (List Char)) (word : Option (List Char)) (q : Quoting) (c : Char) :
    keep ⟨ws, word, q⟩ c = ⟨ws, some (word.getD [] ++ [c]), q⟩ :=
  rfl

theorem enter_mk (ws : List (List Char)) (word : Option (List Char)) (q q' : Quoting) :
    enter ⟨ws, word, q⟩ q' = ⟨ws, some (word.getD []), q'⟩ :=
  rfl

/-- What a text does. -/
def run (s : Scan) (text : List Char) : Option Scan :=
  text.foldlM step s

/-- All words, if nothing is quoted at the end. -/
def all? (s : Scan) : Option (List (List Char)) :=
  if s.quoting = .bare then some (s.words ++ s.word.toList) else none

end Scan

/-- The words of a line, as lists of characters. -/
def wordsOf? (line : List Char) : Option (List (List Char)) :=
  (Scan.start.run line).bind Scan.all?

/-- The words of a line. -/
def words? (line : String) : Option (List String) :=
  (wordsOf? line.toList).map fun ws => ws.map String.ofList

theorem words?_eq_some_iff {line : String} {words : List String} :
    words? line = some words ↔ wordsOf? line.toList = some (words.map String.toList) := by
  have hmap (ws : List (List Char)) : ws.map String.ofList = words ↔
      ws = words.map String.toList := by
    constructor
    · rintro rfl
      simp
    · rintro rfl
      simp
  rw [words?, Option.map_eq_some_iff]
  simp only [hmap, exists_eq_right]

theorem wordsOf?_eq_some_iff {line : List Char} {words : List (List Char)} :
    wordsOf? line = some words ↔
      ∃ s, Scan.start.run line = some s ∧ s.quoting = .bare ∧ s.words ++ s.word.toList = words := by
  rw [wordsOf?, Option.bind_eq_some_iff]
  simp only [Scan.all?, Option.ite_none_right_eq_some, Option.some.injEq]

/-! ## Texts that stand for themselves -/

/-- A character that stands for itself outside of quotes, but perhaps at the beginning of a word. -/
def isBare (c : Char) : Bool :=
  !(isBlank c || c == '"' || c == '\x27' || c == '\\' || isSpecial c)

/-- A text that stands for itself as a word. -/
def IsBareWord (text : List Char) : Prop :=
  text.all isBare = true ∧ text.head?.any (fun c => !isSpecialFirst c) = true

instance (text : List Char) : Decidable (IsBareWord text) :=
  inferInstanceAs (Decidable (_ ∧ _))

/-- Whether a text stands for itself between double quotes.  A backslash does if the shell takes it
for one, so if no special character and no line end follows it. -/
def isQuotable : List Char → Bool
  | [] => true
  | '\\' :: rest =>
    match rest with
    | [] => false
    | c :: _ => !isSpecialQuoted c && c != '\n' && isQuotable rest
  | c :: rest => !isSpecialQuoted c && isQuotable rest

section Run

variable (ws : List (List Char)) (w : List Char)

theorem run_append (s : Scan) (front back : List Char) :
    s.run (front ++ back) = (s.run front).bind fun s' => s'.run back :=
  List.foldlM_append

theorem run_cons (s : Scan) (c : Char) (rest : List Char) :
    s.run (c :: rest) = (s.step c).bind fun s' => s'.run rest :=
  List.foldlM_cons

/-- A blank ends the word. -/
theorem run_blank (rest : List Char) :
    Scan.run ⟨ws, some w, .bare⟩ (' ' :: rest) = Scan.run ⟨ws ++ [w], none, .bare⟩ rest :=
  rfl

theorem step_isBare (word : Option (List Char)) {c : Char} (hc : isBare c = true)
    (hfirst : word = none → isSpecialFirst c = false) :
    Scan.step ⟨ws, word, .bare⟩ c = some ⟨ws, some (word.getD [] ++ [c]), .bare⟩ := by
  simp only [isBare, Bool.not_eq_true', Bool.or_eq_false_iff] at hc
  obtain ⟨⟨⟨⟨hblank, hdouble⟩, hsingle⟩, hescape⟩, hspecial⟩ := hc
  have hopen : (word.isNone && isSpecialFirst c) = false := by
    cases word with
    | none => exact hfirst rfl
    | some w => rfl
  simp only [Scan.step, hblank, hdouble, hsingle, hescape, hspecial, hopen, Bool.or_false,
    Bool.false_eq_true, if_false]
  rfl

/-- Characters that stand for themselves go into the word. -/
theorem run_isBare {text : List Char} (h : text.all isBare = true) :
    Scan.run ⟨ws, some w, .bare⟩ text = some ⟨ws, some (w ++ text), .bare⟩ := by
  induction text generalizing w with
  | nil => rw [List.append_nil]; rfl
  | cons c text ih =>
      rw [List.all_cons, Bool.and_eq_true] at h
      rw [run_cons, step_isBare ws (some w) h.1 (fun h => nomatch h), Option.bind_some,
        Option.getD_some, ih _ h.2, List.append_assoc, List.singleton_append]

/-- **A bare word is read as itself.** -/
theorem run_bareWord {text : List Char} (h : IsBareWord text) :
    Scan.run ⟨ws, none, .bare⟩ text = some ⟨ws, some text, .bare⟩ := by
  obtain ⟨hall, hfirst⟩ := h
  cases text with
  | nil => cases hfirst
  | cons c text =>
      rw [List.all_cons, Bool.and_eq_true] at hall
      have hc : isSpecialFirst c = false := by simpa using hfirst
      rw [run_cons, step_isBare ws none hall.1 fun _ => hc, Option.bind_some, Option.getD_none,
        List.nil_append, run_isBare ws [c] hall.2, List.singleton_append]

/-- A backslash that quotes nothing stays. -/
theorem step_doubleEscaped {c : Char} (hc : isSpecialQuoted c = false) (hline : c ≠ '\n') :
    Scan.step ⟨ws, some w, .doubleEscaped⟩ c =
      Scan.step ⟨ws, some (w ++ ['\\']), .double⟩ c := by
  have hspecial := hc
  simp only [isSpecialQuoted, Bool.or_eq_false_iff] at hspecial
  obtain ⟨⟨⟨hquote, hescape⟩, -⟩, -⟩ := hspecial
  simp only [Scan.step, beq_eq_false_iff_ne.2 hline, hc, hquote, hescape, Bool.false_eq_true,
    if_false]
  rfl

theorem step_double {c : Char} (hc : isSpecialQuoted c = false) :
    Scan.step ⟨ws, some w, .double⟩ c = some ⟨ws, some (w ++ [c]), .double⟩ := by
  have hspecial := hc
  simp only [isSpecialQuoted, Bool.or_eq_false_iff] at hspecial
  obtain ⟨⟨⟨hquote, hescape⟩, -⟩, -⟩ := hspecial
  simp only [Scan.step, hc, hquote, hescape, Bool.false_eq_true, if_false]
  rfl

/-- **A quotable text is read as itself** between double quotes. -/
theorem run_isQuotable {text : List Char} (h : isQuotable text = true) :
    Scan.run ⟨ws, some w, .double⟩ text = some ⟨ws, some (w ++ text), .double⟩ := by
  fun_induction isQuotable text generalizing w with
  | case1 => rw [List.append_nil]; rfl
  | case2 => cases h
  | case3 c rest ih =>
      simp only [Bool.and_eq_true, Bool.not_eq_true', bne_iff_ne] at h
      obtain ⟨⟨hc, hline⟩, hrest⟩ := h
      have hescape : Scan.step ⟨ws, some w, .double⟩ '\\' = some ⟨ws, some w, .doubleEscaped⟩ :=
        rfl
      have hread := ih (w ++ ['\\']) hrest
      rw [run_cons] at hread ⊢
      rw [hescape, Option.bind_some, run_cons, step_doubleEscaped ws w hc hline, hread,
        List.append_assoc, List.singleton_append]
  | case4 c rest hc ih =>
      rw [Bool.and_eq_true, Bool.not_eq_true'] at h
      rw [run_cons, step_double ws w h.1, Option.bind_some, ih _ h.2, List.append_assoc,
        List.singleton_append]

end Run

/-! ## Thrifty readings -/

/-- The number of characters that are no double quotes. -/
def ink (text : List Char) : Nat :=
  text.countP (· != '"')

@[simp] theorem ink_nil : ink [] = 0 := rfl

@[simp] theorem ink_append (front back : List Char) : ink (front ++ back) = ink front + ink back :=
  List.countP_append

theorem ink_cons (c : Char) (rest : List Char) : ink (c :: rest) = ink [c] + ink rest :=
  ink_append [c] rest

/-- The ink of words with one character behind each. -/
def inkOf : List (List Char) → Nat
  | [] => 0
  | w :: ws => ink w + 1 + inkOf ws

@[simp] theorem inkOf_nil : inkOf [] = 0 := rfl

@[simp] theorem inkOf_cons (w : List Char) (ws : List (List Char)) :
    inkOf (w :: ws) = ink w + 1 + inkOf ws := rfl

@[simp] theorem inkOf_append (ws ws' : List (List Char)) :
    inkOf (ws ++ ws') = inkOf ws + inkOf ws' := by
  induction ws with
  | nil => rw [List.nil_append, inkOf_nil, Nat.zero_add]
  | cons w ws ih => rw [List.cons_append, inkOf_cons, inkOf_cons, ih, ← Nat.add_assoc]

/-- The ink of what has been read.  A blank counts if it ended a word, and a backslash between double
quotes counts as long as it may stay. -/
def Scan.ink (s : Scan) : Nat :=
  inkOf s.words + Shell.ink (s.word.getD []) + if s.quoting = .doubleEscaped then 1 else 0

theorem Scan.inkOf_words_le (s : Scan) : inkOf s.words ≤ s.ink := by
  rw [Scan.ink]
  omega

/-- What a character may do if it is not dropped, unless it is a double quote. -/
inductive ThriftyStep : Scan → Char → Scan → Prop
  | blank (ws : List (List Char)) (w : List Char) {c : Char} (hc : isBlank c = true) :
      ThriftyStep ⟨ws, some w, .bare⟩ c ⟨ws ++ [w], none, .bare⟩
  | opens (ws : List (List Char)) (word : Option (List Char)) :
      ThriftyStep ⟨ws, word, .bare⟩ '"' ⟨ws, some (word.getD []), .double⟩
  | bare (ws : List (List Char)) (word : Option (List Char)) {c : Char} (hc : isBare c = true)
      (hfirst : word = none → isSpecialFirst c = false) :
      ThriftyStep ⟨ws, word, .bare⟩ c ⟨ws, some (word.getD [] ++ [c]), .bare⟩
  | closes (ws : List (List Char)) (word : Option (List Char)) :
      ThriftyStep ⟨ws, word, .double⟩ '"' ⟨ws, word, .bare⟩
  | backslash (ws : List (List Char)) (word : Option (List Char)) :
      ThriftyStep ⟨ws, word, .double⟩ '\\' ⟨ws, word, .doubleEscaped⟩
  | quoted (ws : List (List Char)) (word : Option (List Char)) {c : Char}
      (hc : isSpecialQuoted c = false) :
      ThriftyStep ⟨ws, word, .double⟩ c ⟨ws, some (word.getD [] ++ [c]), .double⟩
  | literal (ws : List (List Char)) (word : Option (List Char)) {c : Char}
      (hc : isSpecialQuoted c = false) (hline : c ≠ '\n') :
      ThriftyStep ⟨ws, word, .doubleEscaped⟩ c ⟨ws, some (word.getD [] ++ ['\\', c]), .double⟩

theorem ink_singleton (c : Char) : ink [c] = if c = '"' then 0 else 1 := by
  by_cases hc : c = '"'
  · rw [if_pos hc, hc]
    rfl
  · rw [if_neg hc, ink, List.countP_singleton, if_pos (bne_iff_ne.2 hc)]

theorem ink_singleton_of_ne {c : Char} (hc : c ≠ '"') : ink [c] = 1 := by
  rw [ink_singleton, if_neg hc]

/-- What one character does to the ink, and that it is thrifty if none is lost. -/
def Accounts (s : Scan) (c : Char) (s' : Scan) : Prop :=
  s'.ink ≤ s.ink + ink [c] ∧
    (s.quoting ≠ .escaped → s.quoting ≠ .single → s.ink + ink [c] ≤ s'.ink → ThriftyStep s c s')

section Step

variable {ws : List (List Char)} {word : Option (List Char)} {c : Char} {s' : Scan}

/-- No backslash is pending. -/
theorem Scan.ink_settled (ws : List (List Char)) (word : Option (List Char)) {q : Quoting}
    (hq : q ≠ .doubleEscaped) :
    Scan.ink ⟨ws, word, q⟩ = inkOf ws + Shell.ink (word.getD []) := by
  rw [Scan.ink, if_neg hq, Nat.add_zero]

theorem Scan.ink_pending (ws : List (List Char)) (word : Option (List Char)) :
    Scan.ink ⟨ws, word, .doubleEscaped⟩ = inkOf ws + Shell.ink (word.getD []) + 1 :=
  rfl

/-- The ink of a word goes up with the character that it takes in. -/
theorem ink_getD_keep (word : Option (List Char)) (c : Char) :
    ink ((some (word.getD [] ++ [c])).getD []) = ink (word.getD []) + ink [c] := by
  rw [Option.getD_some, ink_append]

theorem accounts_bare (h : Scan.step ⟨ws, word, .bare⟩ c = some s') :
    Accounts ⟨ws, word, .bare⟩ c s' := by
  have hink := Scan.ink_settled ws word (q := .bare) (by decide)
  simp only [Scan.step] at h
  split at h
  · rename_i hblank
    have hc : ink [c] = 1 := ink_singleton_of_ne (by rintro rfl; cases hblank)
    cases word with
    | none =>
        obtain rfl := Option.some.inj h
        exact ⟨by omega, fun _ _ hle => by omega⟩
    | some w =>
        obtain rfl := Option.some.inj h
        refine ⟨?_, fun _ _ _ => .blank ws w hblank⟩
        rw [hink, Scan.ink_settled _ _ (by decide), inkOf_append, inkOf_cons, inkOf_nil,
          Option.getD_none, Option.getD_some, ink_nil]
        omega
  rename_i hblank
  split at h
  · rename_i hquote
    obtain rfl := Option.some.inj h
    obtain rfl := beq_iff_eq.1 hquote
    refine ⟨?_, fun _ _ _ => .opens ws word⟩
    rw [hink, Scan.enter_mk, Scan.ink_settled _ _ (by decide), Option.getD_some]
    omega
  rename_i hquote
  have hc : ink [c] = 1 := ink_singleton_of_ne (by simpa using hquote)
  split at h
  · -- A single quote is dropped.
    obtain rfl := Option.some.inj h
    have hlost : (Scan.enter ⟨ws, word, .bare⟩ .single).ink = Scan.ink ⟨ws, word, .bare⟩ := by
      rw [hink, Scan.enter_mk, Scan.ink_settled _ _ (by decide), Option.getD_some]
    exact ⟨by omega, fun _ _ hle => by omega⟩
  rename_i hsingle
  split at h
  · -- So is a backslash.
    obtain rfl := Option.some.inj h
    have hlost : Scan.ink ⟨ws, word, .escaped⟩ = Scan.ink ⟨ws, word, .bare⟩ := by
      rw [hink, Scan.ink_settled _ _ (by decide)]
    exact ⟨by omega, fun _ _ hle => by omega⟩
  rename_i hescape
  split at h
  · cases h
  · rename_i hspecial
    obtain rfl := Option.some.inj h
    refine ⟨?_, fun _ _ _ => .bare ws word ?_ ?_⟩
    · rw [hink, Scan.keep_mk, Scan.ink_settled _ _ (by decide), ink_getD_keep]
      omega
    · simp_all [isBare]
    · rintro rfl
      simp_all

theorem accounts_escaped (h : Scan.step ⟨ws, word, .escaped⟩ c = some s') :
    Accounts ⟨ws, word, .escaped⟩ c s' := by
  refine ⟨?_, fun hne => absurd rfl hne⟩
  simp only [Scan.step] at h
  split at h
  all_goals
    obtain rfl := Option.some.inj h
    simp (disch := decide) only [Scan.keep_mk, Scan.ink_settled, ink_getD_keep]
    omega

theorem accounts_single (h : Scan.step ⟨ws, word, .single⟩ c = some s') :
    Accounts ⟨ws, word, .single⟩ c s' := by
  refine ⟨?_, fun _ hne => absurd rfl hne⟩
  simp only [Scan.step] at h
  split at h
  all_goals
    obtain rfl := Option.some.inj h
    simp (disch := decide) only [Scan.keep_mk, Scan.ink_settled, ink_getD_keep]
    omega

theorem accounts_double (h : Scan.step ⟨ws, word, .double⟩ c = some s') :
    Accounts ⟨ws, word, .double⟩ c s' := by
  have hink := Scan.ink_settled ws word (q := .double) (by decide)
  simp only [Scan.step] at h
  split at h
  · rename_i hquote
    obtain rfl := Option.some.inj h
    obtain rfl := beq_iff_eq.1 hquote
    refine ⟨?_, fun _ _ _ => .closes ws word⟩
    rw [hink, Scan.ink_settled _ _ (by decide)]
    omega
  rename_i hquote
  have hc : ink [c] = 1 := ink_singleton_of_ne (by simpa using hquote)
  split at h
  · rename_i hescape
    obtain rfl := Option.some.inj h
    obtain rfl := beq_iff_eq.1 hescape
    refine ⟨?_, fun _ _ _ => .backslash ws word⟩
    rw [hink, Scan.ink_pending]
    omega
  split at h
  · cases h
  · rename_i hspecial
    obtain rfl := Option.some.inj h
    refine ⟨?_, fun _ _ _ => .quoted ws word (by simpa using hspecial)⟩
    rw [hink, Scan.keep_mk, Scan.ink_settled _ _ (by decide), ink_getD_keep]
    omega

theorem accounts_doubleEscaped (h : Scan.step ⟨ws, word, .doubleEscaped⟩ c = some s') :
    Accounts ⟨ws, word, .doubleEscaped⟩ c s' := by
  have hink := Scan.ink_pending ws word
  simp only [Scan.step] at h
  split at h
  · -- The pending backslash is lost,
    obtain rfl := Option.some.inj h
    have hlost := Scan.ink_settled ws word (q := .double) (by decide)
    exact ⟨by omega, fun _ _ hle => by omega⟩
  rename_i hline
  split at h
  · -- here, too.
    obtain rfl := Option.some.inj h
    have hlost : Scan.ink ⟨ws, some (word.getD [] ++ [c]), .double⟩ + 1 =
        Scan.ink ⟨ws, word, .doubleEscaped⟩ + ink [c] := by
      rw [hink, Scan.ink_settled _ _ (by decide), ink_getD_keep]
      omega
    simp only [Accounts, Scan.keep_mk]
    exact ⟨by omega, fun _ _ hle => by omega⟩
  · rename_i hspecial
    obtain rfl := Option.some.inj h
    have hkept : { (Scan.keep ⟨ws, word, .doubleEscaped⟩ '\\').keep c with quoting := .double } =
        (⟨ws, some (word.getD [] ++ ['\\', c]), .double⟩ : Scan) := by
      simp [Scan.keep_mk]
    rw [hkept]
    refine ⟨?_, fun _ _ _ => .literal ws word (by simpa using hspecial) (by simpa using hline)⟩
    have hescape : ink ['\\', c] = 1 + ink [c] := ink_cons '\\' [c]
    rw [hink, Scan.ink_settled _ _ (by decide), Option.getD_some, ink_append, hescape]
    omega

/-- **A character adds its ink at most, and if it adds all of it, the step is thrifty.** -/
theorem accounts_step {s : Scan} (h : s.step c = some s') : Accounts s c s' := by
  obtain ⟨ws, word, quoting⟩ := s
  cases quoting with
  | bare => exact accounts_bare h
  | escaped => exact accounts_escaped h
  | single => exact accounts_single h
  | double => exact accounts_double h
  | doubleEscaped => exact accounts_doubleEscaped h

end Step

/-- A reading of which every step is thrifty. -/
inductive Thrifty : Scan → List Char → Scan → Prop
  | done (s : Scan) : Thrifty s [] s
  | more {s s' s'' : Scan} {c : Char} {rest : List Char} (hstep : ThriftyStep s c s')
      (hrest : Thrifty s' rest s'') : Thrifty s (c :: rest) s''

theorem run_ink {s s' : Scan} {text : List Char} (h : s.run text = some s') :
    s'.ink ≤ s.ink + ink text := by
  induction text generalizing s with
  | nil =>
      obtain rfl := Option.some.inj h
      exact Nat.le_refl _
  | cons c rest ih =>
      rw [run_cons] at h
      obtain ⟨s₁, hstep, hrest⟩ := Option.bind_eq_some_iff.1 h
      have hfirst := (accounts_step hstep).1
      have hothers := ih hrest
      rw [ink_cons]
      omega

/-- No thrifty step begins a quotation that drops characters. -/
theorem ThriftyStep.quoting_ne {s s' : Scan} {c : Char} (h : ThriftyStep s c s') :
    s'.quoting ≠ .escaped ∧ s'.quoting ≠ .single := by
  cases h <;> exact ⟨nofun, nofun⟩

/-- **A reading that loses no ink is thrifty.** -/
theorem thrifty_of_run {s s' : Scan} {text : List Char} (h : s.run text = some s')
    (hescaped : s.quoting ≠ .escaped) (hsingle : s.quoting ≠ .single)
    (hink : s.ink + ink text ≤ s'.ink) : Thrifty s text s' := by
  induction text generalizing s with
  | nil =>
      obtain rfl := Option.some.inj h
      exact .done s
  | cons c rest ih =>
      rw [run_cons] at h
      obtain ⟨s₁, hstep, hrest⟩ := Option.bind_eq_some_iff.1 h
      obtain ⟨hfirst, hthrifty⟩ := accounts_step hstep
      have hothers := run_ink hrest
      rw [ink_cons] at hink
      have hone := hthrifty hescaped hsingle (by omega)
      exact .more hone (ih hrest hone.quoting_ne.1 hone.quoting_ne.2 (by omega))

theorem thrifty_append {s s'' : Scan} {front back : List Char} (h : Thrifty s (front ++ back) s'') :
    ∃ s', Thrifty s front s' ∧ Thrifty s' back s'' := by
  induction front generalizing s with
  | nil => exact ⟨s, .done s, h⟩
  | cons c front ih =>
      cases h with
      | more hstep hrest =>
          obtain ⟨s', hfront, hback⟩ := ih hrest
          exact ⟨s', .more hstep hfront, hback⟩

theorem ThriftyStep.step {s s' : Scan} {c : Char} (h : ThriftyStep s c s') : s.step c = some s' := by
  cases h with
  | blank ws w hc => simp [Scan.step, hc]
  | opens ws word => rfl
  | bare ws word hc hfirst => exact step_isBare ws word hc hfirst
  | closes ws word => rfl
  | backslash ws word => rfl
  | quoted ws word hc =>
      simp_all [Scan.step, isSpecialQuoted, Scan.keep]
  | literal ws word hc hline =>
      simp_all [Scan.step, isSpecialQuoted, Scan.keep]

theorem Thrifty.run {s s' : Scan} {text : List Char} (h : Thrifty s text s') :
    s.run text = some s' := by
  induction h with
  | done s => rfl
  | more hstep hrest ih => rw [run_cons, hstep.step, Option.bind_some, ih]

/-- What is read is known where the text is. -/
theorem Thrifty.of_append {s s' s'' : Scan} {front back : List Char}
    (h : Thrifty s (front ++ back) s'') (hrun : s.run front = some s') : Thrifty s' back s'' := by
  obtain ⟨s₁, hfront, hback⟩ := thrifty_append h
  obtain rfl := Option.some.inj (hfront.run.symm.trans hrun)
  exact hback

/-! ### What a thrifty reading leaves behind -/

/-- All characters that were read into words. -/
def Scan.kept (s : Scan) : List Char :=
  s.words.flatten ++ s.word.getD []

theorem ThriftyStep.kept {s s' : Scan} {c : Char} (h : ThriftyStep s c s') :
    ∃ more, s'.kept = s.kept ++ more ∧ '"' ∉ more := by
  have hquote {c : Char} (hc : c ≠ '"') : '"' ∉ [c] := by simpa using hc.symm
  cases h with
  | blank ws w hc => exact ⟨[], by simp [Scan.kept], List.not_mem_nil⟩
  | opens ws word => exact ⟨[], by simp [Scan.kept], List.not_mem_nil⟩
  | bare ws word hc hfirst =>
      exact ⟨[c], by simp [Scan.kept], hquote (by rintro rfl; cases hc)⟩
  | closes ws word => exact ⟨[], (List.append_nil _).symm, List.not_mem_nil⟩
  | backslash ws word => exact ⟨[], (List.append_nil _).symm, List.not_mem_nil⟩
  | quoted ws word hc =>
      exact ⟨[c], by simp [Scan.kept], hquote (by rintro rfl; cases hc)⟩
  | literal ws word hc hline =>
      refine ⟨['\\', c], by simp [Scan.kept], ?_⟩
      rw [List.mem_cons, not_or]
      exact ⟨by decide, hquote (by rintro rfl; cases hc)⟩

/-- A thrifty reading drops every double quote. -/
theorem Thrifty.quote_not_mem {s s' : Scan} {text : List Char} (h : Thrifty s text s')
    (hs : '"' ∉ s.kept) : '"' ∉ s'.kept := by
  induction h with
  | done s => exact hs
  | more hstep hrest ih =>
      obtain ⟨more, hkept, hmore⟩ := hstep.kept
      refine ih ?_
      rw [hkept, List.mem_append, not_or]
      exact ⟨hs, hmore⟩

/-- Words that have ended stay. -/
theorem Thrifty.words_prefix {s s' : Scan} {text : List Char} (h : Thrifty s text s') :
    s.words <+: s'.words := by
  induction h with
  | done s => exact List.prefix_refl _
  | more hstep hrest ih =>
      refine List.IsPrefix.trans ?_ ih
      cases hstep with
      | blank ws w hc => exact List.prefix_append ws [w]
      | _ => exact List.prefix_refl _

/-- **A line whose words take up all of its ink**, with one character between any two of them, is
read thriftily. -/
theorem thrifty_of_wordsOf? {line : List Char} {words : List (List Char)}
    (h : wordsOf? line = some words) (hink : inkOf words = ink line + 1) :
    ∃ s, Thrifty Scan.start line s ∧ s.words <+: words ∧ ∀ w ∈ words, '"' ∉ w := by
  obtain ⟨⟨ws, word, quoting⟩, hrun, rfl, rfl⟩ := wordsOf?_eq_some_iff.1 h
  have hthrifty : Thrifty Scan.start line ⟨ws, word, .bare⟩ := by
    refine thrifty_of_run hrun nofun nofun ?_
    rw [Scan.start, Scan.ink_settled _ _ (by decide), Scan.ink_settled _ _ (by decide)]
    rw [inkOf_append] at hink
    cases word with
    | none =>
        simp only [Option.toList_none, inkOf_nil, Option.getD_none, ink_nil] at hink ⊢
        omega
    | some w =>
        simp only [Option.toList_some, inkOf_cons, inkOf_nil, Option.getD_some, Option.getD_none,
          ink_nil] at hink ⊢
        omega
  refine ⟨_, hthrifty, List.prefix_append ws _, fun w hw hquote => ?_⟩
  refine hthrifty.quote_not_mem List.not_mem_nil ?_
  rcases List.mem_append.1 hw with hw | hw
  · exact List.mem_append_left _ (List.mem_flatten.2 ⟨w, hw, hquote⟩)
  · obtain rfl := Option.mem_toList.1 hw
    exact List.mem_append_right _ hquote

/-- A word that has ended holds less than the text in which it ended and what came before. -/
theorem words_length_le {ws words : List (List Char)} {word : Option (List Char)}
    {text : List Char} {s' : Scan} (h : Thrifty ⟨ws, word, .bare⟩ text s')
    (hwords : s'.words <+: words) (hword : ws ++ [word.getD [] ++ text] <+: words) :
    s'.words.length ≤ ws.length := by
  by_contra hlong
  have hended : ws ++ [word.getD [] ++ text] <+: s'.words := by
    refine List.prefix_of_prefix_length_le hword hwords ?_
    rw [List.length_append, List.length_singleton]
    omega
  obtain ⟨more, hmore⟩ := hended
  have hread := run_ink h.run
  have hle := s'.inkOf_words_le
  rw [← hmore] at hle
  simp only [Scan.ink_settled ws word (q := .bare) (by decide), inkOf_append, inkOf_cons,
    inkOf_nil, ink_append] at hread hle
  omega

/-- **A text that is read thriftily without ending a word is bare.** -/
theorem isBare_of_thrifty {ws : List (List Char)} {w text : List Char} {s' : Scan}
    (h : Thrifty ⟨ws, some w, .bare⟩ text s') (hquote : '"' ∉ text)
    (hwords : s'.words.length ≤ ws.length) :
    text.all isBare = true ∧ s' = ⟨ws, some (w ++ text), .bare⟩ := by
  induction text generalizing w with
  | nil =>
      cases h
      exact ⟨rfl, by rw [List.append_nil]⟩
  | cons c text ih =>
      cases h with
      | more hstep hrest =>
          cases hstep with
          | blank _ _ hc =>
              have hlength := hrest.words_prefix.length_le
              rw [List.length_append, List.length_singleton] at hlength
              omega
          | opens => exact absurd List.mem_cons_self hquote
          | bare _ _ hc hfirst =>
              obtain ⟨hall, rfl⟩ := ih hrest (fun h => hquote (List.mem_cons_of_mem c h))
              refine ⟨by rw [List.all_cons, hc, hall]; rfl, ?_⟩
              rw [Option.getD_some, List.append_assoc, List.singleton_append]

/-- The same where no word has begun. -/
theorem isBareWord_of_thrifty {ws : List (List Char)} {text : List Char} {s' : Scan}
    (h : Thrifty ⟨ws, none, .bare⟩ text s') (hquote : '"' ∉ text) (hne : text ≠ [])
    (hwords : s'.words.length ≤ ws.length) :
    IsBareWord text ∧ s' = ⟨ws, some text, .bare⟩ := by
  cases h with
  | done => exact absurd rfl hne
  | @more _ _ _ c rest hstep hrest =>
      cases hstep with
      | opens => exact absurd List.mem_cons_self hquote
      | bare _ _ hc hfirst =>
          obtain ⟨hall, rfl⟩ :=
            isBare_of_thrifty hrest (fun h => hquote (List.mem_cons_of_mem c h)) hwords
          refine ⟨⟨by rw [List.all_cons, hc, hall]; rfl, ?_⟩, rfl⟩
          rw [List.head?_cons, Option.any_some, hfirst rfl]
          rfl

/-- **A text that is read thriftily between two double quotes is quotable.** -/
theorem isQuotable_of_thrifty {ws : List (List Char)} {w text rest : List Char} {s' : Scan}
    (h : Thrifty ⟨ws, some w, .double⟩ (text ++ '"' :: rest) s') (hquote : '"' ∉ text) :
    isQuotable text = true ∧ Thrifty ⟨ws, some (w ++ text), .bare⟩ rest s' := by
  fun_induction isQuotable text generalizing w with
  | case1 =>
      rw [List.append_nil]
      cases h with
      | more hstep hrest =>
          cases hstep with
          | closes => exact ⟨rfl, hrest⟩
          | quoted _ _ hc => cases hc
  | case2 =>
      -- The backslash would quote the double quote behind the text.
      cases h with
      | more hstep hrest =>
          cases hstep with
          | quoted _ _ hc => cases hc
          | backslash =>
              cases hrest with
              | more hstep hrest =>
                  cases hstep with
                  | literal _ _ hc hline => cases hc
  | case3 c rest' ih =>
      cases h with
      | more hstep hrest =>
          cases hstep with
          | quoted _ _ hc => cases hc
          | backslash =>
              cases hrest with
              | more hstep hrest =>
                  cases hstep with
                  | literal _ _ hc hline =>
                      have hread : Thrifty ⟨ws, some (w ++ ['\\']), .double⟩
                          (c :: rest' ++ '"' :: rest) s' := by
                        refine .more (.quoted ws _ hc) ?_
                        rw [Option.getD_some, List.append_assoc]
                        exact hrest
                      obtain ⟨hall, hrest⟩ :=
                        ih hread (fun h => hquote (List.mem_cons_of_mem _ h))
                      rw [List.append_assoc, List.singleton_append] at hrest
                      refine ⟨?_, hrest⟩
                      rw [hc, hall, bne_iff_ne.2 hline]
                      rfl
  | case4 c text hc ih =>
      cases h with
      | more hstep hrest =>
          cases hstep with
          | closes => exact absurd List.mem_cons_self hquote
          | backslash => exact absurd rfl hc
          | quoted _ _ hspecial =>
              obtain ⟨hall, hrest⟩ := ih hrest (fun h => hquote (List.mem_cons_of_mem _ h))
              rw [Option.getD_some, List.append_assoc, List.singleton_append] at hrest
              exact ⟨by rw [hspecial, hall]; rfl, hrest⟩

end SqlxDryRun.Shell
