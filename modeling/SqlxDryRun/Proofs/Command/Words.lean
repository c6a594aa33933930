import SqlxDryRun.Command
import SqlxDryRun.Proofs.Command.Shell

/-!
# Which command lines mean what they were built from

A command line is put together from a workspace, a tag or the names of actions, and a scope.  It is
meant for a shell, which splits it into words again.  `words_of_runs` says for which workspaces,
tags and names these are the words that were meant: the workspace must be a bare word, the tag bare
behind its option, and the names, which stand between double quotes, quotable.

One direction reads the line piece by piece.  For the other, the words that were meant take up all
ink of the line, so that it was read thriftily.
-/

namespace SqlxDryRun.Command

open Shell

/-! ## The pieces of a line -/

/-- The words that every line begins with. -/
def headWords : List (List Char) :=
  ["dataform".toList, "run".toList]

/-- The option for a tag, behind a blank. -/
def tagChars (tag : List Char) : List Char :=
  ' ' :: ("--tags=".toList ++ tag)

/-- The option for an action. -/
def actionChars (action : List Char) : List Char :=
  " --actions \"".toList ++ (action ++ ['"'])

theorem tagChars_eq (tag : List Char) : tagChars tag = ' ' :: ("--tags=".toList ++ tag) :=
  rfl

theorem actionChars_eq (action : List Char) :
    actionChars action = " --actions \"".toList ++ (action ++ ['"']) :=
  rfl

/-- The options for actions begin with a blank. -/
theorem head?_actions {actions : List (List Char)} (h : actions ≠ []) (rest : List Char) :
    (actions.flatMap actionChars ++ rest).head? = some ' ' := by
  obtain ⟨a, others, rfl⟩ := List.exists_cons_of_ne_nil h
  rfl

/-- The end of a line for a scope. -/
def scopeChars (scope : Scope) : List Char :=
  match scope.flag? with
  | none => []
  | some flag => ' ' :: flag.toList

theorem toList_withScope (line : String) (scope : Scope) :
    (withScope line scope).toList = line.toList ++ scopeChars scope := by
  cases scope <;> simp [withScope, scopeChars, Scope.flag?]

theorem toList_runTag (workspace : Path) (tag : String) (scope : Scope) :
    (runTag workspace tag scope).toList =
      "dataform run ".toList ++
        (workspace.toString.toList ++ (tagChars tag.toList ++ scopeChars scope)) := by
  have hoption : " --tags=".toList = ' ' :: "--tags=".toList := by decide
  rw [runTag, toList_withScope, String.toList_append, String.toList_append, String.toList_append,
    hoption, tagChars_eq]
  simp only [List.append_assoc, List.cons_append]

theorem toList_actionOption (action : String) :
    (" --actions \"" ++ action ++ "\"").toList = actionChars action.toList := by
  have hquote : "\"".toList = ['"'] := by decide
  rw [String.toList_append, String.toList_append, hquote, actionChars_eq, List.append_assoc]

theorem runActions_eq (workspace : Path) {actions : List String} (h : actions ≠ [])
    (scope : Scope) :
    ∃ line, runActions workspace actions scope = some line ∧
      line.toList = "dataform run ".toList ++ (workspace.toString.toList ++
        ((actions.map String.toList).flatMap actionChars ++ scopeChars scope)) := by
  have hempty : ¬actions.isEmpty = true := by rwa [List.isEmpty_iff]
  refine ⟨_, if_neg hempty, ?_⟩
  have hoptions : (String.join (actions.map fun a => " --actions \"" ++ a ++ "\"")).toList =
      (actions.map String.toList).flatMap actionChars := by
    rw [String.toList_join, List.flatMap_map, List.flatMap_map]
    simp only [toList_actionOption]
  rw [toList_withScope, String.toList_append, String.toList_append, hoptions]
  simp only [List.append_assoc]

/-! ## The words that are meant -/

/-- The words of a scope. -/
def scopeWords (scope : Scope) : List String :=
  scope.flag?.toList

/-- The words of a run of everything with a tag. -/
def tagWords (workspace : Path) (tag : String) (scope : Scope) : List String :=
  ["dataform", "run", workspace.toString, "--tags=" ++ tag] ++ scopeWords scope

/-- The words of a run of actions. -/
def actionsWords (workspace : Path) (actions : List String) (scope : Scope) : List String :=
  ["dataform", "run", workspace.toString] ++ actions.flatMap (fun a => ["--actions", a]) ++
    scopeWords scope

/-! ## Reading the pieces -/

theorem run_head : Scan.start.run "dataform run ".toList = some ⟨headWords, none, .bare⟩ := by
  decide

section Pieces

variable (ws : List (List Char)) (w : List Char)

theorem run_tagOption :
    Scan.run ⟨ws, some w, .bare⟩ (' ' :: "--tags=".toList) =
      some ⟨ws ++ [w], some "--tags=".toList, .bare⟩ :=
  rfl

theorem run_tagChars {tag : List Char} (h : tag.all isBare = true) :
    Scan.run ⟨ws, some w, .bare⟩ (tagChars tag) =
      some ⟨ws ++ [w], some ("--tags=".toList ++ tag), .bare⟩ := by
  rw [tagChars_eq, ← List.cons_append, run_append, run_tagOption, Option.bind_some,
    run_isBare _ _ h]

/-- The double quote that opens the name of an action is all that stands before it. -/
theorem run_actionOption :
    Scan.run ⟨ws, some w, .bare⟩ " --actions \"".toList =
      some ⟨ws ++ [w] ++ ["--actions".toList], some [], .double⟩ :=
  rfl

theorem run_actionChars {action : List Char} (h : isQuotable action = true) :
    Scan.run ⟨ws, some w, .bare⟩ (actionChars action) =
      some ⟨ws ++ [w] ++ ["--actions".toList], some action, .bare⟩ := by
  rw [actionChars_eq, run_append, run_actionOption, Option.bind_some, run_append,
    run_isQuotable _ [] h, Option.bind_some, List.nil_append]
  rfl

theorem run_actions {actions : List (List Char)} (h : ∀ a ∈ actions, isQuotable a = true) :
    ∃ ws' w', Scan.run ⟨ws, some w, .bare⟩ (actions.flatMap actionChars) =
        some ⟨ws', some w', .bare⟩ ∧
      ws' ++ [w'] = ws ++ [w] ++ actions.flatMap fun a => ["--actions".toList, a] := by
  induction actions generalizing ws w with
  | nil => exact ⟨ws, w, rfl, (List.append_nil _).symm⟩
  | cons a actions ih =>
      obtain ⟨ws', w', hrun, hwords⟩ :=
        ih (ws ++ [w] ++ ["--actions".toList]) a fun b hb => h b (List.mem_cons_of_mem a hb)
      refine ⟨ws', w', ?_, ?_⟩
      · rw [List.flatMap_cons, run_append, run_actionChars ws w (h a List.mem_cons_self),
          Option.bind_some, hrun]
      · rw [hwords]
        simp only [List.flatMap_cons, List.append_assoc, List.cons_append, List.nil_append]

theorem run_scopeChars (scope : Scope) :
    ∃ s, Scan.run ⟨ws, some w, .bare⟩ (scopeChars scope) = some s ∧ s.quoting = .bare ∧
      s.words ++ s.word.toList = ws ++ [w] ++ (scopeWords scope).map String.toList := by
  have hflag (flag : List Char) (h : IsBareWord flag) :
      Scan.run ⟨ws, some w, .bare⟩ (' ' :: flag) = some ⟨ws ++ [w], some flag, .bare⟩ := by
    rw [run_blank, run_bareWord _ h]
  cases scope with
  | selected => exact ⟨_, rfl, rfl, (List.append_nil _).symm⟩
  | withDependencies =>
      exact ⟨_, hflag "--include-deps".toList (by decide), rfl, rfl⟩
  | withDependents =>
      exact ⟨_, hflag "--include-dependents".toList (by decide), rfl, rfl⟩

end Pieces

/-! ## The ink of the pieces -/

theorem ink_head : ink "dataform run ".toList = inkOf headWords := by
  decide

theorem ink_tagChars (tag : List Char) : ink (tagChars tag) = inkOf ["--tags=".toList ++ tag] := by
  have hoption : ink (' ' :: "--tags=".toList) = ink "--tags=".toList + 1 := by decide
  rw [tagChars_eq, ← List.cons_append, ink_append, hoption, inkOf_cons, ink_append, inkOf_nil]
  omega

theorem ink_actionChars (action : List Char) :
    ink (actionChars action) = inkOf ["--actions".toList, action] := by
  have hoption : ink " --actions \"".toList = ink "--actions".toList + 2 := by decide
  have hquote : ink ['"'] = 0 := by decide
  rw [actionChars_eq, ink_append, ink_append, hoption, hquote, inkOf_cons, inkOf_cons, inkOf_nil]
  omega

theorem ink_actions (actions : List (List Char)) :
    ink (actions.flatMap actionChars) =
      inkOf (actions.flatMap fun a => ["--actions".toList, a]) := by
  induction actions with
  | nil => rfl
  | cons a actions ih =>
      rw [List.flatMap_cons, List.flatMap_cons, ink_append, inkOf_append, ink_actionChars, ih]

theorem ink_scopeChars (scope : Scope) :
    ink (scopeChars scope) = inkOf ((scopeWords scope).map String.toList) := by
  cases scope <;> decide

/-! ## What a thrifty reading says of the pieces -/

section Thrifty

variable {ws words : List (List Char)} {w text rest : List Char} {s : Scan}

/-- A word in front of a blank is bare. -/
theorem isBareWord_of_meant (h : Thrifty ⟨ws, none, .bare⟩ (text ++ rest) s)
    (hblank : rest.head? = some ' ') (hs : s.words <+: words) (hword : ws ++ [text] <+: words)
    (hquote : '"' ∉ text) : IsBareWord text ∧ Thrifty ⟨ws, some text, .bare⟩ rest s := by
  obtain ⟨s', hfront, hback⟩ := thrifty_append h
  have hlength := words_length_le hfront (hback.words_prefix.trans hs) hword
  by_cases hne : text = []
  · -- A blank that ends no word would be lost.
    subst hne
    cases hfront
    cases hback with
    | done => cases hblank
    | more hstep _ =>
        obtain rfl := Option.some.inj hblank
        cases hstep with
        | bare _ _ hc _ => cases hc
  · obtain ⟨hbare, rfl⟩ := isBareWord_of_thrifty hfront hquote hne hlength
    exact ⟨hbare, hback⟩

/-- The rest of a word is bare. -/
theorem all_isBare_of_meant (h : Thrifty ⟨ws, some w, .bare⟩ (text ++ rest) s)
    (hs : s.words <+: words) (hword : ws ++ [w ++ text] <+: words) (hquote : '"' ∉ text) :
    text.all isBare = true := by
  obtain ⟨s', hfront, hback⟩ := thrifty_append h
  have hlength := words_length_le hfront (hback.words_prefix.trans hs) hword
  exact (isBare_of_thrifty hfront hquote hlength).1

theorem isQuotable_of_meant {actions : List (List Char)}
    (h : Thrifty ⟨ws, some w, .bare⟩ (actions.flatMap actionChars ++ rest) s)
    (hquote : ∀ a ∈ actions, '"' ∉ a) : ∀ a ∈ actions, isQuotable a = true := by
  induction actions generalizing ws w with
  | nil => exact nofun
  | cons a actions ih =>
      rw [List.flatMap_cons, actionChars_eq] at h
      simp only [List.append_assoc, List.singleton_append] at h
      obtain ⟨ha, hothers⟩ :=
        isQuotable_of_thrifty (h.of_append (run_actionOption ws w)) (hquote a List.mem_cons_self)
      intro b hb
      rcases List.mem_cons.1 hb with rfl | hb
      · exact ha
      · exact ih hothers (fun b hb => hquote b (List.mem_cons_of_mem a hb)) b hb

/-- **What the words of a line say** of its workspace and of the options behind it, if they take up
all of its ink. -/
theorem thrifty_of_meant {place options : List Char} {more : List (List Char)}
    (h : wordsOf? ("dataform run ".toList ++ (place ++ options)) =
      some (headWords ++ [place] ++ more))
    (hblank : options.head? = some ' ') (hink : inkOf more = ink options) :
    IsBareWord place ∧ ∃ s, Thrifty ⟨headWords, some place, .bare⟩ options s ∧
      s.words <+: headWords ++ [place] ++ more ∧ ∀ w ∈ more, '"' ∉ w := by
  obtain ⟨s, hread, hs, hquote⟩ := thrifty_of_wordsOf? h (by
    simp only [ink_append, inkOf_append, ink_head, inkOf_cons, inkOf_nil, hink]
    omega)
  have hmem : place ∈ headWords ++ [place] ++ more :=
    List.mem_append_left _ (List.mem_append_right _ (List.mem_singleton_self place))
  obtain ⟨hbare, hoptions⟩ := isBareWord_of_meant (hread.of_append run_head) hblank hs
    (List.prefix_append _ _) (hquote place hmem)
  exact ⟨hbare, s, hoptions, hs, fun w hw => hquote w (List.mem_append_right _ hw)⟩

end Thrifty

/-! ## The lines -/

section Lines

variable (workspace : Path) (scope : Scope)

theorem toList_tagWords (tag : String) :
    (tagWords workspace tag scope).map String.toList =
      headWords ++ [workspace.toString.toList] ++
        (["--tags=".toList ++ tag.toList] ++ (scopeWords scope).map String.toList) := by
  rw [tagWords, List.map_append, List.map_cons, List.map_cons, List.map_cons, List.map_singleton,
    String.toList_append]
  rfl

theorem toList_actionsWords (actions : List String) :
    (actionsWords workspace actions scope).map String.toList =
      headWords ++ [workspace.toString.toList] ++
        ((actions.map String.toList).flatMap (fun a => ["--actions".toList, a]) ++
          (scopeWords scope).map String.toList) := by
  rw [actionsWords, List.map_append, List.map_append, List.map_flatMap, List.flatMap_map,
    ← List.append_assoc]
  rfl

theorem words_runTag_iff (tag : String) :
    words? (runTag workspace tag scope) = some (tagWords workspace tag scope) ↔
      IsBareWord workspace.toString.toList ∧ tag.toList.all isBare = true := by
  rw [words?_eq_some_iff, toList_runTag, toList_tagWords]
  generalize workspace.toString.toList = place
  generalize tag.toList = tag
  constructor
  · intro h
    obtain ⟨hbare, s, hoptions, hs, hquote⟩ := thrifty_of_meant h rfl
      (by rw [inkOf_append, ink_append, ink_tagChars, ink_scopeChars])
    refine ⟨hbare, ?_⟩
    have hword := hquote _ (List.mem_append_left _ (List.mem_singleton_self _))
    rw [List.mem_append, not_or] at hword
    rw [tagChars_eq, List.cons_append, List.append_assoc, ← List.cons_append] at hoptions
    refine all_isBare_of_meant (hoptions.of_append (run_tagOption headWords place)) hs ?_ hword.2
    rw [← List.append_assoc]
    exact List.prefix_append _ _
  · rintro ⟨hplace, htag⟩
    obtain ⟨s, hscope, hbare, hwords⟩ := run_scopeChars (headWords ++ [place])
      ("--tags=".toList ++ tag) scope
    rw [List.append_assoc _ [_]] at hwords
    refine wordsOf?_eq_some_iff.2 ⟨s, ?_, hbare, hwords⟩
    rw [run_append, run_head, Option.bind_some, run_append, run_bareWord _ hplace,
      Option.bind_some, run_append, run_tagChars _ _ htag, Option.bind_some, hscope]

theorem words_runActions_iff {actions : List String} (h : actions ≠ []) :
    ∃ line, runActions workspace actions scope = some line ∧
      (words? line = some (actionsWords workspace actions scope) ↔
        IsBareWord workspace.toString.toList ∧ ∀ a ∈ actions, isQuotable a.toList = true) := by
  obtain ⟨line, hline, htoList⟩ := runActions_eq workspace h scope
  refine ⟨line, hline, ?_⟩
  have hquotable : (∀ a ∈ actions, isQuotable a.toList = true) ↔
      ∀ a ∈ actions.map String.toList, isQuotable a = true := by
    simp only [List.forall_mem_map]
  have hmap : actions.map String.toList ≠ [] := by rwa [Ne, List.map_eq_nil_iff]
  rw [words?_eq_some_iff, htoList, toList_actionsWords, hquotable]
  generalize workspace.toString.toList = place
  generalize actions.map String.toList = actions at hmap
  constructor
  · intro h
    obtain ⟨hbare, s, hoptions, -, hquote⟩ := thrifty_of_meant h (head?_actions hmap _)
      (by rw [inkOf_append, ink_append, ink_actions, ink_scopeChars])
    refine ⟨hbare, isQuotable_of_meant hoptions fun a ha => hquote a ?_⟩
    have hmem : a ∈ ["--actions".toList, a] := List.mem_cons_of_mem _ (List.mem_singleton_self a)
    exact List.mem_append_left _ (List.mem_flatMap.2 ⟨a, ha, hmem⟩)
  · rintro ⟨hplace, hactions⟩
    obtain ⟨ws, w, hrun, hactionWords⟩ := run_actions headWords place hactions
    obtain ⟨s, hscope, hbare, hwords⟩ := run_scopeChars ws w scope
    rw [hactionWords, List.append_assoc] at hwords
    refine wordsOf?_eq_some_iff.2 ⟨s, ?_, hbare, hwords⟩
    rw [run_append, run_head, Option.bind_some, run_append, run_bareWord _ hplace,
      Option.bind_some, run_append, hrun, Option.bind_some, hscope]

/-- **What the run commands mean.**  The command for a tag is split into the words that it was built
from exactly if the workspace is a bare word and the tag is bare, and the command for actions, of
which there must be one, exactly if the workspace is a bare word and every name is quotable. -/
theorem words_of_runs :
    (∀ tag, words? (runTag workspace tag scope) = some (tagWords workspace tag scope) ↔
      IsBareWord workspace.toString.toList ∧ tag.toList.all isBare = true) ∧
    ∀ action others, ∃ line, runActions workspace (action :: others) scope = some line ∧
      (words? line = some (actionsWords workspace (action :: others) scope) ↔
        IsBareWord workspace.toString.toList ∧
          ∀ a ∈ action :: others, isQuotable a.toList = true) :=
  ⟨words_runTag_iff workspace scope, fun action others =>
    words_runActions_iff workspace scope (List.cons_ne_nil action others)⟩

/-- A blank in the workspace splits it, and a double quote in the name of an action ends it. -/
theorem runs_split_apart :
    words? (runTag (.ofString "/my ws") "daily" .selected) =
        some ["dataform", "run", "/my", "ws", "--tags=daily"] ∧
      (runActions (.ofString "/w") ["a\" b"] .selected).bind words? = none ∧
      (runActions (.ofString "/w") ["a\" --full-refresh \"b"] .selected).bind words? =
        some ["dataform", "run", "/w", "--actions", "a", "--full-refresh", "b"] := by
  decide +kernel

end Lines

end SqlxDryRun.Command
