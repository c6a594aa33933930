import SqlxDryRun.Proofs.ConfigBlock.Token
import SqlxDryRun.Proofs.Text.Matches

/-!
# The token among the disjoint matches of its bytes

`searchMatches?` looks for the token in the bytes of a line: it goes through the disjoint matches
from left to right, slices the line before and behind each match, and stops at the first one whose
neighbours let it be a word.  The token is unbordered, so every place where its bytes stand is
visited, and each one is a place where the token stands in the line (`mem_tokenPlaces_iff`).  Hence
no slice cuts a character, and the search gives the same answer as `hasToken`
(`searchMatches?_eq`).
-/

namespace SqlxDryRun.ConfigBlock

open SqlxDryRun.Text

/-- The places, counted in bytes, of the disjoint matches of the token in a line. -/
def tokenPlaces (line : List Char) : List Nat :=
  matchIndices (utf8 token) (utf8 line)

/-- Whether the neighbours of the token at a place let it be a word of its own; nothing if the line
cannot be cut before or behind it. -/
def isWordAt? (line : List Char) (place : Nat) : Option Bool := do
  let (before, _) ← cutAt? place line
  let (_, after) ← cutAt? (place + (utf8 token).length) line
  some (isBoundary before.getLast? && isBoundary after.head?)

/-- Whether one of the disjoint matches is a word of its own, looked for from left to right. -/
def searchMatches? (line : List Char) : Option Bool :=
  (tokenPlaces line).anyM (isWordAt? line)

theorem token_ne_nil : token ≠ [] := by
  decide

theorem unbordered_utf8_token : Unbordered (utf8 token) := by
  decide

/-- The bytes of the token match at a place of a line just if the token stands there. -/
theorem match_iff {line : List Char} {place : Nat} :
    utf8 token <+: (utf8 line).drop place ↔
      ∃ before after, line = before ++ token ++ after ∧ (utf8 before).length = place := by
  constructor
  · exact exists_cut_of_match token_ne_nil
  · rintro ⟨before, after, rfl, rfl⟩
    rw [utf8_append, utf8_append, List.append_assoc, List.drop_left]
    exact List.prefix_append _ _

/-- The search visits every place where the token stands, and no other one. -/
theorem mem_tokenPlaces_iff {line : List Char} {place : Nat} :
    place ∈ tokenPlaces line ↔
      ∃ before after, line = before ++ token ++ after ∧ (utf8 before).length = place := by
  rw [tokenPlaces, mem_matchIndices_iff unbordered_utf8_token (by decide), match_iff]

theorem cutAt?_before (before after : List Char) :
    cutAt? (utf8 before).length (before ++ token ++ after) = some (before, token ++ after) := by
  rw [List.append_assoc, cutAt?_append]

theorem cutAt?_behind (before after : List Char) :
    cutAt? ((utf8 before).length + (utf8 token).length) (before ++ token ++ after) =
      some (before ++ token, after) := by
  rw [← List.length_append, ← utf8_append, cutAt?_append]

/-- The neighbours of the token are read off the slices. -/
theorem isWordAt?_append (before after : List Char) :
    isWordAt? (before ++ token ++ after) (utf8 before).length =
      some (isBoundary before.getLast? && isBoundary after.head?) := by
  rw [isWordAt?, cutAt?_before, cutAt?_behind]
  rfl

/-- A search in which every step gives an answer gives an answer. -/
theorem anyM_eq_some {α : Type} {step : α → Option Bool} {items : List α}
    (h : ∀ a ∈ items, (step a).isSome = true) :
    ∃ found, items.anyM step = some found ∧ (found = true ↔ ∃ a ∈ items, step a = some true) := by
  induction items with
  | nil => exact ⟨false, rfl, by simp⟩
  | cons a items ih =>
      obtain ⟨hhead, hrest⟩ := List.forall_mem_cons.1 h
      obtain ⟨answer, hanswer⟩ := Option.isSome_iff_exists.1 hhead
      rw [List.anyM_cons, hanswer]
      cases answer with
      | true => exact ⟨true, rfl, iff_of_true rfl ⟨a, List.mem_cons_self, hanswer⟩⟩
      | false =>
          obtain ⟨found, hfound, hiff⟩ := ih hrest
          refine ⟨found, hfound, hiff.trans ?_⟩
          simp [hanswer]

/-- **The search through the disjoint matches never cuts a character, and finds the token just where
it is a word of its own.** -/
theorem searchMatches?_eq (line : List Char) : searchMatches? line = some (hasToken line) := by
  have hsome : ∀ place ∈ tokenPlaces line, (isWordAt? line place).isSome = true := by
    intro place hplace
    obtain ⟨before, after, rfl, rfl⟩ := mem_tokenPlaces_iff.1 hplace
    rw [isWordAt?_append]
    rfl
  obtain ⟨found, hfound, hiff⟩ := anyM_eq_some hsome
  rw [searchMatches?, hfound, Option.some.injEq, Bool.eq_iff_iff, hiff, hasToken_iff]
  constructor
  · rintro ⟨place, hplace, hword⟩
    obtain ⟨before, after, rfl, rfl⟩ := mem_tokenPlaces_iff.1 hplace
    rw [isWordAt?_append, Option.some.injEq, Bool.and_eq_true] at hword
    exact ⟨before, after, rfl, hword⟩
  · rintro ⟨before, after, rfl, hbefore, hafter⟩
    refine ⟨(utf8 before).length, mem_tokenPlaces_iff.2 ⟨before, after, rfl, rfl⟩, ?_⟩
    rw [isWordAt?_append, hbefore, hafter, Bool.and_self]

theorem isBoundary_iff {neighbour : Option Char} :
    isBoundary neighbour = true ↔ ∀ c ∈ neighbour, isTokenChar c = false := by
  cases neighbour <;> simp [isBoundary]

/-- **The token is found just where it is a word of its own**, on any line.  The disjoint matches are
all the places where its bytes stand, each of them lies between two characters and so does its end,
and the search through them gives the answer. -/
theorem hasToken_visits_all (line : List Char) :
    (hasToken line = true ↔ ∃ before after, line = before ++ "config".toList ++ after ∧
      (∀ c ∈ before.getLast?, isTokenChar c = false) ∧
      ∀ c ∈ after.head?, isTokenChar c = false) ∧
    searchMatches? line = some (hasToken line) ∧
    (∀ place, place ∈ tokenPlaces line ↔ utf8 token <+: (utf8 line).drop place) ∧
    ((tokenPlaces line).Pairwise fun place next => place + (utf8 token).length ≤ next) ∧
    ∀ place ∈ tokenPlaces line, ∃ before after, line = before ++ token ++ after ∧
      cutAt? place line = some (before, token ++ after) ∧
      cutAt? (place + (utf8 token).length) line = some (before ++ token, after) := by
  refine ⟨?_, searchMatches?_eq line, fun place => ?_, pairwise_matchesFrom, ?_⟩
  · simp only [hasToken_iff, HoldsToken, isBoundary_iff]
    rfl
  · rw [mem_tokenPlaces_iff, match_iff]
  · intro place hplace
    obtain ⟨before, after, rfl, rfl⟩ := mem_tokenPlaces_iff.1 hplace
    exact ⟨before, after, rfl, cutAt?_before before after, cutAt?_behind before after⟩

/-- A character of two bytes stands before the token. -/
theorem hasToken_visits_all_umlaut :
    ∃ before after, "xä config".toList = before ++ token ++ after ∧
      cutAt? 4 "xä config".toList = some (before, token ++ after) ∧
      cutAt? (4 + (utf8 token).length) "xä config".toList = some (before ++ token, after) :=
  (hasToken_visits_all "xä config".toList).2.2.2.2 4 (by decide)

end SqlxDryRun.ConfigBlock
