import Mathlib.Tactic.MkIffOfInductiveProp
import SqlxDryRun.Editor.Cursor
import SqlxDryRun.Proofs.Text.Search

/-!
# The keyword that decides what is completed

`StandsAt` says that a keyword stands at a place of a text, and `StandsLast` that every other one
begins earlier and ends earlier.  No keyword overlaps another one or itself (`StandsAt.apart_of_le`),
so beginning last and ending last are the same, and at most one keyword stands last.  The last places
of the single keywords are compared by where they begin; `ofPrefix?_cases` says that the keyword that
stands last wins, and `ofPrefix?_follows_last` what this means for the text before the cursor, and
for typing on.
-/

namespace SqlxDryRun.Editor.CompletionTarget

open SqlxDryRun.Text

/-- A keyword stands at a place of a text. -/
structure StandsAt (text : List Char) (place : Nat) (word : List Char) (target : CompletionTarget) :
    Prop where
  listed : (word, target) ∈ keywords
  reads : word <+: text.drop place

/-- A keyword stands at a place of a text, and every other one begins earlier and ends earlier. -/
@[mk_iff]
structure StandsLast (text : List Char) (place : Nat) (word : List Char)
    (target : CompletionTarget) : Prop extends StandsAt text place word target where
  starts : ∀ place' word' target', StandsAt text place' word' target' → place' ≤ place
  ends : ∀ place' word' target', StandsAt text place' word' target' →
    place' + word'.length ≤ place + word.length

/-! ## Keywords do not overlap -/

theorem ne_nil_of_listed {word : List Char} {target : CompletionTarget}
    (h : (word, target) ∈ keywords) : word ≠ [] := by
  have hall : ∀ k ∈ keywords, k.1 ≠ [] := by decide
  exact hall _ h

theorem StandsAt.length_pos {text word : List Char} {place : Nat} {target : CompletionTarget}
    (h : StandsAt text place word target) : 0 < word.length :=
  List.length_pos_iff.2 (ne_nil_of_listed h.listed)

theorem StandsAt.end_le {text word : List Char} {place : Nat} {target : CompletionTarget}
    (h : StandsAt text place word target) : place + word.length ≤ text.length := by
  have hlength := h.reads.length_le
  have hpos := h.length_pos
  rw [List.length_drop] at hlength
  omega

/-- What is said of every place where a keyword stands is said of finitely many places. -/
theorem forall_standsAt_iff {text : List Char} {P : Nat → List Char → CompletionTarget → Prop} :
    (∀ place word target, StandsAt text place word target → P place word target) ↔
      ∀ k ∈ keywords, ∀ place < text.length, k.1 <+: text.drop place → P place k.1 k.2 := by
  constructor
  · intro h k hlisted place _ hreads
    exact h place k.1 k.2 ⟨hlisted, hreads⟩
  · intro h place word target hstands
    have hend := hstands.end_le
    have hpos := hstands.length_pos
    exact h (word, target) hstands.listed place (by omega) hstands.reads

/-- The rest of a keyword is not the beginning of a keyword, and no keyword begins with another one. -/
theorem eq_of_comparable : ∀ k ∈ keywords, ∀ k' ∈ keywords, ∀ n < k.1.length,
    k.1.drop n <+: k'.1 ∨ k'.1 <+: k.1.drop n → n = 0 ∧ k = k' := by
  decide

/-- Of two keywords in a text the one ends before the other begins, unless they are the same. -/
theorem StandsAt.apart_of_le {text word word' : List Char} {place place' : Nat}
    {target target' : CompletionTarget} (h : StandsAt text place word target)
    (h' : StandsAt text place' word' target') (hle : place ≤ place') :
    place + word.length ≤ place' ∨ place = place' ∧ word = word' ∧ target = target' := by
  rcases Nat.lt_or_ge place' (place + word.length) with hinside | hbehind
  · have hrest : word.drop (place' - place) <+: text.drop place' := by
      have hdrop := h.reads.drop (place' - place)
      rwa [List.drop_drop, Nat.add_sub_cancel' hle] at hdrop
    obtain ⟨hzero, hsame⟩ := eq_of_comparable _ h.listed _ h'.listed (place' - place)
      (by dsimp only; omega) (List.prefix_or_prefix_of_prefix hrest h'.reads)
    obtain ⟨rfl, rfl⟩ := Prod.mk.inj hsame
    exact Or.inr ⟨by omega, rfl, rfl⟩
  · exact Or.inl hbehind

/-- A keyword that begins last also ends last. -/
theorem StandsAt.standsLast_of_starts {text word : List Char} {place : Nat}
    {target : CompletionTarget} (h : StandsAt text place word target)
    (hstarts : ∀ place' word' target', StandsAt text place' word' target' → place' ≤ place) :
    StandsLast text place word target := by
  refine ⟨h, hstarts, fun place' word' target' h' => ?_⟩
  rcases h'.apart_of_le h (hstarts _ _ _ h') with hbefore | ⟨rfl, rfl, -⟩
  · omega
  · exact Nat.le_refl _

/-- A keyword that ends last also begins last. -/
theorem StandsAt.standsLast_of_ends {text word : List Char} {place : Nat}
    {target : CompletionTarget} (h : StandsAt text place word target)
    (hends : ∀ place' word' target', StandsAt text place' word' target' →
      place' + word'.length ≤ place + word.length) :
    StandsLast text place word target := by
  refine ⟨h, fun place' word' target' h' => ?_, hends⟩
  have hend := hends _ _ _ h'
  have hpos := h'.length_pos
  by_contra hlater
  rcases h.apart_of_le h' (by omega) with hbehind | ⟨rfl, -, -⟩ <;> omega

/-- At most one keyword stands last. -/
theorem StandsLast.unique {text word word' : List Char} {place place' : Nat}
    {target target' : CompletionTarget} (h : StandsLast text place word target)
    (h' : StandsLast text place' word' target') :
    place = place' ∧ word = word' ∧ target = target' := by
  have hle := h'.starts _ _ _ h.toStandsAt
  have hend := h.ends _ _ _ h'.toStandsAt
  have hpos := h'.length_pos
  rcases h.toStandsAt.apart_of_le h'.toStandsAt hle with hbehind | hsame
  · omega
  · exact hsame

/-! ## The search -/

/-- The later of two places is one of them, and neither lies behind it. -/
theorem exists_later (best : Option (Nat × CompletionTarget)) (found : Nat × CompletionTarget) :
    ∃ b, later best found = some b ∧ (b = found ∨ best = some b) ∧ found.1 ≤ b.1 ∧
      ∀ a ∈ best, a.1 ≤ b.1 := by
  cases best with
  | none => exact ⟨found, rfl, Or.inl rfl, Nat.le_refl _, fun a ha => by cases ha⟩
  | some b =>
      by_cases hlt : found.1 < b.1
      · exact ⟨b, if_pos hlt, Or.inr rfl, hlt.le, fun a ha => by rw [Option.some.inj ha]⟩
      · refine ⟨found, if_neg hlt, Or.inl rfl, Nat.le_refl _, fun a ha => ?_⟩
        rw [← Option.some.inj ha]
        exact Nat.le_of_not_lt hlt

/-- The latest of several places is one of them, and none lies behind it. -/
theorem exists_foldl_later (best : Nat × CompletionTarget) (found : List (Nat × CompletionTarget)) :
    ∃ b ∈ best :: found, found.foldl later (some best) = some b ∧
      ∀ a ∈ best :: found, a.1 ≤ b.1 := by
  induction found generalizing best with
  | nil => exact ⟨best, List.mem_cons_self, rfl, by simp⟩
  | cons a found ih =>
      obtain ⟨c, hc, hone, hac, hbest⟩ := exists_later (some best) a
      obtain ⟨b, hb, hfold, hmax⟩ := ih c
      have hcb : c.1 ≤ b.1 := hmax c List.mem_cons_self
      refine ⟨b, ?_, ?_, ?_⟩
      · rcases List.mem_cons.1 hb with rfl | hb
        · rcases hone with rfl | hsame
          · exact List.mem_cons_of_mem _ List.mem_cons_self
          · rw [Option.some.inj hsame]
            exact List.mem_cons_self
        · exact List.mem_cons_of_mem _ (List.mem_cons_of_mem _ hb)
      · rw [List.foldl_cons, hc, hfold]
      · intro d hd
        rcases List.mem_cons.1 hd with rfl | hd
        · exact (hbest _ rfl).trans hcb
        · rcases List.mem_cons.1 hd with rfl | hd
          · exact hac.trans hcb
          · exact hmax d (List.mem_cons_of_mem _ hd)

/-- The last places of the keywords that occur. -/
def lastPlaces (text : List Char) : List (Nat × CompletionTarget) :=
  keywords.filterMap fun (word, target) => (lastIndex? word text).map fun i => (i, target)

theorem ofPrefix?_eq (text : List Char) :
    ofPrefix? text = ((lastPlaces text).foldl later none).map Prod.snd :=
  rfl

theorem mem_lastPlaces {text : List Char} {place : Nat} {target : CompletionTarget} :
    (place, target) ∈ lastPlaces text ↔
      ∃ word, (word, target) ∈ keywords ∧ IsLastPlace word text place := by
  rw [lastPlaces, List.mem_filterMap]
  constructor
  · rintro ⟨⟨word, target'⟩, hlisted, hfound⟩
    obtain ⟨i, hi, hpair⟩ := Option.map_eq_some_iff.1 hfound
    obtain ⟨rfl, rfl⟩ := Prod.mk.inj hpair
    exact ⟨word, hlisted, (lastIndex?_eq_some_iff (ne_nil_of_listed hlisted)).1 hi⟩
  · rintro ⟨word, hlisted, hlast⟩
    refine ⟨(word, target), hlisted, ?_⟩
    have hi := (lastIndex?_eq_some_iff (ne_nil_of_listed hlisted)).2 hlast
    exact Option.map_eq_some_iff.2 ⟨place, hi, rfl⟩

/-- A keyword that occurs has a last place. -/
theorem StandsAt.exists_mem_lastPlaces {text word : List Char} {place : Nat}
    {target : CompletionTarget} (h : StandsAt text place word target) :
    ∃ place', place ≤ place' ∧ (place', target) ∈ lastPlaces text := by
  have hne := ne_nil_of_listed h.listed
  cases hlast : lastIndex? word text with
  | none =>
      have hinfix : word <:+: text := h.reads.isInfix.trans (List.drop_suffix place text).isInfix
      exact absurd hinfix ((lastIndex?_eq_none_iff hne).1 hlast)
  | some i =>
      have hi := (lastIndex?_eq_some_iff hne).1 hlast
      exact ⟨i, hi.2 place h.reads, mem_lastPlaces.2 ⟨word, h.listed, hi⟩⟩

/-- Nothing is completed where no keyword stands, and otherwise the keyword that stands last decides. -/
theorem ofPrefix?_cases (text : List Char) :
    (ofPrefix? text = none ∧ ∀ place word target, ¬StandsAt text place word target) ∨
      ∃ place word target, ofPrefix? text = some target ∧ StandsLast text place word target := by
  rw [ofPrefix?_eq]
  cases hplaces : lastPlaces text with
  | nil =>
      refine Or.inl ⟨rfl, fun place word target h => ?_⟩
      obtain ⟨place', -, hmem⟩ := h.exists_mem_lastPlaces
      rw [hplaces] at hmem
      exact absurd hmem List.not_mem_nil
  | cons first places =>
      obtain ⟨⟨place, target⟩, hmem, hfold, hmax⟩ := exists_foldl_later first places
      rw [← hplaces] at hmem hmax
      obtain ⟨word, hlisted, hreads, -⟩ := mem_lastPlaces.1 hmem
      have hstands : StandsAt text place word target := ⟨hlisted, hreads⟩
      refine Or.inr ⟨place, word, target, ?_, ?_⟩
      · rw [List.foldl_cons]
        show Option.map Prod.snd (places.foldl later (some first)) = some target
        rw [hfold, Option.map_some]
      · refine hstands.standsLast_of_starts fun place' word' target' h' => ?_
        obtain ⟨last, hle, hlast⟩ := h'.exists_mem_lastPlaces
        exact hle.trans (hmax _ hlast)


/-- The search answers with the list of the keyword that stands last. -/
theorem ofPrefix?_eq_some_iff {text : List Char} {target : CompletionTarget} :
    ofPrefix? text = some target ↔ ∃ place word, StandsLast text place word target := by
  rcases ofPrefix?_cases text with ⟨hnone, hfree⟩ | ⟨place, word, found, hfound, hlast⟩
  · rw [hnone]
    constructor
    · intro h
      cases h
    · rintro ⟨place, word, hlast⟩
      exact absurd hlast.toStandsAt (hfree place word target)
  · rw [hfound, Option.some.injEq]
    constructor
    · rintro rfl
      exact ⟨place, word, hlast⟩
    · rintro ⟨place', word', hlast'⟩
      exact (hlast.unique hlast').2.2

/-- A keyword occurs just if it stands somewhere. -/
theorem exists_standsAt_iff {text : List Char} :
    (∃ place word target, StandsAt text place word target) ↔
      ∃ word ∈ keywords.map Prod.fst, word <:+: text := by
  constructor
  · rintro ⟨place, word, target, hlisted, hreads⟩
    exact ⟨word, List.mem_map_of_mem hlisted,
      hreads.isInfix.trans (List.drop_suffix place text).isInfix⟩
  · rintro ⟨word, hmem, before, after, rfl⟩
    obtain ⟨⟨word, target⟩, hlisted, rfl⟩ := List.mem_map.1 hmem
    refine ⟨before.length, word, target, hlisted, after, ?_⟩
    rw [List.append_assoc, List.drop_left]

theorem ofPrefix?_eq_none_iff {text : List Char} :
    ofPrefix? text = none ↔ ∀ word ∈ keywords.map Prod.fst, ¬word <:+: text := by
  rcases ofPrefix?_cases text with ⟨hnone, hfree⟩ | ⟨place, word, found, hfound, hlast⟩
  · refine iff_of_true hnone fun word hmem hinfix => ?_
    obtain ⟨place, word', target, h⟩ := exists_standsAt_iff.2 ⟨word, hmem, hinfix⟩
    exact hfree place word' target h
  · rw [hfound]
    refine iff_of_false (fun h => by cases h) fun hfree => ?_
    obtain ⟨word', hmem, hinfix⟩ := exists_standsAt_iff.1 ⟨place, word, found, hlast.toStandsAt⟩
    exact hfree word' hmem hinfix

/-! ## Typing on -/

/-- A keyword that ends within the first part of a text stands in this part. -/
theorem standsAt_append_iff {text more word : List Char} {place : Nat} {target : CompletionTarget} :
    StandsAt (text ++ more) place word target ∧ place + word.length ≤ text.length ↔
      StandsAt text place word target := by
  constructor
  · rintro ⟨⟨hlisted, hreads⟩, hinside⟩
    rw [List.drop_append_of_le_length (by omega)] at hreads
    refine ⟨hlisted, List.prefix_of_prefix_length_le hreads (List.prefix_append _ _) ?_⟩
    rw [List.length_drop]
    omega
  · rintro ⟨hlisted, hreads⟩
    have hend := StandsAt.end_le ⟨hlisted, hreads⟩
    refine ⟨⟨hlisted, ?_⟩, hend⟩
    rw [List.drop_append_of_le_length (by omega)]
    exact hreads.trans (List.prefix_append _ _)

/-- Text behind which no further keyword ends leaves the keywords as they are. -/
theorem ofPrefix?_append_of_inside {text more : List Char}
    (hinside : ∀ place word target, StandsAt (text ++ more) place word target →
      place + word.length ≤ text.length) :
    ofPrefix? (text ++ more) = ofPrefix? text := by
  have hsame (place : Nat) (word : List Char) (target : CompletionTarget) :
      StandsAt (text ++ more) place word target ↔ StandsAt text place word target := by
    rw [← @standsAt_append_iff text more]
    exact ⟨fun h => ⟨h, hinside _ _ _ h⟩, And.left⟩
  have hlast (place : Nat) (word : List Char) (target : CompletionTarget) :
      StandsLast (text ++ more) place word target ↔ StandsLast text place word target := by
    simp only [standsLast_iff, hsame]
  refine Option.ext fun target => ?_
  rw [ofPrefix?_eq_some_iff, ofPrefix?_eq_some_iff]
  simp only [hlast]

/-- **The keyword that stands last decides what is completed.**  Nothing is completed just if no
keyword occurs; otherwise it is the list of the keyword that both begins last and ends last, and
there is one such keyword at most.  Typing on without ending a further keyword keeps the answer, and
of the keywords that typing on ends the last one turns to its list. -/
theorem ofPrefix?_follows_last (text : List Char) :
    (ofPrefix? text = none ↔ ∀ word ∈ keywords.map Prod.fst, ¬word <:+: text) ∧
    (∀ target, ofPrefix? text = some target ↔ ∃ place word, StandsLast text place word target) ∧
    (∀ place place' word word' target target', StandsLast text place word target →
      StandsLast text place' word' target' → place = place' ∧ word = word' ∧ target = target') ∧
    (∀ more, (∀ place word target, StandsAt (text ++ more) place word target →
        place + word.length ≤ text.length) →
      ofPrefix? (text ++ more) = ofPrefix? text) ∧
    ∀ more place word target, StandsAt (text ++ more) place word target →
      text.length < place + word.length →
      (∀ place' word' target', StandsAt (text ++ more) place' word' target' →
        text.length < place' + word'.length → place' + word'.length ≤ place + word.length) →
      ofPrefix? (text ++ more) = some target := by
  refine ⟨ofPrefix?_eq_none_iff, fun target => ofPrefix?_eq_some_iff, ?_, ?_, ?_⟩
  · intro place place' word word' target target' h h'
    exact h.unique h'
  · intro more hinside
    exact ofPrefix?_append_of_inside hinside
  · intro more place word target h hfurther hends
    refine ofPrefix?_eq_some_iff.2 ⟨place, word, h.standsLast_of_ends fun place' word' target' h' => ?_⟩
    rcases Nat.lt_or_ge text.length (place' + word'.length) with hbeyond | hinside
    · exact hends place' word' target' h' hbeyond
    · omega

/-- Behind the tags the answer stays while `ref` is typed, and turns with the bracket. -/
theorem ofPrefix?_follows_last_sample :
    ofPrefix? ("tags: [1], ".toList ++ "ref".toList) = some tags ∧
    ofPrefix? ("tags: [1], re".toList ++ "f(1".toList) = some dependencies :=
  ⟨((ofPrefix?_follows_last "tags: [1], ".toList).2.2.2.1 "ref".toList
      (forall_standsAt_iff.2 (by decide))).trans (by decide),
    (ofPrefix?_follows_last "tags: [1], re".toList).2.2.2.2 "f(1".toList 11 "ref(".toList dependencies
      ⟨by decide, by decide⟩ (by decide) (forall_standsAt_iff.2 (by decide))⟩

end SqlxDryRun.Editor.CompletionTarget
