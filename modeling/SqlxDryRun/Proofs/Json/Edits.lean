import Mathlib.Data.List.Basic
import Mathlib.Data.List.Pairwise
import Mathlib.Data.List.Perm.Basic
import Mathlib.Logic.Relation
import SqlxDryRun.Json.Decoder

/-!
# Edits of records

The object of a record may be written in many ways.  `RecordEdit` lists the changes that leave the
record alone: another order of the fields, fields of other versions, fields with their default left
out or written after all, and changes within a field.  They are told from the written form of the
default record alone, without a look at any decoder.

A decoder is indifferent to a kind of edits if it keeps what it gives (`Keeps`).  For the decoder
of a record this follows from a few facts about its layout (`Layout.Lawful`), by `Keeps.record`:
the order of the fields does not matter, so each edit can be looked at as if it stood at the head of
the object.
-/

namespace SqlxDryRun.Json

/-! ## Whole values -/

mutual

/-- Whether a value is free of breaks, as those of well-formed texts are. -/
def Value.isWhole : Value → Bool
  | .array items => items.isWhole
  | .object fields => fields.isWhole
  | .broken _ => false
  | _ => true

/-- Whether items are free of breaks. -/
def Items.isWhole : Items → Bool
  | .closed => true
  | .broken _ => false
  | .more item rest => item.isWhole && rest.isWhole

/-- Whether fields are free of breaks. -/
def Fields.isWhole : Fields → Bool
  | .closed => true
  | .broken _ => false
  | .more _ value rest => value.isWhole && rest.isWhole

end

mutual

/-- A whole value can be skipped. -/
theorem Value.skip_of_isWhole : ∀ {v : Value}, v.isWhole = true → v.skip = .ok ()
  | .array items, h => by
      rw [Value.isWhole] at h
      rw [Value.skip, Items.skip_of_isWhole h]
  | .object fields, h => by
      rw [Value.isWhole] at h
      rw [Value.skip, Fields.skip_of_isWhole h]
  | .null, _ | .bool _, _ | .number _, _ | .string _, _ | .unpaired, _ => rfl

theorem Items.skip_of_isWhole : ∀ {items : Items}, items.isWhole = true → items.skip = .ok ()
  | .closed, _ => rfl
  | .more item rest, h => by
      rw [Items.isWhole, Bool.and_eq_true] at h
      rw [Items.skip, Value.skip_of_isWhole h.1]
      exact Items.skip_of_isWhole h.2

theorem Fields.skip_of_isWhole : ∀ {fields : Fields}, fields.isWhole = true → fields.skip = .ok ()
  | .closed, _ => rfl
  | .more _ value rest, h => by
      rw [Fields.isWhole, Bool.and_eq_true] at h
      rw [Fields.skip, Value.skip_of_isWhole h.1]
      exact Fields.skip_of_isWhole h.2

end

/-! ## Edits -/

/-- An edit of an array: one of its items is edited. -/
inductive ListEdit (Item : Value → Value → Prop) : Value → Value → Prop
  | item (as bs : List Value) {v w : Value} (h : Item v w) :
      ListEdit Item (.ofItems (as ++ v :: bs)) (.ofItems (as ++ w :: bs))

/-- An edit of the object of a record.  `blank` is the written form of the record in which every
field has its default, and so lists all keys that the record knows; `Part` says how the values of
its fields may be edited. -/
inductive RecordEdit (blank : Value) (Part : String → Value → Value → Prop) : Value → Value → Prop
  /-- The fields are put into another order. -/
  | reordered {fs gs : List (String × Value)} (h : fs.Perm gs) :
      RecordEdit blank Part (.ofFields fs) (.ofFields gs)
  /-- A field that the record does not know is put in. -/
  | inserted (as bs : List (String × Value)) {key : String} {v : Value}
      (hkey : blank.field? key = none) (hv : v.isWhole = true) :
      RecordEdit blank Part (.ofFields (as ++ bs)) (.ofFields (as ++ (key, v) :: bs))
  /-- A field that has its default is left out. -/
  | omitted (as bs : List (String × Value)) {key : String} {v : Value}
      (hv : blank.field? key = some v) :
      RecordEdit blank Part (.ofFields (as ++ (key, v) :: bs)) (.ofFields (as ++ bs))
  /-- A field that was left out is written with its default. -/
  | written (as bs : List (String × Value)) {key : String} {v : Value}
      (hkey : key ∉ (as ++ bs).map Prod.fst) (hv : blank.field? key = some v) :
      RecordEdit blank Part (.ofFields (as ++ bs)) (.ofFields (as ++ (key, v) :: bs))
  /-- The value of a field is edited. -/
  | inside (as bs : List (String × Value)) {key : String} {v w : Value} (h : Part key v w) :
      RecordEdit blank Part (.ofFields (as ++ (key, v) :: bs)) (.ofFields (as ++ (key, w) :: bs))

/-- The entries of some fields, in order. -/
def Fields.entries : Fields → List (String × Value)
  | .more (some key) v rest => (key, v) :: rest.entries
  | .more none _ rest => rest.entries
  | _ => []

/-- The entries of an object, in order. -/
def Value.entries : Value → List (String × Value)
  | .object fields => fields.entries
  | _ => []

theorem Value.entries_ofFields (kvs : List (String × Value)) :
    (Value.ofFields kvs).entries = kvs := by
  change (Fields.ofList kvs).entries = kvs
  induction kvs with
  | nil => rfl
  | cons kv kvs ih => rw [Fields.ofList, Fields.entries, ih]

theorem Value.field?_eq_find? (key : String) (v : Value) :
    v.field? key = (v.entries.find? fun kv => kv.1 == key).map Prod.snd := by
  cases v with
  | object fields =>
      change Value.field?.look key fields = (fields.entries.find? _).map _
      fun_induction Fields.entries fields with
      | case1 k v rest ih =>
        rw [Value.field?.look, List.find?_cons]
        by_cases hkey : k = key
        · simp [hkey]
        · rw [beq_false_of_ne hkey, ← ih]
          simp [hkey]
      | case2 v rest ih =>
        rw [Value.field?.look, ← ih]
        rfl
      | case3 fields hsome hnone =>
        cases fields with
        | more k v rest => cases k <;> simp_all
        | _ => rfl
  | _ => rfl

/-- A decoder keeps what it gives when a value is edited. -/
def Keeps {α : Type} (decode : Decoder α) (Edit : Value → Value → Prop) : Prop :=
  ∀ ⦃v w : Value⦄, Edit v w → ∀ ⦃a : α⦄, decode v = .ok a → decode w = .ok a

/-- A decoder that keeps what it gives under one edit keeps it under any number of them. -/
theorem Keeps.star {α : Type} {decode : Decoder α} {Edit : Value → Value → Prop}
    (h : Keeps decode Edit) : Keeps decode (Relation.ReflTransGen Edit) := by
  intro v w hedits a hv
  induction hedits with
  | refl => exact hv
  | tail _ hedit ih => exact h hedit ih

theorem map_eq_ok {α β : Type} {x : Decoded α} {f : α → β} {b : β} :
    x.map f = .ok b ↔ ∃ a, x = .ok a ∧ f a = b := by
  cases x with
  | error p => simp [Except.map]
  | ok a => simp [Except.map]

/-! ## Lists -/

theorem items_ofList_cons_eq_ok {α : Type} {decode : Decoder α} {v : Value} {vs : List Value}
    {as : List α} :
    items decode (.ofList (v :: vs)) = .ok as ↔
      ∃ a rest, decode v = .ok a ∧ items decode (.ofList vs) = .ok rest ∧ as = a :: rest := by
  rw [Items.ofList, items]
  cases decode v with
  | error p => simp [bind, Except.bind]
  | ok a =>
      cases items decode (.ofList vs) with
      | error p => simp [bind, Except.bind]
      | ok rest => simp [bind, Except.bind, eq_comm]

theorem Keeps.list {α : Type} {decode : Decoder α} {Item : Value → Value → Prop}
    (h : Keeps decode Item) : Keeps (Json.list decode) (ListEdit Item) := by
  rintro _ _ ⟨before, after, hitem⟩ as hv
  change items decode (.ofList _) = .ok as at hv ⊢
  induction before generalizing as with
  | nil =>
      rw [List.nil_append] at hv ⊢
      obtain ⟨a, rest, ha, hrest, rfl⟩ := items_ofList_cons_eq_ok.1 hv
      exact items_ofList_cons_eq_ok.2 ⟨a, rest, h hitem ha, hrest, rfl⟩
  | cons x before ih =>
      obtain ⟨a, rest, ha, hrest, rfl⟩ := items_ofList_cons_eq_ok.1 hv
      exact items_ofList_cons_eq_ok.2 ⟨a, rest, ha, ih hrest, rfl⟩

theorem list_ofItems_map {α : Type} {decode : Decoder α} {write : α → Value}
    (h : ∀ a, decode (write a) = .ok a) (as : List α) :
    Json.list decode (.ofItems (as.map write)) = .ok as := by
  change items decode (.ofList _) = .ok as
  induction as with
  | nil => rfl
  | cons a as ih => exact items_ofList_cons_eq_ok.2 ⟨a, as, h a, ih, rfl⟩

/-! ## Records -/

section Layout

variable {σ : Type} {layout : Layout σ}

theorem decode_ofFields (kvs : List (String × Value)) :
    layout.decode (.ofFields kvs) = layout.applyFields layout.default [] (.ofList kvs) := rfl

section Cons

variable {record a : σ} {seen : List String} {key : String} {v : Value}
  {fs : List (String × Value)}

/-- A field that is not known is skipped. -/
theorem applyFields_unknown (hf : layout.field? key = none) :
    layout.applyFields record seen (.ofList ((key, v) :: fs)) = .ok a ↔
      v.skip = .ok () ∧ layout.applyFields record seen (.ofList fs) = .ok a := by
  rw [Fields.ofList, Layout.applyFields, hf]
  cases v.skip with
  | error p => simp [bind, Except.bind]
  | ok u => simp [bind, Except.bind]

/-- A field that is known is applied, unless it was there before. -/
theorem applyFields_known {f : RecordField σ} (hf : layout.field? key = some f) :
    layout.applyFields record seen (.ofList ((key, v) :: fs)) = .ok a ↔
      key ∉ seen ∧ ∃ next, f.set record v = .ok next ∧
        layout.applyFields next (key :: seen) (.ofList fs) = .ok a := by
  rw [Fields.ofList, Layout.applyFields, hf]
  by_cases hseen : key ∈ seen
  · simp [hseen]
  · cases hset : f.set record v with
    | error p => simp [hseen, bind, Except.bind, hset]
    | ok next => simp [hseen, bind, Except.bind, hset]

/-- A known field whose value can be decoded. -/
theorem applyFields_optional {α : Type} {decode : Decoder α} {set : σ → α → σ} {x : α}
    (hf : layout.field? key = some (.optional key decode set)) (hnew : key ∉ seen)
    (hv : decode v = .ok x)
    (h : layout.applyFields (set record x) (key :: seen) (.ofList fs) = .ok a) :
    layout.applyFields record seen (.ofList ((key, v) :: fs)) = .ok a :=
  (applyFields_known hf).2 ⟨hnew, set record x, map_eq_ok.2 ⟨x, hv, rfl⟩, h⟩

end Cons

/-- Two fields can be applied in either order. -/
def RecordField.Commutes (f g : RecordField σ) : Prop :=
  ∀ r r₁ r₂ v w, f.set r v = .ok r₁ → g.set r₁ w = .ok r₂ →
    ∃ r₃, g.set r w = .ok r₃ ∧ f.set r₃ v = .ok r₂

/-- What makes the decoder of a record indifferent to the edits of its objects; `blank` is the
written form of the default. -/
structure Layout.Lawful (layout : Layout σ) (blank : Value)
    (Part : String → Value → Value → Prop) : Prop where
  /-- The record knows just the keys of its default. -/
  known : layout.fields.map RecordField.key = blank.entries.map Prod.fst
  /-- Every field may be left out. -/
  optional : ∀ f ∈ layout.fields, f.required = false
  /-- The order of the fields does not matter. -/
  commute : layout.fields.Pairwise fun f g => f.Commutes g ∧ g.Commutes f
  /-- The default of a field changes nothing. -/
  default_set : ∀ kv ∈ blank.entries, ∃ f, layout.field? kv.1 = some f ∧
    f.set layout.default kv.2 = .ok layout.default
  /-- The fields are indifferent to the edits of their values. -/
  inside : ∀ ⦃key v w⦄, Part key v w → ∃ f, layout.field? key = some f ∧
    ∀ ⦃r a⦄, f.set r v = .ok a → f.set r w = .ok a

/-! Fields that are decoded and then put into the record. -/

theorem RecordField.commutes_optional {α β : Type} {key key' : String} {decode : Decoder α}
    {decode' : Decoder β} {set : σ → α → σ} {set' : σ → β → σ}
    (h : ∀ r a b, set' (set r a) b = set (set' r b) a) :
    (RecordField.optional key decode set).Commutes (.optional key' decode' set') := by
  intro r r₁ r₂ v w hv hw
  obtain ⟨a, ha, rfl⟩ := map_eq_ok.1 hv
  obtain ⟨b, hb, rfl⟩ := map_eq_ok.1 hw
  exact ⟨set' r b, map_eq_ok.2 ⟨b, hb, rfl⟩, map_eq_ok.2 ⟨a, ha, (h r a b).symm⟩⟩

theorem RecordField.keeps_optional {α : Type} {key : String} {decode : Decoder α}
    {set : σ → α → σ} {Edit : Value → Value → Prop} (hkeep : Keeps decode Edit) {v w : Value}
    (h : Edit v w) ⦃r a : σ⦄ (hv : (RecordField.optional key decode set).set r v = .ok a) :
    (RecordField.optional key decode set).set r w = .ok a := by
  obtain ⟨x, hx, rfl⟩ := map_eq_ok.1 hv
  exact map_eq_ok.2 ⟨x, hkeep h hx, rfl⟩

/-- Only the keys that are still to come matter among those that came before, and the fewer of them,
the better. -/
theorem applyFields_seen (hopt : ∀ f ∈ layout.fields, f.required = false) {record a : σ}
    {seen seen' : List String} {fs : List (String × Value)}
    (hsub : ∀ key ∈ fs.map Prod.fst, key ∈ seen' → key ∈ seen)
    (h : layout.applyFields record seen (.ofList fs) = .ok a) :
    layout.applyFields record seen' (.ofList fs) = .ok a := by
  induction fs generalizing record seen seen' with
  | nil =>
      have hall : ∀ s : List String,
          (layout.fields.all fun f => !f.required || s.contains f.key) = true := fun s =>
        List.all_eq_true.2 fun f hf => by rw [hopt f hf]; rfl
      rw [Fields.ofList, Layout.applyFields, if_pos (hall _)] at h ⊢
      exact h
  | cons kv fs ih =>
      obtain ⟨key, v⟩ := kv
      have hfs : ∀ k ∈ fs.map Prod.fst, k ∈ seen' → k ∈ seen :=
        fun k hk => hsub k (List.mem_cons_of_mem _ hk)
      cases hf : layout.field? key with
      | none =>
          obtain ⟨hskip, h⟩ := (applyFields_unknown hf).1 h
          exact (applyFields_unknown hf).2 ⟨hskip, ih hfs h⟩
      | some f =>
          obtain ⟨hnew, next, hset, h⟩ := (applyFields_known hf).1 h
          refine (applyFields_known hf).2 ⟨?_, next, hset, ih ?_ h⟩
          · exact fun hmem => hnew (hsub key (List.mem_cons_self ..) hmem)
          · intro k hk hmem
            rcases List.mem_cons.1 hmem with rfl | hmem
            · exact List.mem_cons_self ..
            · exact List.mem_cons_of_mem _ (hfs k hk hmem)

namespace Layout.Lawful

variable {blank : Value} {Part : String → Value → Value → Prop}

theorem commutes (hlaw : layout.Lawful blank Part) {key key' : String} {f g : RecordField σ}
    (hf : layout.field? key = some f) (hg : layout.field? key' = some g) (hne : key ≠ key') :
    f.Commutes g := by
  have hall : ∀ ⦃f⦄, f ∈ layout.fields → ∀ ⦃g⦄, g ∈ layout.fields → f.key ≠ g.key →
      f.Commutes g :=
    List.Pairwise.forall_of_forall_of_flip (fun _ _ hself => absurd rfl hself)
      (hlaw.commute.imp fun h _ => h.1) (hlaw.commute.imp fun h _ => h.2)
  have hfkey : f.key = key := by simpa using List.find?_some hf
  have hgkey : g.key = key' := by simpa using List.find?_some hg
  exact hall (List.mem_of_find?_eq_some hf) (List.mem_of_find?_eq_some hg)
    (by rwa [hfkey, hgkey])

theorem field?_of_unknown (hlaw : layout.Lawful blank Part) {key : String}
    (h : blank.field? key = none) : layout.field? key = none := by
  rw [Value.field?_eq_find?, Option.map_eq_none_iff, List.find?_eq_none] at h
  refine List.find?_eq_none.2 fun f hf hkey => ?_
  have hmem : f.key ∈ blank.entries.map Prod.fst := hlaw.known ▸ List.mem_map_of_mem hf
  obtain ⟨kv, hkv, heq⟩ := List.mem_map.1 hmem
  exact h kv hkv (by rwa [heq])

theorem field?_of_default (hlaw : layout.Lawful blank Part) {key : String} {v : Value}
    (h : blank.field? key = some v) :
    ∃ f, layout.field? key = some f ∧ f.set layout.default v = .ok layout.default := by
  rw [Value.field?_eq_find?, Option.map_eq_some_iff] at h
  obtain ⟨kv, hkv, rfl⟩ := h
  have hkey : kv.1 = key := by simpa using List.find?_some hkv
  exact hkey ▸ hlaw.default_set kv (List.mem_of_find?_eq_some hkv)

/-- **Order does not matter.** -/
theorem applyFields_perm (hlaw : layout.Lawful blank Part) {fs gs : List (String × Value)}
    (hperm : fs.Perm gs) {record a : σ} {seen : List String}
    (h : layout.applyFields record seen (.ofList fs) = .ok a) :
    layout.applyFields record seen (.ofList gs) = .ok a := by
  induction hperm generalizing record seen with
  | nil => exact h
  | cons kv _ ih =>
      cases hf : layout.field? kv.1 with
      | none =>
          obtain ⟨hskip, h⟩ := (applyFields_unknown hf).1 h
          exact (applyFields_unknown hf).2 ⟨hskip, ih h⟩
      | some f =>
          obtain ⟨hnew, next, hset, h⟩ := (applyFields_known hf).1 h
          exact (applyFields_known hf).2 ⟨hnew, next, hset, ih h⟩
  | swap x y fs =>
      obtain ⟨k₁, v⟩ := y
      obtain ⟨k₂, w⟩ := x
      cases hf : layout.field? k₁ with
      | none =>
          -- The first field is skipped, and so it is behind the second one.
          obtain ⟨hskip, h⟩ := (applyFields_unknown hf).1 h
          cases hg : layout.field? k₂ with
          | none =>
              obtain ⟨hskip', h⟩ := (applyFields_unknown hg).1 h
              exact (applyFields_unknown hg).2 ⟨hskip', (applyFields_unknown hf).2 ⟨hskip, h⟩⟩
          | some g =>
              obtain ⟨hnew', r₂, hset', h⟩ := (applyFields_known hg).1 h
              exact (applyFields_known hg).2
                ⟨hnew', r₂, hset', (applyFields_unknown hf).2 ⟨hskip, h⟩⟩
      | some f =>
          obtain ⟨hnew, r₁, hset, h⟩ := (applyFields_known hf).1 h
          cases hg : layout.field? k₂ with
          | none =>
              obtain ⟨hskip', h⟩ := (applyFields_unknown hg).1 h
              exact (applyFields_unknown hg).2
                ⟨hskip', (applyFields_known hf).2 ⟨hnew, r₁, hset, h⟩⟩
          | some g =>
              -- Both are applied, so their keys differ.
              obtain ⟨hnew', r₂, hset', h⟩ := (applyFields_known hg).1 h
              rw [List.mem_cons, not_or] at hnew'
              have hne : k₁ ≠ k₂ := fun heq => hnew'.1 heq.symm
              obtain ⟨r₃, hg_set, hf_set⟩ :=
                hlaw.commutes hf hg hne record r₁ r₂ v w hset hset'
              have hlast : layout.applyFields r₂ (k₁ :: k₂ :: seen) (.ofList fs) = .ok a :=
                applyFields_seen hlaw.optional
                  (fun k _ hk => (List.Perm.swap k₂ k₁ seen).mem_iff.1 hk) h
              have hnew₁ : k₁ ∉ k₂ :: seen := by
                rw [List.mem_cons, not_or]
                exact ⟨hne, hnew⟩
              exact (applyFields_known hg).2
                ⟨hnew'.2, r₃, hg_set, (applyFields_known hf).2 ⟨hnew₁, r₂, hf_set, hlast⟩⟩
  | trans _ _ ih₁ ih₂ => exact ih₂ (ih₁ h)

end Layout.Lawful

/-- **A lawful record keeps its data under every edit of its objects.** -/
theorem Keeps.record {blank : Value} {Part : String → Value → Value → Prop}
    (hlaw : layout.Lawful blank Part) : Keeps layout.decode (RecordEdit blank Part) := by
  intro v w hedit a h
  cases hedit with
  | @reordered fs gs hperm => exact hlaw.applyFields_perm hperm h
  | @inserted as bs key v hkey hv =>
      refine hlaw.applyFields_perm List.perm_middle.symm ?_
      exact (applyFields_unknown (hlaw.field?_of_unknown hkey)).2 ⟨Value.skip_of_isWhole hv, h⟩
  | @omitted as bs key v hv =>
      obtain ⟨f, hf, hset⟩ := hlaw.field?_of_default hv
      obtain ⟨-, next, hnext, h⟩ :=
        (applyFields_known hf).1 (hlaw.applyFields_perm List.perm_middle h)
      obtain rfl : layout.default = next := Except.ok.inj (hset.symm.trans hnext)
      exact applyFields_seen hlaw.optional (fun _ _ hk => absurd hk List.not_mem_nil) h
  | @written as bs key v hkey hv =>
      obtain ⟨f, hf, hset⟩ := hlaw.field?_of_default hv
      refine hlaw.applyFields_perm List.perm_middle.symm ?_
      refine (applyFields_known hf).2 ⟨List.not_mem_nil, layout.default, hset, ?_⟩
      refine applyFields_seen hlaw.optional (fun k hk hmem => ?_) h
      obtain rfl : k = key := List.mem_singleton.1 hmem
      exact absurd hk hkey
  | @inside as bs key v w hpart =>
      obtain ⟨f, hf, hkeep⟩ := hlaw.inside hpart
      obtain ⟨hnew, next, hnext, h⟩ :=
        (applyFields_known hf).1 (hlaw.applyFields_perm List.perm_middle h)
      refine hlaw.applyFields_perm List.perm_middle.symm ?_
      exact (applyFields_known hf).2 ⟨hnew, next, hkeep hnext, h⟩

end Layout

end SqlxDryRun.Json
