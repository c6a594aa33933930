import SqlxDryRun.Proofs.Json.Parts

/-!
# Which objects a record is read from

A record is read from the fields of an object just if each of them can be used, no key of the record
stands there twice, and no needed key is missing: `own_of_applyFields` and `exists_applyFields` are
the two directions.  What the record then holds is told key by key (`decode_of_mem`).
-/

namespace SqlxDryRun.Json

section Layout

variable {σ α : Type} {layout : Layout σ}

/-! ## The fields of a record -/

/-- The fields of an object whose keys a record knows. -/
def Layout.own (layout : Layout σ) (kvs : List (String × Value)) : List (String × Value) :=
  kvs.filter fun kv => kv.1 ∈ layout.fields.map RecordField.key

theorem Layout.field?_eq_none_iff {key : String} :
    layout.field? key = none ↔ key ∉ layout.fields.map RecordField.key := by
  simp [field?]

theorem Layout.mem_keys_of_field? {key : String} {f : RecordField σ}
    (h : layout.field? key = some f) : key ∈ layout.fields.map RecordField.key := by
  obtain ⟨hmem, rfl⟩ := key_of_field? h
  exact List.mem_map_of_mem hmem

theorem Layout.own_cons_unknown {kv : String × Value} {kvs : List (String × Value)}
    (h : layout.field? kv.1 = none) : layout.own (kv :: kvs) = layout.own kvs :=
  List.filter_cons_of_neg (by simpa using field?_eq_none_iff.1 h)

theorem Layout.own_cons_known {kv : String × Value} {kvs : List (String × Value)}
    {f : RecordField σ} (h : layout.field? kv.1 = some f) :
    layout.own (kv :: kvs) = kv :: layout.own kvs :=
  List.filter_cons_of_pos (by simpa using mem_keys_of_field? h)

theorem Layout.mem_own {kv : String × Value} {kvs : List (String × Value)} :
    kv ∈ layout.own kvs ↔ kv ∈ kvs ∧ kv.1 ∈ layout.fields.map RecordField.key := by
  rw [own, List.mem_filter, decide_eq_true_iff]

/-! ## From a record to its object -/

/-- Fields that can be applied have been written without a break. -/
theorem eq_ofList_of_applyFields {record a : σ} {seen : List String} {fields : Fields}
    (h : layout.applyFields record seen fields = .ok a) : fields = .ofList fields.entries := by
  fun_induction layout.applyFields record seen fields with
  | case1 => rfl
  | case2 | case3 | case4 | case6 => cases h
  | case5 record seen key value rest hf ih =>
      obtain ⟨-, -, h⟩ := bind_eq_ok.1 h
      rw [Fields.entries, Fields.ofList, ← ih h]
  | case7 record seen key value rest f hf hseen ih =>
      obtain ⟨next, -, h⟩ := bind_eq_ok.1 h
      rw [Fields.entries, Fields.ofList, ← ih next h]

/-- No key of the record stands there twice, and no needed one is missing. -/
theorem own_of_applyFields {record a : σ} {seen : List String} {kvs : List (String × Value)}
    (h : layout.applyFields record seen (.ofList kvs) = .ok a) :
    ((layout.own kvs).map Prod.fst).Nodup ∧ (∀ kv ∈ layout.own kvs, kv.1 ∉ seen) ∧
      ∀ f ∈ layout.fields, f.required = true → f.key ∈ seen ∨ f.key ∈ kvs.map Prod.fst := by
  induction kvs generalizing record seen with
  | nil =>
      refine ⟨List.nodup_nil, (fun kv hkv => nomatch hkv), fun f hf hrequired => Or.inl ?_⟩
      rw [Fields.ofList, Layout.applyFields] at h
      split at h
      · rename_i hall
        have hkey := List.all_eq_true.1 hall f hf
        rw [hrequired] at hkey
        simpa using hkey
      · cases h
  | cons kv kvs ih =>
      obtain ⟨key, v⟩ := kv
      rw [List.map_cons]
      cases hf : layout.field? key with
      | none =>
          obtain ⟨hnodup, hnew, hneeded⟩ := ih ((applyFields_unknown hf).1 h).2
          rw [Layout.own_cons_unknown hf]
          refine ⟨hnodup, hnew, fun g hg hrequired => ?_⟩
          exact (hneeded g hg hrequired).imp_right (List.mem_cons_of_mem _)
      | some f =>
          obtain ⟨hkey, next, -, h⟩ := (applyFields_known hf).1 h
          obtain ⟨hnodup, hnew, hneeded⟩ := ih h
          rw [Layout.own_cons_known hf, List.map_cons]
          refine ⟨List.nodup_cons.2 ⟨fun hmem => ?_, hnodup⟩, ?_, fun g hg hrequired => ?_⟩
          · obtain ⟨kv, hkv, heq⟩ := List.mem_map.1 hmem
            exact hnew kv hkv (heq ▸ List.mem_cons_self ..)
          · rintro kv (_ | ⟨_, hkv⟩)
            · exact hkey
            · exact fun hseen => hnew kv hkv (List.mem_cons_of_mem _ hseen)
          · rcases hneeded g hg hrequired with hseen | hmem
            · rcases List.mem_cons.1 hseen with heq | hseen
              · exact Or.inr (heq ▸ List.mem_cons_self ..)
              · exact Or.inl hseen
            · exact Or.inr (List.mem_cons_of_mem _ hmem)

/-- A part of the record is read from each value that stands at its key. -/
theorem decode_of_mem {key : String} {decode : Decoder α} {part : σ → α}
    (hsets : layout.Sets key decode part) {record a : σ} {seen : List String}
    {kvs : List (String × Value)} (h : layout.applyFields record seen (.ofList kvs) = .ok a)
    {v : Value} (hv : (key, v) ∈ kvs) : decode v = .ok (part a) := by
  induction kvs generalizing record seen with
  | nil => cases hv
  | cons kv kvs ih =>
      obtain ⟨key', w⟩ := kv
      cases hf : layout.field? key' with
      | none =>
          rcases List.mem_cons.1 hv with heq | hv
          · obtain ⟨rfl, rfl⟩ := Prod.mk.inj heq
            obtain ⟨set, hown, -⟩ := hsets.own
            rw [hown] at hf
            cases hf
          · exact ih ((applyFields_unknown hf).1 h).2 hv
      | some f =>
          obtain ⟨-, next, hset, h⟩ := (applyFields_known hf).1 h
          rcases List.mem_cons.1 hv with heq | hv
          · obtain ⟨rfl, rfl⟩ := Prod.mk.inj heq
            obtain ⟨set, hown, hread⟩ := hsets.own
            obtain rfl := Option.some.inj (hf.symm.trans hown)
            obtain ⟨x, hx, rfl⟩ := map_eq_ok.1 hset
            rw [(applyFields_part hsets h).1 (List.mem_cons_self ..), hread]
            exact hx
          · exact ih h hv

/-! ## From an object to its record -/

/-- The value of a field can be used: it can be applied to any record, or skipped, if the record
does not know the key. -/
def Layout.Takes (layout : Layout σ) (kv : String × Value) : Prop :=
  match layout.field? kv.1 with
  | none => kv.2.skip = .ok ()
  | some f => ∀ record, ∃ next, f.set record kv.2 = .ok next

/-- An object whose fields can be used gives a record, if no key of the record stands there twice
and no needed one is missing. -/
theorem exists_applyFields (record : σ) {seen : List String} {kvs : List (String × Value)}
    (htakes : ∀ kv ∈ kvs, layout.Takes kv) (hnodup : ((layout.own kvs).map Prod.fst).Nodup)
    (hnew : ∀ kv ∈ layout.own kvs, kv.1 ∉ seen)
    (hneeded : ∀ f ∈ layout.fields, f.required = true → f.key ∈ seen ∨ f.key ∈ kvs.map Prod.fst) :
    ∃ a, layout.applyFields record seen (.ofList kvs) = .ok a := by
  induction kvs generalizing record seen with
  | nil =>
      refine ⟨record, ?_⟩
      rw [Fields.ofList, Layout.applyFields, if_pos]
      refine List.all_eq_true.2 fun f hf => ?_
      cases hrequired : f.required with
      | false => rfl
      | true =>
          rcases hneeded f hf hrequired with hseen | hmem
          · simpa using hseen
          · cases hmem
  | cons kv kvs ih =>
      obtain ⟨key, v⟩ := kv
      have hmore : ∀ kv ∈ kvs, layout.Takes kv := fun kv hkv =>
        htakes kv (List.mem_cons_of_mem _ hkv)
      have hhead := htakes (key, v) (List.mem_cons_self ..)
      rw [Layout.Takes] at hhead
      cases hf : layout.field? key with
      | none =>
          simp only [hf] at hhead
          rw [Layout.own_cons_unknown hf] at hnodup hnew
          have hneeded' : ∀ g ∈ layout.fields, g.required = true →
              g.key ∈ seen ∨ g.key ∈ kvs.map Prod.fst := by
            intro g hg hrequired
            refine (hneeded g hg hrequired).imp_right fun hmem => ?_
            rcases List.mem_cons.1 hmem with rfl | hmem
            · exact absurd (List.mem_map_of_mem hg) (Layout.field?_eq_none_iff.1 hf)
            · exact hmem
          obtain ⟨a, ha⟩ := ih record hmore hnodup hnew hneeded'
          exact ⟨a, (applyFields_unknown hf).2 ⟨hhead, ha⟩⟩
      | some f =>
          simp only [hf] at hhead
          obtain ⟨next, hset⟩ := hhead record
          rw [Layout.own_cons_known hf] at hnodup hnew
          rw [List.map_cons, List.nodup_cons] at hnodup
          have hnew' : ∀ kv ∈ layout.own kvs, kv.1 ∉ key :: seen := by
            intro kv hkv
            rw [List.mem_cons, not_or]
            refine ⟨fun heq => hnodup.1 ?_, hnew kv (List.mem_cons_of_mem _ hkv)⟩
            exact List.mem_map.2 ⟨kv, hkv, heq⟩
          have hneeded' : ∀ g ∈ layout.fields, g.required = true →
              g.key ∈ key :: seen ∨ g.key ∈ kvs.map Prod.fst := by
            intro g hg hrequired
            rcases hneeded g hg hrequired with hseen | hmem
            · exact Or.inl (List.mem_cons_of_mem _ hseen)
            · rcases List.mem_cons.1 hmem with heq | hmem
              · exact Or.inl (heq ▸ List.mem_cons_self ..)
              · exact Or.inr hmem
          obtain ⟨a, ha⟩ := ih next hmore hnodup.2 hnew' hneeded'
          exact ⟨a, (applyFields_known hf).2
            ⟨hnew _ (List.mem_cons_self ..), next, hset, ha⟩⟩

/-! ## Arrays -/

theorem applyItems_nil_eq_ok {mayBeShort : Bool} {record a : σ} {items : Items} :
    Layout.applyItems mayBeShort record [] items = .ok a ↔ items = .closed ∧ record = a := by
  cases items <;> simp [Layout.applyItems]

/-- An array that may not be short has an item for each field. -/
theorem applyItems_cons_eq_ok {record a : σ} {f : RecordField σ} {fields : List (RecordField σ)}
    {items : Items} :
    Layout.applyItems false record (f :: fields) items = .ok a ↔
      ∃ v rest next, items = .more v rest ∧ f.set record v = .ok next ∧
        Layout.applyItems false next fields rest = .ok a := by
  cases items with
  | closed => simp [Layout.applyItems]
  | broken b => simp [Layout.applyItems]
  | more v rest =>
      rw [Layout.applyItems, bind_eq_ok]
      constructor
      · rintro ⟨next, hset, h⟩
        exact ⟨v, rest, next, rfl, hset, h⟩
      · rintro ⟨_, _, next, hitems, hset, h⟩
        obtain ⟨rfl, rfl⟩ := Items.more.inj hitems
        exact ⟨next, hset, h⟩

end Layout

/-! ## Values of fields -/

/-- The fields of an object without breaks have values without breaks. -/
theorem isWhole_of_ofFields {kvs : List (String × Value)}
    (h : (Value.ofFields kvs).isWhole = true) : ∀ kv ∈ kvs, kv.2.isWhole = true := by
  rw [Value.ofFields, Value.isWhole] at h
  induction kvs with
  | nil => exact fun kv hkv => nomatch hkv
  | cons kv kvs ih =>
      obtain ⟨key, v⟩ := kv
      rw [Fields.ofList, Fields.isWhole, Bool.and_eq_true] at h
      exact List.forall_mem_cons.2 ⟨h.1, ih h.2⟩

theorem string_eq_ok {v : Value} {s : String} : Json.string v = .ok s ↔ v = .string s := by
  cases v <;> simp [Json.string]

end SqlxDryRun.Json
