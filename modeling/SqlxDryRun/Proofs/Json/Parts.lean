import SqlxDryRun.Proofs.Json.Edits

/-!
# Parts of records

A part of a record comes from one field of its object, wherever that field stands and whatever else
the object holds: `decode_part` says that a record whose object was understood has in this part what
the value of the field stands for.  The other way round, `applyFields_of_set` and
`list_ofItems_of_decode` read an object field by field and an array item by item.
-/

namespace SqlxDryRun.Json

section Layout

variable {σ α : Type} {layout : Layout σ}

/-! ## Field by field -/

/-- A field that can be applied is applied. -/
theorem applyFields_of_set {record next : σ} {seen : List String} {key : String} {v : Value}
    {fs : List (String × Value)} {f : RecordField σ} (hf : layout.field? key = some f)
    (hnew : key ∉ seen) (hset : f.set record v = .ok next) :
    layout.applyFields record seen (.ofList ((key, v) :: fs)) =
      layout.applyFields next (key :: seen) (.ofList fs) := by
  have hcontains : ¬seen.contains key = true := by simpa using hnew
  simp only [Fields.ofList, Layout.applyFields, hf, if_neg hcontains, hset]
  rfl

/-- Items that can be decoded one by one can be decoded together. -/
theorem list_ofItems_of_decode {β : Type} {decode : Decoder α} {write : β → Value} {read : β → α}
    (h : ∀ b, decode (write b) = .ok (read b)) (bs : List β) :
    Json.list decode (.ofItems (bs.map write)) = .ok (bs.map read) := by
  change items decode (.ofList _) = .ok _
  induction bs with
  | nil => rfl
  | cons b bs ih => exact items_ofList_cons_eq_ok.2 ⟨read b, bs.map read, h b, ih, rfl⟩

/-! ## Parts -/

/-- A field that has no influence on a part of the record. -/
def RecordField.Spares (f : RecordField σ) (part : σ → α) : Prop :=
  ∀ r v r', f.set r v = .ok r' → part r' = part r

theorem RecordField.spares_needed {β : Type} {key : String} {decode : Decoder β} {set : σ → β → σ}
    {part : σ → α} (h : ∀ r x, part (set r x) = part r) :
    (RecordField.needed key decode set).Spares part := by
  intro r v r' hset
  obtain ⟨x, -, rfl⟩ := map_eq_ok.1 hset
  exact h r x

theorem RecordField.spares_ignored {β : Type} {key : String} {decode : Decoder β} {required : Bool}
    {part : σ → α} : (RecordField.ignored key decode required).Spares part := by
  intro r v r' hset
  obtain ⟨x, -, rfl⟩ := map_eq_ok.1 hset
  rfl

/-- A part of a record that the field of a key sets, and no other field. -/
structure Layout.Sets (layout : Layout σ) (key : String) (decode : Decoder α) (part : σ → α) :
    Prop where
  own : ∃ set, layout.field? key = some (.needed key decode set) ∧ ∀ r x, part (set r x) = x
  others : ∀ f ∈ layout.fields, f.key ≠ key → f.Spares part

theorem bind_eq_ok {β γ : Type} {x : Decoded β} {f : β → Decoded γ} {c : γ} :
    (x >>= f) = .ok c ↔ ∃ b, x = .ok b ∧ f b = .ok c := by
  cases x <;> simp [bind, Except.bind]

theorem Layout.key_of_field? {key : String} {f : RecordField σ} (h : layout.field? key = some f) :
    f ∈ layout.fields ∧ f.key = key := by
  refine ⟨List.mem_of_find?_eq_some h, ?_⟩
  simpa using List.find?_some h

/-- What is read from the fields of an object: a part whose key came before stays as it is, and a
part whose key is still to come is read from its value. -/
theorem applyFields_part {key : String} {decode : Decoder α} {part : σ → α}
    (hsets : layout.Sets key decode part) {record a : σ} {seen : List String} {fields : Fields}
    (h : layout.applyFields record seen fields = .ok a) :
    (key ∈ seen → part a = part record) ∧
      ∀ v, key ∉ seen → Value.field?.look key fields = some v → decode v = .ok (part a) := by
  fun_induction layout.applyFields record seen fields with
  | case1 record seen hall =>
      obtain rfl := Except.ok.inj h
      constructor
      · intro _
        rfl
      · intro v _ hlook
        cases hlook
  | case2 | case3 | case4 | case6 => cases h
  | case5 record seen key' value rest hf ih =>
      obtain ⟨-, -, h⟩ := bind_eq_ok.1 h
      obtain ⟨hseen, hnew⟩ := ih h
      refine ⟨hseen, ?_⟩
      intro v hkey hlook
      have hne : key' ≠ key := by
        rintro rfl
        obtain ⟨f, hown, -⟩ := hsets.own
        rw [hown] at hf
        cases hf
      rw [Value.field?.look, if_neg (by simpa using hne)] at hlook
      exact hnew v hkey hlook
  | case7 record seen key' value rest f hf hseen ih =>
      obtain ⟨next, hset, h⟩ := bind_eq_ok.1 h
      obtain ⟨hold, hnew⟩ := ih next h
      by_cases hne : key' = key
      · -- This is the field of the part: it is set here, and then stays.
        subst hne
        have hpart : part a = part next := hold (List.mem_cons_self ..)
        constructor
        · intro hmem
          exact absurd (List.contains_iff_mem.2 hmem) hseen
        · intro v _ hlook
          rw [Value.field?.look, if_pos (by simp)] at hlook
          obtain rfl := Option.some.inj hlook
          obtain ⟨set, hown, hread⟩ := hsets.own
          obtain rfl := Option.some.inj (hf.symm.trans hown)
          obtain ⟨x, hx, rfl⟩ := map_eq_ok.1 hset
          rw [hpart, hread record x]
          exact hx
      · obtain ⟨hmem, hkey⟩ := Layout.key_of_field? hf
        have hpart : part next = part record :=
          hsets.others f hmem (by rwa [hkey]) record value next hset
        constructor
        · intro hmem
          rw [hold (List.mem_cons_of_mem _ hmem), hpart]
        · intro v hnot hlook
          rw [Value.field?.look, if_neg (by simpa using hne)] at hlook
          refine hnew v ?_ hlook
          rw [List.mem_cons, not_or]
          exact ⟨Ne.symm hne, hnot⟩

/-- **A part is read from its field.** -/
theorem decode_part {key : String} {decode : Decoder α} {part : σ → α}
    (hsets : layout.Sets key decode part) {v w : Value} {a : σ} (h : layout.decode v = .ok a)
    (hw : v.field? key = some w) : decode w = .ok (part a) := by
  cases v with
  | object fields => exact (applyFields_part hsets h).2 w List.not_mem_nil hw
  | _ => cases hw

/-- A record with fields that is read from an object only is read just like one that may be written
as an array. -/
theorem decodeObject_eq_ok {v : Value} {a : σ} (h : layout.decodeObject v = .ok a) :
    layout.decode v = .ok a := by
  cases v with
  | object fields => exact h
  | array items => cases items <;> cases h
  | _ => cases h

end Layout

end SqlxDryRun.Json
