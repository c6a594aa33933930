import Mathlib.Data.List.Basic
import SqlxDryRun.Text.Utf8

/-!
# Lenient reading of well-formed bytes

Lenient reading goes through the bytes of a character without a replacement
(`lenientFrom_utf8EncodeChar`), so the bytes of a text stand for the text (`lenient_toUTF8`).
-/

namespace SqlxDryRun.Text.Utf8

/-! ## One character -/

/-- A lead byte fits a character if it gives the leading bits of the character, wants its other
bytes, and admits the second of them. -/
structure Lead.Fits (l : Lead) (bits second follow : Nat) : Prop where
  bits : l.bits = bits
  low : l.low ≤ second
  high : second ≤ l.high
  follow : l.follow = follow

theorem lead?_two {v : Nat} (hlow : 0x80 ≤ v) (hhigh : v < 0x800) :
    ∃ l, lead? (v / 64 % 32 + 192) = some l ∧ l.Fits (v / 64) (v % 64 + 128) 1 := by
  rw [lead?, if_neg (by omega), if_pos (by omega)]
  exact ⟨_, rfl, by dsimp only; omega, by dsimp only; omega, by dsimp only; omega, rfl⟩

/-- The second byte is bounded below against overlong forms, and above against surrogates. -/
theorem lead?_three {v : Nat} (hlow : 0x800 ≤ v) (hhigh : v < 0x10000)
    (hvalid : v < 0xd800 ∨ 0xdfff < v) :
    ∃ l, lead? (v / 4096 % 16 + 224) = some l ∧ l.Fits (v / 4096) (v / 64 % 64 + 128) 2 := by
  rw [lead?, if_neg (by omega), if_neg (by omega)]
  simp only [beq_iff_eq]
  split_ifs <;> first
    | exact ⟨_, rfl, by dsimp only; omega, by dsimp only; omega, by dsimp only; omega, rfl⟩
    | omega

/-- The second byte is bounded below against overlong forms, and above by the last plane. -/
theorem lead?_four {v : Nat} (hlow : 0x10000 ≤ v) (hhigh : v < 0x110000) :
    ∃ l, lead? (v / 262144 % 8 + 240) = some l ∧
      l.Fits (v / 262144) (v / 4096 % 64 + 128) 3 := by
  rw [lead?, if_neg (by omega), if_neg (by omega)]
  simp only [beq_iff_eq]
  split_ifs <;> first
    | exact ⟨_, rfl, by dsimp only; omega, by dsimp only; omega, by dsimp only; omega, rfl⟩
    | omega

/-! ## One byte -/

/-- A byte with a mark above its low bits. -/
theorem toNat_ofNat_mark (n k mark : Nat) (hk : 0 < k) (h : k + mark ≤ 256) :
    (UInt8.ofNat (n % k + mark)).toNat = n % k + mark := by
  have hlt := Nat.mod_lt n hk
  exact UInt8.toNat_ofNat_of_lt' (Nat.lt_of_lt_of_le (Nat.add_lt_add_right hlt mark) h)

/-- A lead byte is remembered. -/
theorem lenientFrom_lead {b : UInt8} {l : Lead} (hb : 0x80 ≤ b.toNat) (hl : lead? b.toNat = some l)
    (rest : List UInt8) :
    lenientFrom .none (b :: rest) =
      lenientFrom (.character l.bits l.low l.high l.follow) rest := by
  rw [lenientFrom, if_neg (by omega), hl]

/-- A byte that is expected gives its low bits. -/
theorem lenientFrom_more {b : UInt8} {bits low high left : Nat}
    (hb : low ≤ b.toNat ∧ b.toNat ≤ high) (hleft : 1 < left) (rest : List UInt8) :
    lenientFrom (.character bits low high left) (b :: rest) =
      lenientFrom (.character (bits * 64 + (b.toNat - 0x80)) 0x80 0xbf (left - 1)) rest := by
  rw [lenientFrom, if_pos hb, if_neg (by omega)]

/-- The last byte that is expected completes the character. -/
theorem lenientFrom_last {b : UInt8} {bits low high : Nat}
    (hb : low ≤ b.toNat ∧ b.toNat ≤ high) (rest : List UInt8) :
    lenientFrom (.character bits low high 1) (b :: rest) =
      Char.ofNat (bits * 64 + (b.toNat - 0x80)) :: lenientFrom .none rest := by
  rw [lenientFrom, if_pos hb, if_pos (Nat.le_refl 1)]

/-! ## Texts -/

/-- **The bytes of a character are read as the character.** -/
theorem lenientFrom_utf8EncodeChar (c : Char) (rest : List UInt8) :
    lenientFrom .none (String.utf8EncodeChar c ++ rest) = c :: lenientFrom .none rest := by
  have hvalid : c.val.toNat < 0xd800 ∨ 0xdfff < c.val.toNat ∧ c.val.toNat < 0x110000 := c.valid
  have hchar : Char.ofNat c.val.toNat = c := Char.ofNat_toNat c
  rw [String.utf8EncodeChar]
  generalize c.val.toNat = v at hvalid hchar
  rw [← hchar]
  have hlast := toNat_ofNat_mark v 64 128 (by decide) (by decide)
  have hmiddle := toNat_ofNat_mark (v / 64) 64 128 (by decide) (by decide)
  by_cases h1 : v ≤ 127
  · have hbyte : (UInt8.ofNat v).toNat = v := 
      UInt8.toNat_ofNat_of_lt' (Nat.lt_of_le_of_lt h1 (by decide))
    rw [if_pos h1, List.singleton_append, lenientFrom, hbyte, if_pos (by omega)]
  rw [if_neg h1]
  by_cases h2 : v ≤ 2047
  · have hlead := toNat_ofNat_mark (v / 64) 32 192 (by decide) (by decide)
    obtain ⟨l, hl, hfits⟩ := lead?_two (v := v) (by omega) (by omega)
    rw [if_pos h2, List.cons_append, List.singleton_append,
      lenientFrom_lead (by omega) (by rw [hlead, hl]), hfits.follow,
      lenientFrom_last (by rw [hlast]; exact ⟨hfits.low, hfits.high⟩), hlast, hfits.bits,
      show v / 64 * 64 + (v % 64 + 128 - 0x80) = v by omega]
  rw [if_neg h2]
  by_cases h3 : v ≤ 65535
  · have hlead := toNat_ofNat_mark (v / 4096) 16 224 (by decide) (by decide)
    obtain ⟨l, hl, hfits⟩ := lead?_three (v := v) (by omega) (by omega) (by omega)
    rw [if_pos h3, List.cons_append, List.cons_append, List.singleton_append,
      lenientFrom_lead (by omega) (by rw [hlead, hl]), hfits.follow,
      lenientFrom_more (by rw [hmiddle]; exact ⟨hfits.low, hfits.high⟩) (by decide),
      lenientFrom_last (by omega), hmiddle, hlast, hfits.bits,
      show (v / 4096 * 64 + (v / 64 % 64 + 128 - 0x80)) * 64 + (v % 64 + 128 - 0x80) = v by omega]
  · have hlead := toNat_ofNat_mark (v / 262144) 8 240 (by decide) (by decide)
    have hsecond := toNat_ofNat_mark (v / 4096) 64 128 (by decide) (by decide)
    obtain ⟨l, hl, hfits⟩ := lead?_four (v := v) (by omega) (by omega)
    rw [if_neg h3, List.cons_append, List.cons_append, List.cons_append, List.singleton_append,
      lenientFrom_lead (by omega) (by rw [hlead, hl]), hfits.follow,
      lenientFrom_more (by rw [hsecond]; exact ⟨hfits.low, hfits.high⟩) (by decide),
      lenientFrom_more (by omega) (by decide), lenientFrom_last (by omega), hsecond, hmiddle,
      hlast, hfits.bits, show ((v / 262144 * 64 + (v / 4096 % 64 + 128 - 0x80)) * 64 +
        (v / 64 % 64 + 128 - 0x80)) * 64 + (v % 64 + 128 - 0x80) = v by omega]

/-- The list of bytes from a place on, behind those that were read. -/
theorem toList_loop (bytes : ByteArray) (i : Nat) (read : List UInt8) :
    ByteArray.toList.loop bytes i read = read.reverse ++ bytes.data.toList.drop i := by
  fun_induction ByteArray.toList.loop bytes i read with
  | case1 i read h ih =>
      have hi : i < bytes.data.size := h
      have hbyte : bytes.get! i = bytes.data.toList[i] := getElem!_pos bytes.data i hi
      rw [ih, List.reverse_cons, List.append_assoc, List.singleton_append, hbyte,
        ← List.drop_eq_getElem_cons]
  | case2 i read h =>
      have hi : bytes.data.toList.length ≤ i := Nat.le_of_not_lt h
      rw [List.drop_of_length_le hi, List.append_nil]

/-- The bytes of a text are read as the text, whatever bytes follow. -/
theorem lenientFrom_flatMap_append (cs : List Char) (rest : List UInt8) :
    lenientFrom .none (cs.flatMap String.utf8EncodeChar ++ rest) =
      cs ++ lenientFrom .none rest := by
  induction cs with
  | nil => rw [List.flatMap_nil, List.nil_append, List.nil_append]
  | cons c cs ih =>
      rw [List.flatMap_cons, List.append_assoc, lenientFrom_utf8EncodeChar, ih, List.cons_append]

theorem lenientFrom_flatMap (cs : List Char) :
    lenientFrom .none (cs.flatMap String.utf8EncodeChar) = cs := by
  have h := lenientFrom_flatMap_append cs []
  rwa [List.append_nil, lenientFrom, List.append_nil] at h

/-- **The bytes of a text stand for the text.** -/
theorem lenient_toUTF8 (s : String) : lenient s.toUTF8 = s := by
  have hbytes : s.toUTF8.toList = s.toList.flatMap String.utf8EncodeChar := by
    rw [String.toUTF8, ← String.utf8Encode_toList, List.utf8Encode, ByteArray.toList, toList_loop,
      List.data_toByteArray]
    rfl
  rw [lenient, hbytes, lenientFrom_flatMap, String.ofList_toList]

end SqlxDryRun.Text.Utf8
