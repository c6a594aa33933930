import SqlxDryRun.Json.Reader

/-!
# Written forms of JSON values

A value has many written forms: white space may stand around tokens, every character of a string
may be escaped in up to three ways, and a number has forms with and without an exponent.  The
grammar below lists them all, token by token, without saying how they are read.

Main definitions:

* `SpellsSigns`, `charsOf`: the inside of a string and the characters that it stands for;
* `SpellsNumber`: a number behind its sign;
* `Spells`, `SpellsItems`, `SpellsFields`: values, and what stands between brackets and braces;
* `SpellsText`: a whole text.
-/

namespace SqlxDryRun.Json

/-! ## Strings -/

/-- What a part of a written string stands for: a character, or a 16-bit unit. -/
inductive Sign where
  | char (c : Char)
  | unit (n : Nat)

/-- The characters that signs stand for, unless half of a surrogate pair stands alone. -/
def charsOf : List Sign → Option (List Char)
  | [] => some []
  | .char c :: rest => (charsOf rest).map (c :: ·)
  | .unit n :: rest =>
    if isLeadUnit n then
      match rest with
      | .unit m :: rest =>
        if isTrailUnit m then (charsOf rest).map (Char.ofNat (pairValue n m) :: ·) else none
      | _ => none
    else if isTrailUnit n then none
    else (charsOf rest).map (Char.ofNat n :: ·)

theorem charsOf_unit {n : Nat} (hlead : isLeadUnit n = false) (htrail : isTrailUnit n = false)
    (rest : List Sign) :
    charsOf (.unit n :: rest) = (charsOf rest).map (Char.ofNat n :: ·) := by
  rw [charsOf.eq_def]
  simp [hlead, htrail]

/-- The written forms of signs between the quotes of a string. -/
inductive SpellsSigns : List Sign → List Char → Prop
  | nil : SpellsSigns [] []
  | plain {c signs w} (hquote : c ≠ '"') (hescape : c ≠ '\\') (hcontrol : ¬c.toNat < 0x20)
      (h : SpellsSigns signs w) : SpellsSigns (.char c :: signs) (c :: w)
  | short {c e signs w} (he : simpleEscape? e = some c) (h : SpellsSigns signs w) :
      SpellsSigns (.char c :: signs) ('\\' :: e :: w)
  | unit {n x₁ x₂ x₃ x₄ signs w} (hx : hex4? x₁ x₂ x₃ x₄ = some n) (h : SpellsSigns signs w) :
      SpellsSigns (.unit n :: signs) ('\\' :: 'u' :: x₁ :: x₂ :: x₃ :: x₄ :: w)

/-! ## Numbers -/

/-- A run of digits that is not empty. -/
def IsDigits (ds : List Char) : Prop :=
  ds ≠ [] ∧ ∀ c ∈ ds, c.isDigit = true

instance (ds : List Char) : Decidable (IsDigits ds) :=
  decidable_of_iff (ds ≠ [] ∧ ds.all Char.isDigit = true) (by rw [List.all_eq_true, IsDigits])

/-- The digits before a point: no zero stands before other digits. -/
def IsWhole (ds : List Char) : Prop :=
  IsDigits ds ∧ (ds = ['0'] ∨ ds.head? ≠ some '0')

instance (ds : List Char) : Decidable (IsWhole ds) :=
  inferInstanceAs (Decidable (_ ∧ _))

/-- The written forms of an exponent, which may be missing. -/
inductive SpellsExponent : Option Int → List Char → Prop
  | missing : SpellsExponent none []
  | plain {e ds} (he : e = 'e' ∨ e = 'E') (hds : IsDigits ds) :
      SpellsExponent (some (digitsValue ds)) (e :: ds)
  | plus {e ds} (he : e = 'e' ∨ e = 'E') (hds : IsDigits ds) :
      SpellsExponent (some (digitsValue ds)) (e :: '+' :: ds)
  | minus {e ds} (he : e = 'e' ∨ e = 'E') (hds : IsDigits ds) :
      SpellsExponent (some (-(digitsValue ds : Int))) (e :: '-' :: ds)

/-- The written forms of a number behind its sign. -/
inductive SpellsNumber (negative : Bool) : Number → List Char → Prop
  | whole {ds e w} (hds : IsWhole ds) (he : SpellsExponent e w) :
      SpellsNumber negative (.ofDigits negative ds [] (e.getD 0) e.isNone) (ds ++ w)
  | point {ds ps e w} (hds : IsWhole ds) (hps : IsDigits ps) (he : SpellsExponent e w) :
      SpellsNumber negative (.ofDigits negative ds ps (e.getD 0) false) (ds ++ '.' :: (ps ++ w))

/-! ## Values -/

/-- White space between tokens. -/
def IsGap (g : List Char) : Prop :=
  ∀ c ∈ g, isGap c = true

instance (g : List Char) : Decidable (IsGap g) :=
  decidable_of_iff (g.all isGap = true) List.all_eq_true

mutual

/-- The written forms of a value, without white space around them. -/
inductive Spells : Value → List Char → Prop
  | null : Spells .null ['n', 'u', 'l', 'l']
  | yes : Spells (.bool true) ['t', 'r', 'u', 'e']
  | no : Spells (.bool false) ['f', 'a', 'l', 's', 'e']
  | positive {n w} (h : SpellsNumber false n w) : Spells (.number n) w
  | negative {n w} (h : SpellsNumber true n w) : Spells (.number n) ('-' :: w)
  | string {signs w cs} (h : SpellsSigns signs w) (hcs : charsOf signs = some cs) :
      Spells (.string (String.ofList cs)) ('"' :: (w ++ ['"']))
  | unpaired {signs w} (h : SpellsSigns signs w) (hlone : charsOf signs = none) :
      Spells .unpaired ('"' :: (w ++ ['"']))
  | emptyArray {g} (hg : IsGap g) : Spells (.array .closed) ('[' :: (g ++ [']']))
  | array {g items w} (hg : IsGap g) (h : SpellsItems items w) :
      Spells (.array items) ('[' :: (g ++ (w ++ [']'])))
  | emptyObject {g} (hg : IsGap g) : Spells (.object .closed) ('{' :: (g ++ ['}']))
  | object {g fields w} (hg : IsGap g) (h : SpellsFields fields w) :
      Spells (.object fields) ('{' :: (g ++ (w ++ ['}'])))

/-- The written forms of items, at least one, from the first one on and up to the bracket. -/
inductive SpellsItems : Items → List Char → Prop
  | last {v w g} (h : Spells v w) (hg : IsGap g) : SpellsItems (.more v .closed) (w ++ g)
  | more {v w g₁ g₂ items u} (h : Spells v w) (hg₁ : IsGap g₁) (hg₂ : IsGap g₂)
      (hmore : SpellsItems items u) : SpellsItems (.more v items) (w ++ (g₁ ++ ',' :: (g₂ ++ u)))

/-- The written forms of fields, at least one, from the first key on and up to the brace. -/
inductive SpellsFields : Fields → List Char → Prop
  | last {signs k g₁ g₂ v w g₃} (hkey : SpellsSigns signs k) (hg₁ : IsGap g₁) (hg₂ : IsGap g₂)
      (h : Spells v w) (hg₃ : IsGap g₃) :
      SpellsFields (.more ((charsOf signs).map String.ofList) v .closed)
        ('"' :: (k ++ '"' :: (g₁ ++ ':' :: (g₂ ++ (w ++ g₃)))))
  | more {signs k g₁ g₂ v w g₃ g₄ fields u} (hkey : SpellsSigns signs k) (hg₁ : IsGap g₁)
      (hg₂ : IsGap g₂) (h : Spells v w) (hg₃ : IsGap g₃) (hg₄ : IsGap g₄)
      (hmore : SpellsFields fields u) :
      SpellsFields (.more ((charsOf signs).map String.ofList) v fields)
        ('"' :: (k ++ '"' :: (g₁ ++ ':' :: (g₂ ++ (w ++ (g₃ ++ ',' :: (g₄ ++ u)))))))

end

/-- The written forms of a whole text. -/
def SpellsText (v : Value) (text : String) : Prop :=
  ∃ g₁ w g₂, IsGap g₁ ∧ Spells v w ∧ IsGap g₂ ∧ text.toList = g₁ ++ (w ++ g₂)

end SqlxDryRun.Json
