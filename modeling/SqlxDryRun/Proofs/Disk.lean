import SqlxDryRun.Disk

/-!
# Writing and reading files

A write changes the tree at one place, and leads nowhere else afterwards: paths are followed through
directories, and a write neither makes nor replaces one.

* `write_eq_ok` says at which place a file is written.
* `readBytes_write`: what was written is read back under the same path.
* `readBytes_of_write`: whatever lies elsewhere reads as before.
-/

namespace SqlxDryRun

namespace Text.Utf8

/-- Bytes that are read strictly are the bytes of the text. -/
theorem eq_toUTF8_of_strict? {bytes : ByteArray} {text : String} (h : strict? bytes = some text) :
    bytes = text.toUTF8 := by
  rw [strict?, String.fromUTF8?] at h
  split at h
  · obtain rfl := Option.some.inj h
    rfl
  · cases h

end Text.Utf8

namespace Disk

/-! ## Places -/

/-- Putting a node at a place changes no other place. -/
theorem node?_put_of_ne (d : Disk) {place q : List String} (h : q ≠ place) (node : Node) :
    (d.put place node).node? q = d.node? q := by
  have hhead : (place == q) = false := beq_eq_false_iff_ne.2 (Ne.symm h)
  have hrest : (d.nodes.filter fun n => n.1 != place).find? (fun n => n.1 == q) =
      d.nodes.find? fun n => n.1 == q := by
    rw [List.find?_filter]
    congr 1
    funext n
    by_cases hn : n.1 = q
    · simp [hn, h]
    · simp [hn]
  rw [node?, node?]
  split
  · rfl
  · show (((place, node) :: d.nodes.filter fun n => n.1 != place).find? _).map Prod.snd = _
    rw [List.find?_cons, hhead, hrest]

theorem node?_put_self (d : Disk) {place : List String} (h : place ≠ []) (node : Node) :
    (d.put place node).node? place = some node := by
  rw [node?, if_neg (by simpa using h)]
  show (((place, node) :: d.nodes.filter fun n => n.1 != place).find? _).map Prod.snd = _
  rw [List.find?_cons, BEq.rfl]
  rfl

/-- Two trees hold the same at every place but one, and at that place neither has a directory. -/
structure SameBut (place : List String) (d d' : Disk) : Prop where
  cwd : d'.cwd = d.cwd
  node? : ∀ q, q ≠ place → d'.node? q = d.node? q
  before : d.node? place ≠ some .directory
  after : d'.node? place ≠ some .directory

/-- A file in the stead of a file or of nothing. -/
theorem sameBut_put {d : Disk} {place : List String} (h : d.node? place ≠ some .directory)
    (content : ByteArray) : SameBut place d (d.put place (.file content)) where
  cwd := rfl
  node? q hq := d.node?_put_of_ne hq _
  before := h
  after := by
    have hplace : place ≠ [] := by
      rintro rfl
      exact h rfl
    rw [d.node?_put_self hplace]
    intro hfile
    cases hfile

/-! ## Where paths lead -/

/-- Two steps give something if the first one does and the second one does with it. -/
theorem toOption_bind {ε α β : Type} (x : Except ε α) (f : α → Except ε β) :
    (x >>= f).toOption = x.toOption.bind fun a => (f a).toOption := by
  cases x <;> rfl

theorem toOption_eq_some {ε α : Type} {x : Except ε α} {a : α} :
    x.toOption = some a ↔ x = .ok a := by
  cases x <;> simp [Except.toOption]

section SameBut

variable {d d' : Disk} {place : List String}

/-- The same places can be entered. -/
theorem SameBut.enter (h : SameBut place d d') (q : List String) :
    (d'.enter q).toOption = (d.enter q).toOption := by
  by_cases hq : q = place
  · have hclosed : ∀ d₀ : Disk, d₀.node? q ≠ some .directory → (d₀.enter q).toOption = none := by
      intro d₀ hdir
      rw [Disk.enter]
      split
      · rename_i hnode
        exact absurd hnode hdir
      · rfl
      · rfl
    rw [hclosed d' (hq ▸ h.after), hclosed d (hq ▸ h.before)]
  · rw [Disk.enter, Disk.enter, h.node? q hq]

/-- Paths lead to the same places. -/
theorem SameBut.follow (h : SameBut place d d') (segments q : List String) :
    (d'.follow q segments).toOption = (d.follow q segments).toOption := by
  induction segments generalizing q with
  | nil => rfl
  | cons segment rest ih =>
      rw [Disk.follow, Disk.follow, toOption_bind, toOption_bind, h.enter q]
      congr 1
      funext _
      by_cases hup : (segment == "..") = true
      · rw [if_pos hup, if_pos hup, ih]
      · rw [if_neg hup, if_neg hup]
        by_cases hidle : Path.isIdle segment = true
        · rw [if_pos hidle, if_pos hidle, ih]
        · rw [if_neg hidle, if_neg hidle]
          by_cases hlong : nameLimit < segment.utf8ByteSize
          · rw [if_pos hlong, if_pos hlong]
          · rw [if_neg hlong, if_neg hlong, ih]

theorem SameBut.locate (h : SameBut place d d') (p : Path) :
    (d'.locate p).toOption = (d.locate p).toOption := by
  rw [Disk.locate, Disk.locate, toOption_bind, toOption_bind, h.cwd]
  congr 1
  funext _
  exact h.follow _ _

/-- Whatever does not lie at the place reads as before. -/
theorem SameBut.readBytes (h : SameBut place d d') {p : Path} (hp : d.locate p ≠ .ok place) :
    (d'.readBytes p).toOption = (d.readBytes p).toOption := by
  have hfind : (d'.find p).toOption = (d.find p).toOption := by
    rw [Disk.find, Disk.find, toOption_bind, toOption_bind, h.locate p]
    cases hq : (d.locate p).toOption with
    | none => rfl
    | some q =>
        have hne : q ≠ place := by
          rintro rfl
          exact hp (toOption_eq_some.1 hq)
        rw [Option.bind_some, Option.bind_some, h.node? q hne]
  rw [Disk.readBytes, Disk.readBytes, toOption_bind, toOption_bind, hfind]

end SameBut

/-! ## Writing -/

/-- Only a path without an empty segment at its end names a file. -/
theorem reverse_dropWhile_eq {segments : List String}
    (h : ¬(segments.reverse.dropWhile (· == "")).reverse.length < segments.length) :
    (segments.reverse.dropWhile (· == "")).reverse = segments := by
  have hsuffix : segments.reverse.dropWhile (· == "") <:+ segments.reverse :=
    List.dropWhile_suffix _
  have hlength : (segments.reverse.dropWhile (· == "")).length = segments.reverse.length := by
    have hle := hsuffix.length_le
    simp only [List.length_reverse] at h hle ⊢
    omega
  rw [hsuffix.eq_of_length hlength, List.reverse_reverse]

/-- A write puts a file at the place to which its path leads, where there is no directory. -/
theorem write_eq_ok {d d' : Disk} {p : Path} {content : ByteArray}
    (h : d.write p content = .ok d') :
    ∃ place, d.locate p = .ok place ∧ d.node? place ≠ some .directory ∧
      d' = d.put place (.file content) := by
  cases hcheck : checkPath p with
  | error e =>
      rw [write, hcheck] at h
      cases h
  | ok _ =>
      rw [write, hcheck] at h
      change (d.follow (if p.absolute then [] else d.cwd)
        (p.segments.reverse.dropWhile (· == "")).reverse >>= _) = _ at h
      cases hfollow : d.follow (if p.absolute then [] else d.cwd)
          (p.segments.reverse.dropWhile (· == "")).reverse with
      | error e =>
          rw [hfollow] at h
          cases h
      | ok place =>
          rw [hfollow] at h
          change (if _ then _ else _) = _ at h
          split at h
          · cases h
          · rename_i hnamed
            rw [reverse_dropWhile_eq hnamed] at hfollow
            refine ⟨place, ?_, ?_, ?_⟩
            · rw [locate, hcheck]
              exact hfollow
            · intro hdir
              rw [hdir] at h
              cases h
            · split at h
              · cases h
              · exact (Except.ok.inj h).symm

/-- **What was written is read back.** -/
theorem readBytes_write {d d' : Disk} {p : Path} {content : ByteArray}
    (h : d.write p content = .ok d') : d'.readBytes p = .ok content := by
  obtain ⟨place, hplace, hnode, rfl⟩ := write_eq_ok h
  have hne : place ≠ [] := by
    rintro rfl
    exact hnode rfl
  have hlocate : (d.put place (.file content)).locate p = .ok place := by
    rw [← toOption_eq_some, (sameBut_put hnode content).locate p, hplace]
    rfl
  have hfind : (d.put place (.file content)).find p = .ok (.file content) := by
    have hnode : (d.put place (.file content)).node? place = some (.file content) :=
      d.node?_put_self hne _
    simp only [find, hlocate, bind, Except.bind, hnode]
  rw [readBytes, hfind]
  rfl

/-- **Whatever lies elsewhere reads as before.** -/
theorem readBytes_of_write {d d' : Disk} {p q : Path} {content : ByteArray}
    (h : d.write p content = .ok d')
    (hq : ∀ place, d.locate p = .ok place → d.locate q ≠ .ok place) :
    (d'.readBytes q).toOption = (d.readBytes q).toOption := by
  obtain ⟨place, hplace, hnode, rfl⟩ := write_eq_ok h
  exact (sameBut_put hnode content).readBytes (hq place hplace)

/-- A write changes no other place. -/
theorem node?_of_write {d d' : Disk} {p : Path} {content : ByteArray}
    (h : d.write p content = .ok d') {q : List String} (hq : d.locate p ≠ .ok q) :
    d'.node? q = d.node? q := by
  obtain ⟨place, hplace, -, rfl⟩ := write_eq_ok h
  refine d.node?_put_of_ne ?_ _
  rintro rfl
  exact hq hplace

/-- The text of a file is what its bytes stand for. -/
theorem toOption_readText (d : Disk) (p : Path) :
    (d.readText p).toOption = (d.readBytes p).toOption.bind Text.Utf8.strict? := by
  rw [readText, toOption_bind]
  congr 1
  funext bytes
  cases Text.Utf8.strict? bytes <;> rfl

theorem readText_eq_ok {d : Disk} {p : Path} {text : String} :
    d.readText p = .ok text ↔ d.readBytes p = .ok text.toUTF8 := by
  rw [← toOption_eq_some, toOption_readText, Option.bind_eq_some_iff]
  constructor
  · rintro ⟨bytes, hbytes, htext⟩
    rw [toOption_eq_some.1 hbytes, Text.Utf8.eq_toUTF8_of_strict? htext]
  · intro h
    exact ⟨text.toUTF8, toOption_eq_some.2 h, Text.Utf8.strict?_toUTF8 text⟩

end Disk

end SqlxDryRun
