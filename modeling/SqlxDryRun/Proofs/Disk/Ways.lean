import SqlxDryRun.Disk
import SqlxDryRun.Proofs.Path.Ancestors

/-!
# Ways through a tree

Under which paths something is found in a tree, where whatever is found lies in a directory and has
a name that a file can have.

* `Disk.IsTree`, `Disk.Leads`: such trees, and the segments that lead through directories only.
* `follow_concat_eq_ok`: behind which segments a name is reached.
* `exists?_iff`, `locate_eq_ok` and `checkPath_eq_ok` say what else it takes.
-/

namespace SqlxDryRun

namespace Disk

/-! ## Trees -/

/-- A name that a file can have. -/
structure IsName (name : String) : Prop where
  idle : Path.isIdle name = false
  up : name ≠ ".."
  nul : '\x00' ∉ name.toList
  short : name.utf8ByteSize ≤ nameLimit

instance (name : String) : Decidable (IsName name) :=
  decidable_of_iff (Path.isIdle name = false ∧ name ≠ ".." ∧ '\x00' ∉ name.toList ∧
      name.utf8ByteSize ≤ nameLimit)
    ⟨fun h => ⟨h.1, h.2.1, h.2.2.1, h.2.2.2⟩, fun h => ⟨h.idle, h.up, h.nul, h.short⟩⟩

/-- Whether a place is a directory. -/
def IsDirectory (d : Disk) (place : List String) : Prop :=
  d.node? place = some .directory

instance (d : Disk) (place : List String) : Decidable (d.IsDirectory place) :=
  match h : d.node? place with
  | some .directory => isTrue h
  | some (.file _) => isFalse fun hdirectory => nomatch h.symm.trans hdirectory
  | none => isFalse fun hdirectory => nomatch h.symm.trans hdirectory

/-- Whatever is found lies in a directory and has a name. -/
structure IsTree (d : Disk) : Prop where
  parent : ∀ place name, (d.node? (place ++ [name])).isSome = true → d.IsDirectory place
  name : ∀ place name, (d.node? (place ++ [name])).isSome = true → IsName name

variable {d : Disk}

/-- It is enough to look at all that is listed. -/
theorem isTree_of_forall (h : ∀ n ∈ d.nodes,
    ∃ name ∈ n.1.getLast?, d.IsDirectory n.1.dropLast ∧ IsName name) : d.IsTree := by
  have hlisted : ∀ place name, (d.node? (place ++ [name])).isSome = true →
      d.IsDirectory place ∧ IsName name := by
    intro place name hsome
    rw [node?, if_neg (by simp), Option.isSome_map, List.find?_isSome] at hsome
    obtain ⟨n, hn, hplace⟩ := hsome
    obtain ⟨last, hlast, hdirectory, hname⟩ := h n hn
    rw [beq_iff_eq.1 hplace, List.dropLast_concat] at hdirectory
    rw [beq_iff_eq.1 hplace, List.getLast?_concat, Option.mem_some_iff] at hlast
    exact ⟨hdirectory, hlast ▸ hname⟩
  exact ⟨fun place name hsome => (hlisted place name hsome).1,
    fun place name hsome => (hlisted place name hsome).2⟩

/-- The root is a directory. -/
theorem isDirectory_nil (d : Disk) : d.IsDirectory [] :=
  rfl

theorem IsDirectory.isSome {place : List String} (h : d.IsDirectory place) :
    (d.node? place).isSome = true := by
  rw [h]
  rfl

/-- Whatever is above something is a directory. -/
theorem IsTree.isDirectory_of_prefix (hd : d.IsTree) {above place : List String}
    (h : d.IsDirectory place) (habove : above <+: place) : d.IsDirectory above := by
  obtain ⟨rest, rfl⟩ := habove
  induction rest using List.reverseRecOn with
  | nil => rwa [List.append_nil] at h
  | append_singleton rest name ih =>
      rw [← List.append_assoc] at h
      exact ih (hd.parent _ name h.isSome)

/-! ## Ways through directories -/

/-- Whether segments lead from a place through directories only. -/
def Leads (d : Disk) (place : List String) : List String → Prop
  | [] => d.IsDirectory place
  | segment :: rest => d.IsDirectory place ∧ d.Leads (Path.step place segment) rest

instance decidableLeads (d : Disk) :
    (place segments : List String) → Decidable (d.Leads place segments)
  | place, [] => inferInstanceAs (Decidable (d.IsDirectory place))
  | place, segment :: rest =>
    have := decidableLeads d (Path.step place segment) rest
    inferInstanceAs (Decidable (_ ∧ _))

theorem Leads.start {place segments : List String} (h : d.Leads place segments) :
    d.IsDirectory place := by
  cases segments with
  | nil => exact h
  | cons segment rest => exact h.1

theorem leads_filter (place segments : List String) :
    d.Leads place (segments.filter fun s => !Path.isIdle s) ↔ d.Leads place segments := by
  induction segments generalizing place with
  | nil => exact Iff.rfl
  | cons segment rest ih =>
      cases hidle : Path.isIdle segment with
      | true =>
          rw [List.filter_cons_of_neg (by simp [hidle]), ih, Leads, Path.step_idle _ hidle]
          exact ⟨fun h => ⟨h.start, h⟩, fun h => h.2⟩
      | false => rw [List.filter_cons_of_pos (by simp [hidle]), Leads, Leads, ih]

theorem enter_eq_ok {place : List String} (h : d.IsDirectory place) : d.enter place = .ok () := by
  rw [enter, h]

theorem isDirectory_of_enter {place : List String} (h : d.enter place = .ok ()) :
    d.IsDirectory place := by
  rw [enter] at h
  split at h
  · rename_i hnode
    exact hnode
  · cases h
  · cases h

/-- What following a segment takes. -/
theorem follow_cons_eq_ok {place place' rest : List String} {segment : String} :
    d.follow place (segment :: rest) = .ok place' ↔
      d.IsDirectory place ∧
        (segment ≠ ".." → Path.isIdle segment = false → segment.utf8ByteSize ≤ nameLimit) ∧
        d.follow (Path.step place segment) rest = .ok place' := by
  rw [follow]
  cases henter : d.enter place with
  | error e =>
      refine ⟨fun h => (nomatch h), fun h => ?_⟩
      rw [enter_eq_ok h.1] at henter
      cases henter
  | ok _ =>
      rw [and_iff_right (isDirectory_of_enter henter)]
      change (if _ then _ else _) = _ ↔ _
      by_cases hup : segment = ".."
      · subst hup
        exact ⟨fun h => ⟨fun hne => absurd rfl hne, h⟩, fun h => h.2⟩
      · rw [if_neg (by simpa using hup)]
        cases hidle : Path.isIdle segment with
        | true =>
            rw [if_pos rfl, Path.step_idle _ hidle]
            exact ⟨fun h => ⟨fun _ hne => (nomatch hne), h⟩, fun h => h.2⟩
        | false =>
            rw [if_neg Bool.false_ne_true, Path.step_name _ hup hidle]
            by_cases hlong : nameLimit < segment.utf8ByteSize
            · rw [if_pos hlong]
              exact ⟨fun h => (nomatch h), fun h => absurd (h.1 hup rfl) (Nat.not_le.2 hlong)⟩
            · rw [if_neg hlong]
              exact ⟨fun h => ⟨fun _ _ => Nat.not_lt.1 hlong, h⟩, fun h => h.2⟩

/-- **A name behind segments is reached exactly if they lead through directories only.** -/
theorem follow_concat_eq_ok (hd : d.IsTree) {name : String} (hname : IsName name)
    {place place' segments : List String} :
    d.follow place (segments ++ [name]) = .ok place' ↔
      d.Leads place segments ∧ Path.resolve place segments ++ [name] = place' := by
  induction segments generalizing place with
  | nil =>
      rw [List.nil_append, follow_cons_eq_ok, Path.step_name _ hname.up hname.idle, follow,
        Except.ok.injEq, Leads, Path.resolve_nil, and_iff_right fun _ _ => hname.short]
  | cons segment rest ih =>
      rw [List.cons_append, follow_cons_eq_ok, ih, Leads, Path.resolve_cons, and_assoc]
      refine and_congr_right fun _ => and_iff_right_of_imp fun h hup hidle => ?_
      -- A name that is too long is no name of a directory.
      have hstart := h.1.start
      rw [Path.step_name _ hup hidle] at hstart
      exact (hd.name _ _ hstart.isSome).short

/-- No segment of such a way holds a null character. -/
theorem Leads.nul_not_mem (hd : d.IsTree) {place segments : List String}
    (h : d.Leads place segments) : ∀ s ∈ segments, '\x00' ∉ s.toList := by
  induction segments generalizing place with
  | nil => exact nofun
  | cons segment rest ih =>
      refine List.forall_mem_cons.2 ⟨?_, ih h.2⟩
      by_cases hup : segment = ".."
      · subst hup
        decide
      · cases hidle : Path.isIdle segment with
        | true =>
            rw [Path.isIdle, Bool.or_eq_true, beq_iff_eq, beq_iff_eq] at hidle
            rcases hidle with rfl | rfl <;> decide
        | false =>
            have hstart := h.2.start
            rw [Path.step_name _ hup hidle] at hstart
            exact (hd.name _ _ hstart.isSome).nul

/-! ## Existence -/

theorem exists?_iff {p : Path} :
    d.exists? p = true ↔
      ∃ place, d.locate p = .ok place ∧ (d.node? place).isSome = true := by
  cases hlocate : d.locate p with
  | error e =>
      have hfind : d.find p = .error e := by simp only [find, hlocate, bind, Except.bind]
      rw [exists?, hfind]
      exact ⟨fun h => (nomatch h), fun ⟨_, h, _⟩ => (nomatch h)⟩
  | ok place =>
      have hfind : (d.find p).isOk = (d.node? place).isSome := by
        cases hnode : d.node? place <;> simp only [find, hlocate, bind, Except.bind, hnode] <;> rfl
      rw [exists?, hfind]
      exact ⟨fun h => ⟨place, rfl, h⟩, fun ⟨_, hplace, h⟩ => Except.ok.inj hplace ▸ h⟩

theorem checkPath_eq_ok {p : Path} (hp : p.absolute = true) :
    checkPath p = .ok () ↔
      (∀ s ∈ p.segments, '\x00' ∉ s.toList) ∧ p.toString.utf8ByteSize < pathLimit := by
  have hnul : (p.segments.any fun s => s.contains '\x00') = false ↔
      ∀ s ∈ p.segments, '\x00' ∉ s.toList := by
    simp
  have hempty : (p == Path.empty) = false := by
    rw [beq_eq_false_iff_ne]
    rintro rfl
    cases hp
  rw [checkPath, hempty, ← hnul, ← Nat.not_le]
  cases p.segments.any fun s => s.contains '\x00' with
  | true => exact ⟨fun h => (nomatch h), fun h => (nomatch h.1)⟩
  | false =>
      by_cases hlong : pathLimit ≤ p.toString.utf8ByteSize
      · rw [if_neg Bool.false_ne_true, if_neg Bool.false_ne_true, if_pos hlong]
        exact ⟨fun h => (nomatch h), fun h => absurd hlong h.2⟩
      · rw [if_neg Bool.false_ne_true, if_neg Bool.false_ne_true, if_neg hlong]
        exact ⟨fun _ => ⟨rfl, hlong⟩, fun _ => rfl⟩

theorem locate_eq_ok {p : Path} (hp : p.absolute = true) {place : List String} :
    d.locate p = .ok place ↔ checkPath p = .ok () ∧ d.follow [] p.segments = .ok place := by
  rw [locate, hp]
  cases checkPath p with
  | error e => exact ⟨fun h => (nomatch h), fun h => (nomatch h.1)⟩
  | ok _ => exact ⟨fun h => ⟨rfl, h⟩, fun h => h.2⟩

end Disk

end SqlxDryRun
