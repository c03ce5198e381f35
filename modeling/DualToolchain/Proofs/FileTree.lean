import DualToolchain.FileTree
import Mathlib.Tactic.Common

/-! What the operations on a file tree change. Directories that are there stay, so a path that is
found is still found afterwards; making directories leaves every file alone, and writing a file
changes one location. -/

namespace DualToolchain.FileTree

variable {t t' : FileTree}

/-! ### Entries -/

theorem lookup_cons_eq (l l' : Location) (e : Entry) (es : List (Location × Entry)) :
    List.lookup l' ((l, e) :: es) = if l' = l then some e else es.lookup l' := by
  rw [List.lookup_cons]
  split_ifs with h
  · rw [beq_iff_eq.mpr h]
  · rw [beq_false_of_ne h]

theorem lookup_setEntry (l l' : Location) (e : Entry) (es : List (Location × Entry)) :
    (setEntry l e es).lookup l' = if l' = l then some e else es.lookup l' := by
  induction es with
  | nil => rw [setEntry, lookup_cons_eq]
  | cons x es ih =>
    obtain ⟨k, e'⟩ := x
    rw [setEntry]
    split_ifs with hk hl hl
    · rw [lookup_cons_eq, if_pos hl]
    · rw [lookup_cons_eq, lookup_cons_eq, if_neg hl, hk, if_neg hl]
    · have hne : l' ≠ k := fun h => hk (h.symm.trans hl)
      rw [lookup_cons_eq, if_neg hne, ih, if_pos hl]
    · rw [lookup_cons_eq, lookup_cons_eq, ih, if_neg hl]

theorem entryAt_put {l : Location} (hl : l ≠ []) (e : Entry) (l' : Location) :
    (t.put l e).entryAt l' = if l' = l then some e else t.entryAt l' := by
  have hput : (t.put l e).entries = setEntry l e t.entries := rfl
  unfold entryAt
  rw [hput, lookup_setEntry]
  split_ifs with h h'
  · exact absurd (h'.symm.trans h) hl
  all_goals rfl

theorem ne_nil_of_entryAt {l : Location} (h : t.entryAt l ≠ some .directory) : l ≠ [] := by
  rintro rfl
  exact h rfl

/-! ### Directories that stay -/

/-- The directories of one tree are directories of the other, and relative paths start at the same
place. -/
structure KeepsDirectories (t t' : FileTree) : Prop where
  here_eq : t'.here = t.here
  directory : ∀ l, t.entryAt l = some .directory → t'.entryAt l = some .directory

theorem KeepsDirectories.descend (h : KeepsDirectories t t') {l l' : Location}
    {parts : List String} (hd : t.descend l parts = .ok l') : t'.descend l parts = .ok l' := by
  induction parts generalizing l with
  | nil => exact hd
  | cons part rest ih =>
    rw [FileTree.descend] at hd ⊢
    split at hd
    · contradiction
    · contradiction
    · rename_i hdir
      rw [h.directory _ hdir]
      exact ih hd

theorem KeepsDirectories.locate (h : KeepsDirectories t t') {p : Path} {l : Location}
    (hl : t.locate p = .ok l) : t'.locate p = .ok l := by
  have hstart : t'.start p = t.start p := by
    simp only [start, h.here_eq]
  unfold FileTree.locate at hl ⊢
  rw [hstart]
  split at hl
  · exact hl
  · cases hd : t.descend (t.start p) p.parts.dropLast with
    | error reason =>
      rw [hd] at hl
      contradiction
    | ok l' =>
      rw [hd] at hl
      rw [h.descend hd]
      exact hl

theorem keepsDirectories_put {l : Location} (hl : t.entryAt l ≠ some .directory) (e : Entry) :
    KeepsDirectories t (t.put l e) where
  here_eq := rfl
  directory l' h' := by
    rw [entryAt_put (ne_nil_of_entryAt hl), if_neg]
    · exact h'
    · rintro rfl
      exact hl h'

/-- The last name of a location is the last component of the path, unless that leads up. -/
theorem getLast?_of_locate {p : Path} {l : Location} {last : String} (hl : t.locate p = .ok l)
    (hlast : p.parts.getLast? = some last) (hup : last ≠ "..") : l.getLast? = some last := by
  rw [locate, hlast] at hl
  cases hd : t.descend (t.start p) p.parts.dropLast with
  | error reason =>
    rw [hd] at hl
    contradiction
  | ok l' =>
    rw [hd] at hl
    obtain rfl := Except.ok.inj hl
    simp [towards, hup]

/-! ### Making directories -/

/-- The second tree has the entries of the first, and directories where the first has nothing. -/
def AddsDirectories (t t' : FileTree) : Prop :=
  ∀ l, t'.entryAt l = t.entryAt l ∨ t.entryAt l = none ∧ t'.entryAt l = some .directory

theorem AddsDirectories.refl (t : FileTree) : AddsDirectories t t :=
  fun _ => .inl rfl

theorem AddsDirectories.trans {t'' : FileTree} (h : AddsDirectories t t')
    (h' : AddsDirectories t' t'') : AddsDirectories t t'' := by
  intro l
  rcases h' l with heq | ⟨hnone, hdir⟩
  · rw [heq]
    exact h l
  · rcases h l with h | ⟨hnone', hdir'⟩
    · exact .inr ⟨h ▸ hnone, hdir⟩
    · rw [hdir'] at hnone
      contradiction

theorem AddsDirectories.entryAt_eq_file_iff (h : AddsDirectories t t') (l : Location)
    (bytes : List UInt8) :
    t'.entryAt l = some (.file bytes) ↔ t.entryAt l = some (.file bytes) := by
  rcases h l with heq | ⟨hnone, hdir⟩
  · rw [heq]
  · simp [hnone, hdir]

theorem makeDirectory_eq_ok {p : Path} (h : t.makeDirectory p = .ok t') :
    ∃ l, t.locate p = .ok l ∧ t.entryAt l = none ∧ t' = t.put l .directory := by
  unfold makeDirectory at h
  split_ifs at h
  split at h
  · contradiction
  · rename_i l hl
    split_ifs at h with hsome
    exact ⟨l, hl, by simpa using hsome, (Except.ok.inj h).symm⟩

theorem makeDirectory_addsDirectories {p : Path} (h : t.makeDirectory p = .ok t') :
    AddsDirectories t t' := by
  obtain ⟨l, -, hnone, rfl⟩ := makeDirectory_eq_ok h
  intro l'
  have hdir : t.entryAt l ≠ some .directory := by simp [hnone]
  rw [entryAt_put (ne_nil_of_entryAt hdir)]
  split_ifs with heq
  · exact .inr ⟨heq ▸ hnone, rfl⟩
  · exact .inl rfl

theorem ensureDirectory_addsDirectories {p : Path} (h : t.ensureDirectory p = .ok t') :
    AddsDirectories t t' := by
  unfold ensureDirectory at h
  split at h
  · rename_i hm
    obtain rfl := Except.ok.inj h
    exact makeDirectory_addsDirectories hm
  · split_ifs at h
    obtain rfl := Except.ok.inj h
    exact .refl t

theorem makeParents_addsDirectories (n : Nat) (t : FileTree) (p : Path) :
    AddsDirectories t (makeParents n t p).1 := by
  induction n generalizing p with
  | zero =>
    rw [makeParents]
    split
    · exact ensureDirectory_addsDirectories ‹_›
    · exact .refl t
  | succ n ih =>
    rw [makeParents]
    split
    · exact ensureDirectory_addsDirectories ‹_›
    · have hp := ih p.parent
      split
      · rename_i hparent
        rwa [hparent] at hp
      · rename_i hparent
        rw [hparent] at hp
        split
        · exact hp.trans (ensureDirectory_addsDirectories ‹_›)
        · exact hp
    · exact .refl t

/-- Making a directory with its parents adds directories only, also where it stops. -/
theorem makeDirectories_addsDirectories (t : FileTree) (p : Path) :
    AddsDirectories t (t.makeDirectories p).1 :=
  makeParents_addsDirectories p.parts.length t p

/-! ### Writing files -/

theorem writeFile_eq_ok {p : Path} {bytes : List UInt8} (h : t.writeFile p bytes = .ok t') :
    p.hasNul = false ∧ ∃ l, t.locate p = .ok l ∧ t.entryAt l ≠ some .directory ∧
      t' = t.put l (.file bytes) := by
  unfold writeFile at h
  split_ifs at h with hnul
  refine ⟨by simpa using hnul, ?_⟩
  split at h
  · contradiction
  · rename_i l hl
    refine ⟨l, hl, ?_⟩
    split at h
    · contradiction
    · rename_i hdir
      exact ⟨hdir, (Except.ok.inj h).symm⟩

/-- Nothing but a directory stands against a file. -/
theorem writeFile_of_locate {p : Path} {l : Location} (hnul : p.hasNul = false)
    (hl : t.locate p = .ok l) (hnot : t.entryAt l ≠ some .directory) (bytes : List UInt8) :
    t.writeFile p bytes = .ok (t.put l (.file bytes)) := by
  simp only [writeFile, hnul, hl, Bool.false_eq_true, ↓reduceIte]

/-- Whether a file can be written, and where, does not depend on its content. -/
theorem writeFile_cases (t : FileTree) (p : Path) (bytes bytes' : List UInt8) :
    (∃ fault, t.writeFile p bytes = .error fault ∧ t.writeFile p bytes' = .error fault) ∨
    ∃ l, t.locate p = .ok l ∧ t.entryAt l ≠ some .directory ∧
      t.writeFile p bytes = .ok (t.put l (.file bytes)) ∧
      t.writeFile p bytes' = .ok (t.put l (.file bytes')) := by
  cases h : t.writeFile p bytes with
  | ok t' =>
    obtain ⟨hnul, l, hl, hnot, rfl⟩ := writeFile_eq_ok h
    exact .inr ⟨l, hl, hnot, rfl, writeFile_of_locate hnul hl hnot bytes'⟩
  | error fault =>
    refine .inl ⟨fault, rfl, ?_⟩
    unfold writeFile at h ⊢
    split_ifs at h ⊢
    · exact h
    · split at h
      · exact h
      · split at h
        · exact h
        · contradiction

theorem read?_eq_some_iff {p : Path} {bytes : List UInt8} :
    t.read? p = some bytes ↔
      p.hasNul = false ∧ ∃ l, t.locate p = .ok l ∧ t.entryAt l = some (.file bytes) := by
  unfold read? lookup
  split_ifs with hnul
  · simp [hnul]
  · cases t.locate p with
    | error reason => simp
    | ok l =>
      cases h : t.entryAt l with
      | none => simp [h]
      | some e => cases e <;> simp [h, hnul]

theorem read?_writeFile {p : Path} {bytes : List UInt8} (h : t.writeFile p bytes = .ok t') :
    t'.read? p = some bytes := by
  obtain ⟨hnul, l, hl, hdir, rfl⟩ := writeFile_eq_ok h
  have hl' := (keepsDirectories_put hdir (.file bytes)).locate hl
  have he : (t.put l (.file bytes)).entryAt l = some (.file bytes) := by
    rw [entryAt_put (ne_nil_of_entryAt hdir), if_pos rfl]
  exact read?_eq_some_iff.mpr ⟨hnul, l, hl', he⟩

theorem entryAt_writeFile {p : Path} {bytes : List UInt8} (h : t.writeFile p bytes = .ok t')
    {l : Location} (hl : t.locate p ≠ .ok l) : t'.entryAt l = t.entryAt l := by
  obtain ⟨-, l', hl', hdir, rfl⟩ := writeFile_eq_ok h
  rw [entryAt_put (ne_nil_of_entryAt hdir), if_neg]
  rintro rfl
  exact hl hl'

/-! ### Files of one name -/

/-- The files of a name, in whatever directory, are the same in both trees. -/
def SameFilesNamed (name : String) (t t' : FileTree) : Prop :=
  ∀ l bytes, l.getLast? = some name →
    (t'.entryAt l = some (.file bytes) ↔ t.entryAt l = some (.file bytes))

theorem SameFilesNamed.refl (name : String) (t : FileTree) : SameFilesNamed name t t :=
  fun _ _ _ => .rfl

theorem SameFilesNamed.trans {name : String} {t'' : FileTree} (h : SameFilesNamed name t t')
    (h' : SameFilesNamed name t' t'') : SameFilesNamed name t t'' :=
  fun l bytes hl => (h' l bytes hl).trans (h l bytes hl)

end DualToolchain.FileTree
