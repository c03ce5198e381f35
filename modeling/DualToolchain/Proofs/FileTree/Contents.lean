import DualToolchain.Proofs.FileTree.Directory

/-! The content of a file has no part in what becomes of a tree. Two trees that are the same but for
the content of one file have the same directories, so every path leads to the same place in both,
the same operations succeed and fail on them, and they stay the same but for that file. -/

namespace DualToolchain.FileTree

variable {t t' : FileTree} {l : Location}

/-- The same trees, but for the content of the file at one location. -/
structure SameBut (l : Location) (t t' : FileTree) : Prop where
  here_eq : t'.here = t.here
  others : ∀ l', l' ≠ l → t'.entryAt l' = t.entryAt l'
  file : ∃ bytes, t.entryAt l = some (.file bytes)
  file' : ∃ bytes, t'.entryAt l = some (.file bytes)

/-- An operation fails on both trees for the same reason or leaves both the same but for the file. -/
inductive AlikeBut (l : Location) :
    Except FileFault FileTree → Except FileFault FileTree → Prop where
  | error (fault : FileFault) : AlikeBut l (.error fault) (.error fault)
  | ok {t t' : FileTree} (h : SameBut l t t') : AlikeBut l (.ok t) (.ok t')

namespace SameBut

theorem of_put {bytes : List UInt8} (h : t.entryAt l = some (.file bytes)) (bytes' : List UInt8) :
    SameBut l t (t.put l (.file bytes')) := by
  have hne : l ≠ [] := ne_nil_of_entryAt (by rw [h]; simp)
  refine ⟨rfl, fun l' hl' => ?_, ⟨bytes, h⟩, ⟨bytes', ?_⟩⟩
  · rw [entryAt_put hne, if_neg hl']
  · rw [entryAt_put hne, if_pos rfl]

/-! ### Looking up -/

theorem entryAt_cases (h : SameBut l t t') (l' : Location) :
    t'.entryAt l' = t.entryAt l' ∨
      ∃ bytes bytes', t.entryAt l' = some (.file bytes) ∧ t'.entryAt l' = some (.file bytes') := by
  by_cases hl : l' = l
  · subst hl
    obtain ⟨bytes, hfile⟩ := h.file
    obtain ⟨bytes', hfile'⟩ := h.file'
    exact .inr ⟨bytes, bytes', hfile, hfile'⟩
  · exact .inl (h.others l' hl)

theorem isSome_entryAt (h : SameBut l t t') (l' : Location) :
    (t'.entryAt l').isSome = (t.entryAt l').isSome := by
  rcases h.entryAt_cases l' with heq | ⟨bytes, bytes', hfile, hfile'⟩
  · rw [heq]
  · rw [hfile, hfile']
    rfl

theorem entryAt_eq_directory_iff (h : SameBut l t t') (l' : Location) :
    t'.entryAt l' = some .directory ↔ t.entryAt l' = some .directory := by
  rcases h.entryAt_cases l' with heq | ⟨bytes, bytes', hfile, hfile'⟩
  · rw [heq]
  · simp [hfile, hfile']

theorem descend (h : SameBut l t t') (from' : Location) (parts : List String) :
    t'.descend from' parts = t.descend from' parts := by
  induction parts generalizing from' with
  | nil => rfl
  | cons part rest ih =>
    rw [FileTree.descend, FileTree.descend]
    rcases h.entryAt_cases (towards from' part) with heq | ⟨bytes, bytes', hfile, hfile'⟩
    · rw [heq]
      split
      · rfl
      · rfl
      · exact ih _
    · rw [hfile, hfile']

theorem locate (h : SameBut l t t') (p : Path) : t'.locate p = t.locate p := by
  have hstart : t'.start p = t.start p := by
    rw [start, start, h.here_eq]
  simp only [FileTree.locate, hstart, h.descend]

theorem isDirectory (h : SameBut l t t') (p : Path) : t'.isDirectory p = t.isDirectory p := by
  rw [Bool.eq_iff_iff]
  simp only [FileTree.isDirectory, beq_iff_eq, lookup, h.locate]
  split_ifs
  · rfl
  · cases t.locate p with
    | error reason => rfl
    | ok l' => exact h.entryAt_eq_directory_iff l'

/-! ### Changing -/

theorem put (h : SameBut l t t') {l' : Location} (hne : l' ≠ []) {e : Entry}
    (he : l' ≠ l ∨ ∃ bytes, e = .file bytes) : SameBut l (t.put l' e) (t'.put l' e) where
  here_eq := h.here_eq
  others k hk := by
    rw [entryAt_put hne, entryAt_put hne, h.others k hk]
  file := by
    rw [entryAt_put hne]
    split_ifs with hl
    · obtain ⟨bytes, rfl⟩ := he.resolve_left fun hne => hne hl.symm
      exact ⟨bytes, rfl⟩
    · exact h.file
  file' := by
    rw [entryAt_put hne]
    split_ifs with hl
    · obtain ⟨bytes, rfl⟩ := he.resolve_left fun hne => hne hl.symm
      exact ⟨bytes, rfl⟩
    · exact h.file'

theorem makeDirectory (h : SameBut l t t') (p : Path) :
    AlikeBut l (t.makeDirectory p) (t'.makeDirectory p) := by
  simp only [FileTree.makeDirectory, h.locate]
  split_ifs
  · exact .error _
  · cases t.locate p with
    | error reason => exact .error _
    | ok l' =>
      simp only [h.isSome_entryAt]
      split_ifs with hsome
      · exact .error _
      · have hnone : t.entryAt l' = none := by simpa using hsome
        have hnot : t.entryAt l' ≠ some .directory := by simp [hnone]
        refine .ok (h.put (ne_nil_of_entryAt hnot) (.inl ?_))
        rintro rfl
        obtain ⟨bytes, hfile⟩ := h.file
        simp [hfile] at hnone

theorem ensureDirectory (h : SameBut l t t') (p : Path) :
    AlikeBut l (t.ensureDirectory p) (t'.ensureDirectory p) := by
  have hm := h.makeDirectory p
  simp only [FileTree.ensureDirectory, h.isDirectory]
  generalize t.makeDirectory p = made, t'.makeDirectory p = made' at hm
  cases hm with
  | error fault =>
    simp only
    split_ifs
    · exact .ok h
    · exact .error fault
  | ok h' => exact .ok h'

theorem makeParents (h : SameBut l t t') (n : Nat) (p : Path) :
    (FileTree.makeParents n t' p).2 = (FileTree.makeParents n t p).2 ∧
      SameBut l (FileTree.makeParents n t p).1 (FileTree.makeParents n t' p).1 := by
  induction n generalizing p with
  | zero =>
    have he := h.ensureDirectory p
    simp only [FileTree.makeParents]
    generalize t.ensureDirectory p = made, t'.ensureDirectory p = made' at he
    cases he with
    | error fault => exact ⟨rfl, h⟩
    | ok h' => exact ⟨rfl, h'⟩
  | succ n ih =>
    have he := h.ensureDirectory p
    obtain ⟨hfault, hparent⟩ := ih p.parent
    simp only [FileTree.makeParents]
    generalize t.ensureDirectory p = made, t'.ensureDirectory p = made' at he
    generalize FileTree.makeParents n t p.parent = parents,
      FileTree.makeParents n t' p.parent = parents' at hfault hparent
    obtain ⟨t₁, fault₁⟩ := parents
    obtain ⟨t₁', fault₁'⟩ := parents'
    obtain rfl : fault₁' = fault₁ := hfault
    cases he with
    | ok h' => exact ⟨rfl, h'⟩
    | error fault =>
      split
      · contradiction
      · -- Nothing is there yet: the parent is made first, then the directory again.
        cases fault₁' with
        | some fault₁ => exact ⟨rfl, hparent⟩
        | none =>
          have hagain := hparent.ensureDirectory p
          simp only
          generalize t₁.ensureDirectory p = made, t₁'.ensureDirectory p = made' at hagain
          cases hagain with
          | error fault => exact ⟨rfl, hparent⟩
          | ok h' => exact ⟨rfl, h'⟩
      · exact ⟨rfl, h⟩

theorem makeDirectories (h : SameBut l t t') (p : Path) :
    (t'.makeDirectories p).2 = (t.makeDirectories p).2 ∧
      SameBut l (t.makeDirectories p).1 (t'.makeDirectories p).1 :=
  h.makeParents p.parts.length p

theorem writeFile (h : SameBut l t t') (p : Path) (bytes : List UInt8) :
    AlikeBut l (t.writeFile p bytes) (t'.writeFile p bytes) := by
  simp only [FileTree.writeFile, h.locate]
  split_ifs
  · exact .error _
  · cases t.locate p with
    | error reason => exact .error _
    | ok l' =>
      have hdir := h.entryAt_eq_directory_iff l'
      by_cases hnot : t.entryAt l' = some .directory
      · simp only [hnot, hdir.mpr hnot]
        exact .error _
      · have hnot' : t'.entryAt l' ≠ some .directory := fun heq => hnot (hdir.mp heq)
        simp only
        exact .ok (h.put (ne_nil_of_entryAt hnot) (.inr ⟨bytes, rfl⟩))

end SameBut

end DualToolchain.FileTree
