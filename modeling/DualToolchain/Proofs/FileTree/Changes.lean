import DualToolchain.Proofs.FileTree.Directory

/-! Where files change. What writers do to a tree is told by the paths of the files they may write:
directories stay, files stay files, and a file that is new or has another content is found under one
of these paths. -/

namespace DualToolchain.FileTree

variable {t t' t'' : FileTree} {among among' : Path → Prop} {p : Path}

/-- Only the files that certain paths lead to are new or have another content. -/
structure ChangesOnly (among : Path → Prop) (t t' : FileTree) : Prop where
  keeps : KeepsDirectories t t'
  changed : ∀ l bytes, t'.entryAt l = some (.file bytes) →
    t.entryAt l = some (.file bytes) ∨ ∃ p, among p ∧ t'.locate p = .ok l
  stays : ∀ l bytes, t.entryAt l = some (.file bytes) →
    ∃ bytes', t'.entryAt l = some (.file bytes')

namespace ChangesOnly

theorem of_addsDirectories (h : AddsDirectories t t') (hk : KeepsDirectories t t') :
    ChangesOnly among t t' where
  keeps := hk
  changed l bytes hl := .inl ((h.entryAt_eq_file_iff l bytes).mp hl)
  stays l bytes hl := ⟨bytes, (h.entryAt_eq_file_iff l bytes).mpr hl⟩

theorem refl (among : Path → Prop) (t : FileTree) : ChangesOnly among t t :=
  of_addsDirectories (.refl t) (.refl t)

theorem mono (h : ChangesOnly among t t') (hsub : ∀ p, among p → among' p) :
    ChangesOnly among' t t' where
  keeps := h.keeps
  changed l bytes hl := (h.changed l bytes hl).imp_right fun ⟨p, hp, hloc⟩ => ⟨p, hsub p hp, hloc⟩
  stays := h.stays

theorem trans (h : ChangesOnly among t t') (h' : ChangesOnly among t' t'') :
    ChangesOnly among t t'' where
  keeps := h.keeps.trans h'.keeps
  changed l bytes hl := by
    rcases h'.changed l bytes hl with hl' | hnew
    · rcases h.changed l bytes hl' with hold | ⟨p, hp, hloc⟩
      · exact .inl hold
      · exact .inr ⟨p, hp, h'.keeps.locate hloc⟩
    · exact .inr hnew
  stays l bytes hl := by
    obtain ⟨bytes', hl'⟩ := h.stays l bytes hl
    exact h'.stays l bytes' hl'

theorem of_writeFile {bytes : List UInt8} (h : t.writeFile p bytes = .ok t') :
    ChangesOnly (· = p) t t' := by
  obtain ⟨-, l, hl, hnot, rfl⟩ := writeFile_eq_ok h
  have hne := ne_nil_of_entryAt hnot
  have hk := keepsDirectories_put hnot (.file bytes)
  refine ⟨hk, fun l' bytes' hl' => ?_, fun l' bytes' hl' => ?_⟩
  · rw [entryAt_put hne] at hl'
    split_ifs at hl' with heq
    · exact .inr ⟨p, rfl, heq ▸ hk.locate hl⟩
    · exact .inl hl'
  · rw [entryAt_put hne]
    split_ifs
    · exact ⟨bytes, rfl⟩
    · exact ⟨bytes', hl'⟩

end ChangesOnly

/-! ### The directory of a path that is found -/

/-- A walk through all components of a path ends at a directory, which is where the path leads. -/
theorem findsDirectory_of_descend {l : Location} (hne : p.parts ≠ [])
    (h : t.descend (t.start p) p.parts = .ok l) : t.FindsDirectory p l := by
  obtain ⟨front, last, hparts⟩ : ∃ front last, p.parts = front ++ [last] :=
    ⟨_, _, (List.dropLast_concat_getLast hne).symm⟩
  rw [hparts, descend_append] at h
  cases hd : t.descend (t.start p) front with
  | error reason =>
    rw [hd] at h
    contradiction
  | ok l' =>
    rw [hd] at h
    simp only [Except.bind, descend] at h
    split at h
    · contradiction
    · contradiction
    · rename_i hdir
      obtain rfl := Except.ok.inj h
      refine ⟨?_, hdir⟩
      rw [locate_of_parts hparts, hd]
      rfl

/-- A path below another one by a single name is found in the directory that this one leads to. -/
theorem locate_child_inv {name : String} (hname : Path.IsName name.toList) (hne : p.parts ≠ [])
    {l : Location} (h : t.locate (p.child name) = .ok l) :
    ∃ dir, t.FindsDirectory p dir ∧ l = dir ++ [name] := by
  have hup : name ≠ ".." := by
    have h := hname.ne_up
    rwa [String.ofList_toList] at h
  have hstart : t.start (p.child name) = t.start p := by
    rw [Path.child, hname.ofString, Path.join_of_relative p rfl, start, start]
  have hparts : (p.child name).parts = p.parts ++ [name] := by
    rw [Path.child, hname.ofString, Path.join_of_relative p rfl]
  rw [locate_of_parts hparts, hstart] at h
  cases hd : t.descend (t.start p) p.parts with
  | error reason =>
    rw [hd] at h
    contradiction
  | ok dir =>
    rw [hd] at h
    obtain rfl : towards dir name = l := Except.ok.inj h
    exact ⟨dir, findsDirectory_of_descend hne hd, by rw [towards, if_neg hup]⟩

end DualToolchain.FileTree
