import DualToolchain.Proofs.FileTree.Changes

/-! Operations that are done again on the tree that they left. At every point of the repetition the
directories and files of the first time are there, and a file has the content that it had at that
point or the one that it was left with. So every path is found at its place again, directories are
there already, and where the last operation is repeated nothing has changed. -/

namespace DualToolchain.FileTree

variable {t t' t'' last s : FileTree} {p : Path}

/-! ### Entries that are written over -/

/-- The second list is the first one with other entries for some locations. Of a location only the
first entry counts; the others, and those of the locations in `seen`, are the same. -/
inductive Retouched : List Location → List (Location × Entry) → List (Location × Entry) → Prop where
  | nil (seen : List Location) : Retouched seen [] []
  | cons {seen : List Location} {l : Location} {e e' : Entry} {es es' : List (Location × Entry)}
      (shadowed : l ∈ seen → e' = e) (rest : Retouched (l :: seen) es es') :
      Retouched seen ((l, e) :: es) ((l, e') :: es')

namespace Retouched

variable {seen : List Location} {es es' : List (Location × Entry)}

theorem refl (seen : List Location) (es : List (Location × Entry)) : Retouched seen es es := by
  induction es generalizing seen with
  | nil => exact .nil seen
  | cons x es ih => exact .cons (fun _ => rfl) (ih (x.1 :: seen))

theorem setEntry {l : Location} (h : Retouched seen es es') (hseen : l ∉ seen)
    (hl : es'.lookup l ≠ none) (e : Entry) : Retouched seen es (setEntry l e es') := by
  induction h with
  | nil => exact absurd rfl hl
  | @cons seen k e₀ e₁ es es' shadowed rest ih =>
    rw [FileTree.setEntry]
    split_ifs with hk
    · subst hk
      exact .cons (fun hm => absurd hm hseen) rest
    · have hne : l ≠ k := fun heq => hk heq.symm
      rw [lookup_cons_eq, if_neg hne] at hl
      exact .cons shadowed (ih (List.not_mem_cons_of_ne_of_not_mem hne hseen) hl)

theorem eq_of_lookup (h : Retouched seen es es')
    (hl : ∀ l ∉ seen, es'.lookup l = es.lookup l) : es' = es := by
  induction h with
  | nil => rfl
  | @cons seen k e e' es es' shadowed rest ih =>
    have hfirst : e' = e := by
      by_cases hk : k ∈ seen
      · exact shadowed hk
      · simpa using hl k hk
    have hrest : es' = es := by
      refine ih fun l hnot => ?_
      obtain ⟨hne, hseen⟩ := List.ne_and_not_mem_of_not_mem_cons hnot
      simpa only [lookup_cons_eq, if_neg hne] using hl l hseen
    rw [hfirst, hrest]

end Retouched

/-! ### Trees with the same directories and files -/

/-- Directories stay directories and files stay files, with whatever content. -/
structure KeepsKinds (t t' : FileTree) : Prop where
  directories : KeepsDirectories t t'
  files : ∀ l bytes, t.entryAt l = some (.file bytes) →
    ∃ bytes', t'.entryAt l = some (.file bytes')

theorem KeepsKinds.refl (t : FileTree) : KeepsKinds t t :=
  ⟨.refl t, fun _ bytes hl => ⟨bytes, hl⟩⟩

theorem ChangesOnly.keepsKinds {among : Path → Prop} (h : ChangesOnly among t t') :
    KeepsKinds t t' :=
  ⟨h.keeps, h.stays⟩

theorem KeepsKinds.trans (h : KeepsKinds t t') (h' : KeepsKinds t' t'') : KeepsKinds t t'' where
  directories := h.directories.trans h'.directories
  files l bytes hl := by
    obtain ⟨bytes', hl'⟩ := h.files l bytes hl
    exact h'.files l bytes' hl'

/-- A point of a repetition. The first time the tree was `t` at this point and `last` in the end;
the second time, which began with `last`, it is `s`. -/
structure Repeats (last t s : FileTree) : Prop where
  kinds : KeepsKinds t last
  here_eq : s.here = last.here
  entries : Retouched [[]] last.entries s.entries
  entry : ∀ l, s.entryAt l = last.entryAt l ∨ t.entryAt l ≠ none ∧ s.entryAt l = t.entryAt l

namespace Repeats

theorem start (h : KeepsKinds t last) : Repeats last t last :=
  ⟨h, rfl, .refl _ _, fun _ => .inl rfl⟩

theorem keepsDirectories (h : Repeats last t s) : KeepsDirectories t s where
  here_eq := h.here_eq.trans h.kinds.directories.here_eq
  directory l hl := by
    rcases h.entry l with heq | ⟨-, heq⟩
    · exact heq.trans (h.kinds.directories.directory l hl)
    · exact heq.trans hl

/-- At the end of the repetition nothing has changed. -/
theorem eq (h : Repeats last last s) : s = last := by
  have hentry : ∀ l, s.entryAt l = last.entryAt l := fun l => (h.entry l).elim id (·.2)
  have hentries : s.entries = last.entries := by
    refine h.entries.eq_of_lookup fun l hl => ?_
    have hne : l ≠ [] := fun heq => hl (List.mem_singleton.mpr heq)
    simpa only [entryAt, if_neg hne] using hentry l
  obtain ⟨entries, here⟩ := s
  exact congrArg₂ FileTree.mk hentries h.here_eq

theorem of_addsDirectories (h : Repeats last t s) (ha : AddsDirectories t t')
    (hk : KeepsKinds t' last) : Repeats last t' s := by
  refine ⟨hk, h.here_eq, h.entries, fun l => ?_⟩
  rcases h.entry l with heq | ⟨hne, heq⟩
  · exact .inl heq
  · rcases ha l with hsame | ⟨hnone, -⟩
    · exact .inr ⟨hsame ▸ hne, heq.trans hsame.symm⟩
    · exact absurd hnone hne

end Repeats

theorem hasNul_of_makeDirectories (h : t.makeDirectories p = (t', none)) : p.hasNul = false := by
  rw [← Bool.not_eq_true]
  intro hnul
  have he : t.ensureDirectory p = .error .nulInPath := by
    simp [ensureDirectory, makeDirectory, isDirectory, lookup, hnul]
  rw [makeDirectories] at h
  cases hn : p.parts.length <;> simp [hn, makeParents, he] at h

namespace Repeats

theorem makeDirectories (h : Repeats last t s) (hm : t.makeDirectories p = (t', none))
    (hk : KeepsKinds t' last) : s.makeDirectories p = (s, none) ∧ Repeats last t' s := by
  have ha := makeDirectories_addsDirectories t p
  rw [hm] at ha
  have h' := h.of_addsDirectories ha hk
  obtain ⟨l, hl⟩ := makeDirectories_finds hm
  have hfound := (hl.keep h'.keepsDirectories).ensureDirectory (hasNul_of_makeDirectories hm)
  exact ⟨makeParents_of_ensureDirectory _ hfound, h'⟩

theorem writeFile {bytes : List UInt8} (h : Repeats last t s)
    (hw : t.writeFile p bytes = .ok t') (hk : KeepsKinds t' last) :
    ∃ s', s.writeFile p bytes = .ok s' ∧ Repeats last t' s' := by
  obtain ⟨hnul, l, hl, hnot, rfl⟩ := writeFile_eq_ok hw
  have hne := ne_nil_of_entryAt hnot
  have hfile : ∃ bytes', s.entryAt l = some (.file bytes') := by
    obtain ⟨bytes', hlast⟩ := hk.files l bytes (by rw [entryAt_put hne, if_pos rfl])
    rcases h.entry l with heq | ⟨hsome, heq⟩
    · exact ⟨bytes', heq.trans hlast⟩
    · rw [heq]
      match ht : t.entryAt l with
      | none => exact absurd ht hsome
      | some .directory => exact absurd ht hnot
      | some (.file bytes') => exact ⟨bytes', rfl⟩
  obtain ⟨bytes', hfile⟩ := hfile
  have hnot' : s.entryAt l ≠ some .directory := by simp [hfile]
  refine ⟨_, writeFile_of_locate hnul (h.keepsDirectories.locate hl) hnot' bytes, hk, h.here_eq,
    ?_, fun l' => ?_⟩
  · refine h.entries.setEntry (by simpa using hne) ?_ _
    rw [entryAt, if_neg hne] at hfile
    simp [hfile]
  · rw [entryAt_put hne, entryAt_put hne]
    split_ifs
    · exact .inr ⟨Option.some_ne_none _, rfl⟩
    · exact h.entry l'

end Repeats

end DualToolchain.FileTree
