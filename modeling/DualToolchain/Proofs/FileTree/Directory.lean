import DualToolchain.Proofs.FileTree
import DualToolchain.Proofs.Path
import Mathlib.Data.List.Induction

/-! Files that are written into one directory. A path below a directory is looked up from there on;
making directories leaves one where it was asked for, and no others but on the way there; and what
writers leave in a directory is told by the names and contents of the files they wrote, everything
else being as before. -/

namespace DualToolchain.FileTree

variable {t t' t'' : FileTree} {p q : Path}

/-! ### Paths below a directory -/

theorem descend_append (t : FileTree) (l : Location) (parts rest : List String) :
    t.descend l (parts ++ rest) = (t.descend l parts).bind fun l' => t.descend l' rest := by
  induction parts generalizing l with
  | nil => rfl
  | cons part parts ih =>
    rw [List.cons_append, descend, descend]
    split
    · rfl
    · rfl
    · exact ih _

/-- A path is looked up from its start through all of its components but the last. -/
theorem locate_of_parts {front : List String} {last : String} (h : p.parts = front ++ [last]) :
    t.locate p = (t.descend (t.start p) front).map (towards · last) := by
  rw [locate, h, List.getLast?_concat, List.dropLast_concat]

theorem descend_of_locate {l : Location} (hl : t.locate p = .ok l)
    (hdir : t.entryAt l = some .directory) : t.descend (t.start p) p.parts = .ok l := by
  rw [locate] at hl
  cases hlast : p.parts.getLast? with
  | none =>
    rw [hlast] at hl
    obtain rfl := Except.ok.inj hl
    rw [List.getLast?_eq_none_iff.mp hlast, descend]
  | some last =>
    rw [hlast] at hl
    obtain ⟨front, hparts⟩ := List.getLast?_eq_some_iff.mp hlast
    rw [hparts, List.dropLast_concat] at hl
    rw [hparts, descend_append]
    cases hd : t.descend (t.start p) front with
    | error reason =>
      rw [hd] at hl
      contradiction
    | ok l' =>
      rw [hd] at hl
      obtain rfl : towards l' last = l := Except.ok.inj hl
      simp only [Except.bind, descend, hdir]

theorem locate_join {l : Location} (hl : t.locate p = .ok l)
    (hdir : t.entryAt l = some .directory) (hq : q.root = .relative) {front : List String}
    {last : String} (hparts : q.parts = front ++ [last]) :
    t.locate (p.join q) = (t.descend l front).map (towards · last) := by
  have hstart : t.start (p.join q) = t.start p := by
    rw [Path.join_of_relative p hq, start, start]
  have hjoin : (p.join q).parts = p.parts ++ front ++ [last] := by
    rw [Path.join_of_relative p hq, hparts, List.append_assoc]
  rw [locate_of_parts hjoin, hstart, descend_append, descend_of_locate hl hdir]
  rfl

theorem locate_child {l : Location} (hl : t.locate p = .ok l)
    (hdir : t.entryAt l = some .directory) {name : String} (hname : Path.IsName name.toList) :
    t.locate (p.child name) = .ok (l ++ [name]) := by
  have hup : name ≠ ".." := by
    have h := hname.ne_up
    rwa [String.ofList_toList] at h
  have hparts : [name] = [] ++ [name] := rfl
  rw [Path.child, hname.ofString, locate_join hl hdir rfl hparts, descend]
  simp [Except.map, towards, hup]

/-! ### Making directories -/

theorem KeepsDirectories.refl (t : FileTree) : KeepsDirectories t t :=
  ⟨rfl, fun _ h => h⟩

theorem KeepsDirectories.trans (h : KeepsDirectories t t') (h' : KeepsDirectories t' t'') :
    KeepsDirectories t t'' :=
  ⟨h'.here_eq.trans h.here_eq, fun l hl => h'.directory l (h.directory l hl)⟩

def FindsDirectory (t : FileTree) (p : Path) (l : Location) : Prop :=
  t.locate p = .ok l ∧ t.entryAt l = some .directory

theorem FindsDirectory.keep {l : Location} (h : t.FindsDirectory p l)
    (hk : KeepsDirectories t t') : t'.FindsDirectory p l :=
  ⟨hk.locate h.1, hk.directory l h.2⟩

theorem FindsDirectory.eq {l l' : Location} (h : t.FindsDirectory p l)
    (h' : t.locate p = .ok l') : l' = l := by
  rw [h.1] at h'
  exact (Except.ok.inj h').symm

theorem exists_findsDirectory (h : t.isDirectory p = true) : ∃ l, t.FindsDirectory p l := by
  rw [isDirectory, beq_iff_eq, lookup] at h
  split_ifs at h
  split at h
  · exact ⟨_, ‹_›, h⟩
  · contradiction

/-- The directories of the first tree stay, and each new one is on the way to the path: it is found
under a path that this one starts with. -/
structure MakesWay (p : Path) (t t' : FileTree) : Prop where
  keeps : KeepsDirectories t t'
  made : ∀ l, t'.entryAt l = some .directory → t.entryAt l = some .directory ∨
    ∃ above : Path, above.root = p.root ∧ above.parts <+: p.parts ∧ t'.FindsDirectory above l

theorem MakesWay.refl (p : Path) (t : FileTree) : MakesWay p t t :=
  ⟨.refl t, fun _ h => .inl h⟩

theorem MakesWay.trans (h : MakesWay p t t') (h' : MakesWay p t' t'') : MakesWay p t t'' := by
  refine ⟨h.keeps.trans h'.keeps, fun l hl => ?_⟩
  rcases h'.made l hl with hl' | hnew
  · rcases h.made l hl' with hold | ⟨above, hroot, hparts, hfound⟩
    · exact .inl hold
    · exact .inr ⟨above, hroot, hparts, hfound.keep h'.keeps⟩
  · exact .inr hnew

theorem MakesWay.below (h : MakesWay p t t') (hroot : p.root = q.root)
    (hparts : p.parts <+: q.parts) : MakesWay q t t' := by
  refine ⟨h.keeps, fun l hl => (h.made l hl).imp_right ?_⟩
  rintro ⟨above, hr, hp, hfound⟩
  exact ⟨above, hr.trans hroot, hp.trans hparts, hfound⟩

theorem makesWay_put {l : Location} (hl : t.entryAt l ≠ some .directory) (bytes : List UInt8)
    (p : Path) : MakesWay p t (t.put l (.file bytes)) := by
  refine ⟨keepsDirectories_put hl _, fun l' hl' => ?_⟩
  rw [entryAt_put (ne_nil_of_entryAt hl)] at hl'
  split_ifs at hl'
  · simp at hl'
  · exact .inl hl'

theorem findsDirectory_put {l : Location} (hl : t.locate p = .ok l)
    (hnot : t.entryAt l ≠ some .directory) : (t.put l .directory).FindsDirectory p l := by
  refine ⟨(keepsDirectories_put hnot .directory).locate hl, ?_⟩
  rw [entryAt_put (ne_nil_of_entryAt hnot), if_pos rfl]

theorem makeDirectory_finds (h : t.makeDirectory p = .ok t') : ∃ l, t'.FindsDirectory p l := by
  obtain ⟨l, hl, hnone, rfl⟩ := makeDirectory_eq_ok h
  exact ⟨l, findsDirectory_put hl (by simp [hnone])⟩

theorem makeDirectory_makesWay (h : t.makeDirectory p = .ok t') : MakesWay p t t' := by
  obtain ⟨l, hl, hnone, rfl⟩ := makeDirectory_eq_ok h
  have hnot : t.entryAt l ≠ some .directory := by simp [hnone]
  refine ⟨keepsDirectories_put hnot _, fun l' hl' => ?_⟩
  rw [entryAt_put (ne_nil_of_entryAt hnot)] at hl'
  split_ifs at hl' with heq
  · obtain rfl := heq
    exact .inr ⟨p, rfl, List.prefix_rfl, findsDirectory_put hl hnot⟩
  · exact .inl hl'

theorem ensureDirectory_makesWay (h : t.ensureDirectory p = .ok t') : MakesWay p t t' := by
  unfold ensureDirectory at h
  split at h
  · rename_i hm
    obtain rfl := Except.ok.inj h
    exact makeDirectory_makesWay hm
  · split_ifs at h
    obtain rfl := Except.ok.inj h
    exact .refl p t

theorem makeParents_makesWay (n : Nat) (t : FileTree) (p : Path) :
    MakesWay p t (makeParents n t p).1 := by
  induction n generalizing p with
  | zero =>
    rw [makeParents]
    split
    · exact ensureDirectory_makesWay ‹_›
    · exact .refl p t
  | succ n ih =>
    rw [makeParents]
    split
    · exact ensureDirectory_makesWay ‹_›
    · have hp : MakesWay p t (makeParents n t p.parent).1 :=
        (ih p.parent).below rfl (List.dropLast_prefix p.parts)
      split
      · rename_i hparent
        rwa [hparent] at hp
      · rename_i hparent
        rw [hparent] at hp
        split
        · exact hp.trans (ensureDirectory_makesWay ‹_›)
        · exact hp
    · exact .refl p t

/-- Making a directory with its parents makes no others, also where it stops. -/
theorem makeDirectories_makesWay (t : FileTree) (p : Path) :
    MakesWay p t (t.makeDirectories p).1 :=
  makeParents_makesWay p.parts.length t p

theorem ensureDirectory_finds (h : t.ensureDirectory p = .ok t') :
    ∃ l, t'.FindsDirectory p l := by
  unfold ensureDirectory at h
  split at h
  · rename_i hm
    obtain rfl := Except.ok.inj h
    exact makeDirectory_finds hm
  · split_ifs at h with hdir
    obtain rfl := Except.ok.inj h
    exact exists_findsDirectory hdir

theorem makeParents_finds {n : Nat} (h : makeParents n t p = (t', none)) :
    ∃ l, t'.FindsDirectory p l := by
  cases n with
  | zero =>
    rw [makeParents] at h
    split at h
    · obtain ⟨rfl, -⟩ := Prod.mk.inj h
      exact ensureDirectory_finds ‹_›
    · simp at h
  | succ n =>
    rw [makeParents] at h
    split at h
    · obtain ⟨rfl, -⟩ := Prod.mk.inj h
      exact ensureDirectory_finds ‹_›
    · split at h
      · simp at h
      · split at h
        · obtain ⟨rfl, -⟩ := Prod.mk.inj h
          exact ensureDirectory_finds ‹_›
        · simp at h
    · simp at h

/-- Making a directory with its parents leaves a directory at the path, unless it fails. -/
theorem makeDirectories_finds (h : t.makeDirectories p = (t', none)) :
    ∃ l, t'.FindsDirectory p l :=
  makeParents_finds h

theorem ensureDirectory_of_none (hnul : p.hasNul = false) {l : Location} (hl : t.locate p = .ok l)
    (hnone : t.entryAt l = none) : t.ensureDirectory p = .ok (t.put l .directory) := by
  simp [ensureDirectory, makeDirectory, hnul, hl, hnone]

theorem FindsDirectory.isDirectory {l : Location} (h : t.FindsDirectory p l)
    (hnul : p.hasNul = false) : t.isDirectory p = true := by
  simp [FileTree.isDirectory, lookup, hnul, h.1, h.2]

theorem FindsDirectory.ensureDirectory {l : Location} (h : t.FindsDirectory p l)
    (hnul : p.hasNul = false) : t.ensureDirectory p = .ok t := by
  simp [FileTree.ensureDirectory, makeDirectory, hnul, h.1, h.2, h.isDirectory hnul]

theorem makeParents_of_ensureDirectory (n : Nat) (h : t.ensureDirectory p = .ok t') :
    makeParents n t p = (t', none) := by
  cases n <;> simp only [makeParents, h]

/-! ### Trees of directories -/

/-- Every entry lies in a directory. -/
def IsClosed (t : FileTree) : Prop :=
  ∀ (l : Location) (name : String), t.entryAt (l ++ [name]) ≠ none →
    t.entryAt l = some .directory

theorem isClosed_empty : FileTree.empty.IsClosed := by
  intro l name h
  simp [entryAt, FileTree.empty] at h

theorem IsClosed.entryAt_below (h : t.IsClosed) {l : Location} (hl : t.entryAt l = none)
    (names : List String) : t.entryAt (l ++ names) = none := by
  induction names using List.reverseRecOn with
  | nil => rwa [List.append_nil]
  | append_singleton names name ih =>
    rw [← List.append_assoc]
    by_contra hne
    rw [h _ name hne] at ih
    contradiction

theorem IsClosed.directory_above (h : t.IsClosed) {l : Location} {names : List String}
    (hdir : t.entryAt (l ++ names) = some .directory) : t.entryAt l = some .directory := by
  induction names using List.reverseRecOn with
  | nil => rwa [List.append_nil] at hdir
  | append_singleton names name ih =>
    rw [← List.append_assoc] at hdir
    exact ih (h _ name (by rw [hdir]; exact Option.some_ne_none _))

/-- Nothing is at the path yet, and its parent is a directory. -/
def IsVacant (t : FileTree) (p : Path) : Prop :=
  t.isDirectory p.parent = true ∧ t.lookup p = none

theorem descend_parts {l : Location} (hl : t.locate p = .ok l) (hne : p.parts ≠ []) :
    t.descend (t.start p) p.parts =
      match t.entryAt l with
      | none => .error .notFound
      | some (.file _) => .error .notDirectory
      | some .directory => .ok l := by
  obtain ⟨front, last, hparts⟩ : ∃ front last, p.parts = front ++ [last] :=
    ⟨_, _, (List.dropLast_concat_getLast hne).symm⟩
  rw [locate_of_parts hparts] at hl
  rw [hparts, descend_append]
  cases hd : t.descend (t.start p) front with
  | error reason =>
    rw [hd] at hl
    contradiction
  | ok l' =>
    rw [hd] at hl
    obtain rfl : towards l' last = l := Except.ok.inj hl
    rfl

/-- A vacant path has a location, with nothing at or below it. -/
theorem IsVacant.exists_locate (h : t.IsVacant p) (hc : t.IsClosed) (hnul : p.hasNul = false) :
    p.parts ≠ [] ∧ ∃ l, t.locate p = .ok l ∧ ∀ names, t.entryAt (l ++ names) = none := by
  obtain ⟨hparent, hlookup⟩ := h
  have hne : p.parts ≠ [] := by
    intro hnil
    have hself : p.parent = p := by
      obtain ⟨root, parts⟩ := p
      obtain rfl : parts = [] := hnil
      rfl
    rw [hself, isDirectory, hlookup] at hparent
    simp at hparent
  obtain ⟨above, habove⟩ := exists_findsDirectory hparent
  obtain ⟨front, last, hparts⟩ : ∃ front last, p.parts = front ++ [last] :=
    ⟨_, _, (List.dropLast_concat_getLast hne).symm⟩
  have hwalk := descend_of_locate habove.1 habove.2
  have hlocate : t.locate p = .ok (towards above last) := by
    rw [Path.parent, hparts, List.dropLast_concat] at hwalk
    have hstart : t.start ⟨p.root, front⟩ = t.start p := rfl
    rw [hstart] at hwalk
    rw [locate_of_parts hparts, hwalk]
    rfl
  refine ⟨hne, _, hlocate, hc.entryAt_below ?_⟩
  simpa [lookup, hnul, hlocate] using hlookup

/-! ### Directories without subdirectories -/

/-- The directory that the path leads to, if it does, holds no directories. -/
def HasNoSubdirectories (t : FileTree) (p : Path) : Prop :=
  ∀ l, t.FindsDirectory p l → ∀ name, t.entryAt (l ++ [name]) ≠ some .directory

theorem HasNoSubdirectories.of_keeps (h : t'.HasNoSubdirectories p)
    (hk : KeepsDirectories t t') : t.HasNoSubdirectories p :=
  fun l hl name hdir => h l (hl.keep hk) name (hk.directory _ hdir)

/-- It is enough to look at the entries of the tree. -/
theorem hasNoSubdirectories_of_entries {l : Location} (hl : t.locate p = .ok l)
    (h : ∀ e ∈ t.entries, e.2 = .directory → e.1.dropLast ≠ l) : t.HasNoSubdirectories p := by
  intro l' hl' name hdir
  obtain rfl := hl'.eq hl
  rw [entryAt, if_neg (by simp), List.lookup_eq_some_iff] at hdir
  obtain ⟨before, after, hentries, -⟩ := hdir
  refine h (l ++ [name], .directory) ?_ rfl List.dropLast_concat
  rw [hentries]
  simp

/-! ### Paths that never lead up -/

theorem descend_eq {l l' : Location} {parts : List String} (hup : ".." ∉ parts)
    (h : t.descend l parts = .ok l') : l' = l ++ parts := by
  induction parts generalizing l with
  | nil =>
    obtain rfl := Except.ok.inj h
    exact (List.append_nil l).symm
  | cons part rest ih =>
    obtain ⟨hpart, hrest⟩ := List.ne_and_not_mem_of_not_mem_cons hup
    rw [descend, towards, if_neg hpart.symm] at h
    split at h
    · contradiction
    · contradiction
    · rw [ih hrest h, List.append_assoc, List.singleton_append]

theorem FindsDirectory.eq_append {l : Location} (h : t.FindsDirectory p l) (hup : ".." ∉ p.parts) :
    l = t.start p ++ p.parts :=
  descend_eq hup (descend_of_locate h.1 h.2)

theorem IsClosed.descend (h : t.IsClosed) {l : Location} {parts : List String}
    (hup : ".." ∉ parts) (hdir : t.entryAt (l ++ parts) = some .directory) :
    t.descend l parts = .ok (l ++ parts) := by
  induction parts generalizing l with
  | nil => rw [FileTree.descend, List.append_nil]
  | cons part rest ih =>
    obtain ⟨hpart, hrest⟩ := List.ne_and_not_mem_of_not_mem_cons hup
    rw [← List.singleton_append, ← List.append_assoc] at hdir ⊢
    have hpartdir := h.directory_above hdir
    rw [List.singleton_append, FileTree.descend, towards, if_neg hpart.symm, hpartdir]
    exact ih hrest hdir

theorem IsClosed.findsDirectory (h : t.IsClosed) (hup : ".." ∉ p.parts)
    (hdir : t.entryAt (t.start p ++ p.parts) = some .directory) :
    t.FindsDirectory p (t.start p ++ p.parts) := by
  refine ⟨?_, hdir⟩
  rw [locate]
  cases hlast : p.parts.getLast? with
  | none => rw [List.getLast?_eq_none_iff.mp hlast, List.append_nil]
  | some last =>
    obtain ⟨front, hparts⟩ := List.getLast?_eq_some_iff.mp hlast
    rw [hparts] at hup hdir ⊢
    obtain ⟨hfront, hmem⟩ := not_or.mp (mt List.mem_append.mpr hup)
    have hne : last ≠ ".." := fun heq => hmem (List.mem_singleton.mpr heq.symm)
    rw [← List.append_assoc] at hdir ⊢
    rw [List.dropLast_concat, h.descend hfront (h.directory_above hdir)]
    simp only [Except.map, towards, if_neg hne]

theorem MakesWay.hasNoSubdirectories (h : MakesWay p t t') (hc : t.IsClosed)
    (hup : ".." ∉ p.parts) (hflat : t.HasNoSubdirectories p) : t'.HasNoSubdirectories p := by
  intro l hl name hdir
  have hstart : t'.start p = t.start p := by simp only [start, h.keeps.here_eq]
  obtain rfl := hl.eq_append hup
  rw [hstart] at hdir
  rcases h.made _ hdir with hold | ⟨above, hroot, hparts, hfound⟩
  · exact hflat _ (hc.findsDirectory hup (hc.directory_above hold)) name hold
  · have heq := hfound.eq_append fun hm => hup (hparts.subset hm)
    have hlen := hparts.length_le
    have hstart' : t'.start above = t.start p := by simp only [start, h.keeps.here_eq, hroot]
    rw [hstart', List.append_assoc, List.append_right_inj] at heq
    rw [← heq, List.length_append, List.length_singleton] at hlen
    omega

/-! ### Writing files into a directory -/

/-- The second tree is the first one with the listed files, by name and content, in the directory
that the path leads to. Directories may have been made on the way there; all other files are as
before. -/
structure WritesInto (p : Path) (written : List (String × List UInt8)) (t t' : FileTree) :
    Prop where
  way : MakesWay p t t'
  found : written ≠ [] → ∃ l, t'.FindsDirectory p l
  stored : ∀ l, t'.locate p = .ok l → ∀ w ∈ written, t'.entryAt (l ++ [w.1]) = some (.file w.2)
  others : ∀ l bytes, (∀ dir, t'.locate p = .ok dir → ∀ w ∈ written, l ≠ dir ++ [w.1]) →
    (t'.entryAt l = some (.file bytes) ↔ t.entryAt l = some (.file bytes))

theorem WritesInto.of_addsDirectories (h : AddsDirectories t t') (hw : MakesWay p t t') :
    WritesInto p [] t t' where
  way := hw
  found h := absurd rfl h
  stored _ _ w hw := by simp at hw
  others l bytes _ := h.entryAt_eq_file_iff l bytes

theorem WritesInto.refl (p : Path) (t : FileTree) : WritesInto p [] t t :=
  .of_addsDirectories (.refl t) (.refl p t)

theorem WritesInto.put {l : Location} (hl : t.FindsDirectory p l) {name : String}
    (hname : t.entryAt (l ++ [name]) ≠ some .directory) (bytes : List UInt8) :
    WritesInto p [(name, bytes)] t (t.put (l ++ [name]) (.file bytes)) := by
  have hk := keepsDirectories_put hname (.file bytes)
  have hne := ne_nil_of_entryAt hname
  have hfound := hl.keep hk
  refine ⟨makesWay_put hname bytes p, fun _ => ⟨l, hfound⟩, ?_, ?_⟩
  · intro l' hl' w hw
    obtain rfl := hfound.eq hl'
    obtain rfl := List.mem_singleton.mp hw
    rw [entryAt_put hne, if_pos rfl]
  · intro l' bytes' hl'
    rw [entryAt_put hne, if_neg (hl' l hfound.1 _ List.mem_cons_self)]

/-- Writes one after the other, to files of different names. -/
theorem WritesInto.trans {w w' : List (String × List UInt8)} (h : WritesInto p w t t')
    (h' : WritesInto p w' t' t'') (hdisj : ∀ x ∈ w, ∀ y ∈ w', x.1 ≠ y.1) :
    WritesInto p (w ++ w') t t'' where
  way := h.way.trans h'.way
  found hne := by
    by_cases hw' : w' = []
    · subst hw'
      obtain ⟨l, hl⟩ := h.found (by simpa using hne)
      exact ⟨l, hl.keep h'.way.keeps⟩
    · exact h'.found hw'
  stored l hl x hx := by
    rcases List.mem_append.mp hx with hx | hx
    · obtain ⟨l', hl'⟩ := h.found (List.ne_nil_of_mem hx)
      obtain rfl := (hl'.keep h'.way.keeps).eq hl
      refine (h'.others _ _ fun dir hdir y hy heq => ?_).mpr (h.stored l hl'.1 x hx)
      obtain rfl := (hl'.keep h'.way.keeps).eq hdir
      exact hdisj x hx y hy (by simpa using heq)
    · exact h'.stored l hl x hx
  others l bytes hl := by
    refine (h'.others l bytes fun dir hdir y hy => ?_).trans
      (h.others l bytes fun dir hdir x hx => ?_)
    · exact hl dir hdir y (List.mem_append_right w hy)
    · exact hl dir (h'.way.keeps.locate hdir) x (List.mem_append_left w' hx)

end DualToolchain.FileTree
