import DualToolchain.Proofs.Receipt.RoundTrip
import DualToolchain.Proofs.RunDirectory.Streams

/-! A directory that belongs to one run: nothing was there before. The run's writers then meet no
directory and no file but their own, so the only thing that can stand in the way of a log is its
name, and nothing can stand in the way of the receipt. -/

namespace DualToolchain.RunDirectory

open FileTree

variable {t files : FileTree} {dir : Path} {l : Location} {stem : String}

/-- At the place of the directory and below it, the only directories are those of the run: itself
and the one of the logs. Nothing else is in their place. -/
structure IsOwn (t : FileTree) (dir : Path) (l : Location) : Prop where
  hasNul : dir.hasNul = false
  parts_ne : dir.parts ≠ []
  located : t.locate dir = .ok l
  directories : ∀ names, t.entryAt (l ++ names) = some .directory → names = [] ∨ names = ["logs"]
  free : ∀ names, names = [] ∨ names = ["logs"] →
    t.entryAt (l ++ names) = none ∨ t.entryAt (l ++ names) = some .directory

theorem exists_isOwn (hv : t.IsVacant dir) (hc : t.IsClosed) (hnul : dir.hasNul = false) :
    ∃ l, IsOwn t dir l := by
  obtain ⟨hne, l, hl, hnone⟩ := hv.exists_locate hc hnul
  refine ⟨l, hnul, hne, hl, fun names h => ?_, fun names _ => .inl (hnone names)⟩
  rw [hnone] at h
  contradiction

namespace IsOwn

/-- An entry in place of no directory leaves the directory the run's own if it is a directory
exactly where the run has one. -/
theorem put (h : IsOwn t dir l) {names : List String} {e : Entry}
    (hnot : t.entryAt (l ++ names) ≠ some .directory)
    (he : e = .directory ↔ names = [] ∨ names = ["logs"]) :
    IsOwn (t.put (l ++ names) e) dir l := by
  have hput : ∀ names', (t.put (l ++ names) e).entryAt (l ++ names') =
      if names' = names then some e else t.entryAt (l ++ names') := by
    intro names'
    simp only [entryAt_put (ne_nil_of_entryAt hnot), List.append_right_inj]
  refine ⟨h.hasNul, h.parts_ne, (keepsDirectories_put hnot e).locate h.located, ?_, ?_⟩
  · intro names' hdir
    rw [hput] at hdir
    split_ifs at hdir with heq
    · rw [heq]
      exact he.mp (Option.some.inj hdir)
    · exact h.directories names' hdir
  · intro names' hown
    rw [hput]
    split_ifs with heq
    · exact .inr (congrArg some (he.mpr (heq ▸ hown)))
    · exact h.free names' hown

/-! ### The directories of the run -/

theorem ensureDirectory (h : IsOwn t dir l) {p : Path} {names : List String}
    (hown : names = [] ∨ names = ["logs"]) (hp : t.locate p = .ok (l ++ names))
    (hnul : p.hasNul = false) :
    ∃ t', t.ensureDirectory p = .ok t' ∧ IsOwn t' dir l ∧ KeepsDirectories t t' ∧
      t'.FindsDirectory p (l ++ names) := by
  rcases h.free names hown with he | he
  · have hnot : t.entryAt (l ++ names) ≠ some .directory := by simp [he]
    exact ⟨_, ensureDirectory_of_none hnul hp he, h.put hnot (by simp [hown]),
      keepsDirectories_put hnot .directory, findsDirectory_put hp hnot⟩
  · have hfound : t.FindsDirectory p (l ++ names) := ⟨hp, he⟩
    exact ⟨t, hfound.ensureDirectory hnul, h, .refl t, hfound⟩

theorem makeDirectories_dir (h : IsOwn t dir l) :
    ∃ t', t.makeDirectories dir = (t', none) ∧ IsOwn t' dir l ∧ t'.FindsDirectory dir l := by
  have hl : t.locate dir = .ok (l ++ []) := by rw [List.append_nil, h.located]
  obtain ⟨t', ht', hown, -, hfound⟩ := h.ensureDirectory (.inl rfl) hl h.hasNul
  rw [List.append_nil] at hfound
  exact ⟨t', makeParents_of_ensureDirectory _ ht', hown, hfound⟩

theorem hasNul_logsDir (h : IsOwn t dir l) : (logsDir dir).hasNul = false := by
  rw [logsDir, Path.child, Path.hasNul_join dir (by rw [isName_logs.ofString]), h.hasNul]
  decide

theorem locate_logsDir (t : FileTree) (dir : Path) :
    t.locate (logsDir dir) = (t.descend (t.start dir) dir.parts).map (towards · "logs") := by
  have hparts : (logsDir dir).parts = dir.parts ++ ["logs"] := by rw [logsDir_eq]
  rw [locate_of_parts hparts, logsDir_eq]
  rfl

theorem makeDirectories_logsDir (h : IsOwn t dir l) :
    ∃ t', t.makeDirectories (logsDir dir) = (t', none) ∧ IsOwn t' dir l ∧
      t'.FindsDirectory (logsDir dir) (l ++ ["logs"]) := by
  have hparts : (logsDir dir).parts.length = dir.parts.length + 1 := by
    rw [logsDir_eq, List.length_append, List.length_singleton]
  have hparent : (logsDir dir).parent = dir := by
    rw [logsDir_eq, Path.parent, List.dropLast_concat]
  have hfrom : ∀ {t}, IsOwn t dir l → t.FindsDirectory dir l → ∃ t',
      t.ensureDirectory (logsDir dir) = .ok t' ∧ IsOwn t' dir l ∧ KeepsDirectories t t' ∧
        t'.FindsDirectory (logsDir dir) (l ++ ["logs"]) := by
    intro t h hdir
    exact h.ensureDirectory (.inr rfl) (locate_child hdir.1 hdir.2 isName_logs) h.hasNul_logsDir
  have he := h.free [] (.inl rfl)
  rw [List.append_nil] at he
  rcases he with he | he
  · -- The first attempt finds no directory to make the other one in.
    have hmissing : t.ensureDirectory (logsDir dir) =
        .error (.refused .notFound (logsDir dir)) := by
      have hlocate : t.locate (logsDir dir) = .error .notFound := by
        rw [locate_logsDir, descend_parts h.located h.parts_ne, he]
        rfl
      simp [FileTree.ensureDirectory, makeDirectory, isDirectory, lookup, h.hasNul_logsDir, hlocate]
    obtain ⟨t₁, hm, h₁, hfound⟩ := h.makeDirectories_dir
    obtain ⟨t₂, hm₂, h₂, -, hfound₂⟩ := hfrom h₁ hfound
    refine ⟨t₂, ?_, h₂, hfound₂⟩
    rw [makeDirectories] at hm ⊢
    rw [hparts, makeParents, hmissing, hparent]
    simp only [hm, hm₂]
  · obtain ⟨t', ht', hown, -, hfound⟩ := hfrom h ⟨h.located, he⟩
    exact ⟨t', makeParents_of_ensureDirectory _ ht', hown, hfound⟩

theorem hasNoSubdirectories (h : IsOwn t dir l) : t.HasNoSubdirectories (logsDir dir) := by
  intro l' hl' name hdir
  have hlocate := hl'.1
  rw [locate_logsDir, descend_parts h.located h.parts_ne] at hlocate
  split at hlocate
  · contradiction
  · contradiction
  · obtain rfl : l ++ ["logs"] = l' := Except.ok.inj hlocate
    rw [List.append_assoc] at hdir
    have hnames := h.directories _ hdir
    simp at hnames

/-! ### The writers -/

theorem writeStream (h : IsOwn files dir l)
    (hlogs : files.FindsDirectory (logsDir dir) (l ++ ["logs"])) (hstem : IsStem stem) (s : Stream)
    (content : String) :
    IsOwn (writeStream files dir (stem ++ s.ending) content).files dir l ∧
    ((content ≠ "" → IsPlain stem) →
      ∃ path, (writeStream files dir (stem ++ s.ending) content).result = .ok path) := by
  have hflat := h.hasNoSubdirectories _ hlogs
  rcases writeStream_cases hlogs hflat hstem s content with
    ⟨-, hw⟩ | ⟨-, -, hw⟩ | ⟨hc, fault, hfault, hw⟩
  · rw [hw]
    exact ⟨h, fun _ => ⟨_, rfl⟩⟩
  · rw [hw]
    refine ⟨?_, fun _ => ⟨_, rfl⟩⟩
    have hnot := hflat (stem ++ s.ending)
    rw [List.append_assoc] at hnot ⊢
    exact h.put hnot (by simp)
  · rw [hw]
    refine ⟨h, fun hplain => ?_⟩
    obtain ⟨files', hok⟩ :=
      writeFile_logs_of_plain hlogs hflat hstem h.hasNul (hplain hc) s (Utf8.encode content)
    rw [hfault] at hok
    contradiction

theorem writeLogs (h : IsOwn files dir l) (hstem : IsStem stem) (stdout stderr : String) :
    IsOwn (writeLogs files dir stem stdout stderr).files dir l ∧
    (IsPlain stem → ∃ paths, (writeLogs files dir stem stdout stderr).result = .ok paths) := by
  obtain ⟨files₁, hm, h₁, hlogs⟩ := h.makeDirectories_logsDir
  obtain ⟨hout, hook⟩ := h₁.writeStream hlogs hstem .stdout stdout
  have hkeeps := writeStream_makesWay files₁ dir (stem ++ Stream.stdout.ending) stdout
  rw [Stream.ending] at hout hook hkeeps
  rw [RunDirectory.writeLogs, hm]
  simp only
  rcases ho : RunDirectory.writeStream files₁ dir (stem ++ ".stdout") stdout with
    ⟨files₂, fault | out⟩
  · rw [ho] at hout hook
    refine ⟨hout, fun hplain => ?_⟩
    obtain ⟨path, hpath⟩ := hook fun _ => hplain
    contradiction
  · rw [ho] at hout hkeeps
    obtain ⟨herr, heok⟩ := hout.writeStream (hlogs.keep hkeeps.keeps) hstem .stderr stderr
    rw [Stream.ending] at herr heok
    simp only
    rcases he : RunDirectory.writeStream files₂ dir (stem ++ ".stderr") stderr with
      ⟨files₃, fault | err⟩
    · rw [he] at herr heok
      refine ⟨herr, fun hplain => ?_⟩
      obtain ⟨path, hpath⟩ := heok fun _ => hplain
      contradiction
    · rw [he] at herr
      exact ⟨herr, fun _ => ⟨_, rfl⟩⟩

theorem writeReceipt (h : IsOwn files dir l) (r : Receipt) :
    ∃ path, (writeReceipt files dir r).result = .ok path := by
  obtain ⟨files', hm, hown, hdir⟩ := h.makeDirectories_dir
  have hlocate := locate_child hdir.1 hdir.2 isName_receiptName
  have hnul : (dir.child receiptName).hasNul = false := by
    rw [hasNul_receipt, h.hasNul]
  have hnot : files'.entryAt (l ++ [receiptName]) ≠ some .directory := fun he =>
    absurd (hown.directories [receiptName] he) (by decide)
  have hw := writeFile_of_locate hnul hlocate hnot (Utf8.encode r.document)
  exact ⟨dir.child receiptName, by simp only [RunDirectory.writeReceipt, hm, hw]⟩

end IsOwn

end DualToolchain.RunDirectory
