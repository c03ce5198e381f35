import DualToolchain.Proofs.RunDirectory.Streams

/-! The logs of one call, whatever its stem is made of: slashes, dots and double dots may lead the
file of a stream anywhere in the tree. Both streams are looked up through the same directories and
have different endings, so neither write touches the file of the other one, and the path that is
given back is the way from the run's directory to the very file. -/

namespace DualToolchain.RunDirectory

open FileTree

variable {t files files' : FileTree} {dir : Path} {l : Location} {stem content : String}

/-! ### Where the files are -/

def logPath (dir : Path) (stem : String) (s : Stream) : Path :=
  (logsDir dir).child (stem ++ s.ending)

/-- The path as seen from the directory of the run. -/
def logWay (stem : String) (s : Stream) : Path :=
  ⟨.relative, "logs" :: (Path.ofString (stem ++ s.ending)).parts⟩

theorem root_stream (hstem : (Path.ofString stem).root = .relative) (s : Stream) :
    (Path.ofString (stem ++ s.ending)).root = .relative :=
  Path.root_ofString_append hstem s.slash_notMem_ending

theorem logPath_eq_join (hstem : (Path.ofString stem).root = .relative) (dir : Path) (s : Stream) :
    logPath dir stem s = dir.join (logWay stem s) := by
  rw [logPath, logsDir_eq, Path.child, Path.join_of_relative _ (root_stream hstem s), logWay,
    Path.join_of_relative _ rfl, List.append_assoc, List.singleton_append]

theorem child_logWay (hstem : (Path.ofString stem).root = .relative) (dir : Path) (s : Stream) :
    dir.child (logWay stem s).toString = logPath dir stem s := by
  have hparts : ∀ part ∈ "logs" :: (Path.ofString (stem ++ s.ending)).parts, Path.IsPart part :=
    List.forall_mem_cons.mpr ⟨by decide, fun _ => Path.isPart_of_mem_parts⟩
  rw [Path.child, logWay, Path.ofString_toString hparts, logPath_eq_join hstem, logWay]

/-- The files of both streams are looked up in the same directory, under different names. -/
theorem locate_logPath (hstem : (Path.ofString stem).root = .relative) (t : FileTree) (dir : Path) :
    ∃ (found : Except Refusal Location) (last : String), ∀ s : Stream,
      t.locate (logPath dir stem s) = found.map (· ++ [last ++ s.ending]) := by
  obtain ⟨front, last, hparts⟩ := Path.exists_parts_append stem
  refine ⟨t.descend (t.start dir) (dir.parts ++ "logs" :: front), last, fun s => ?_⟩
  have hlast : (logPath dir stem s).parts =
      (dir.parts ++ "logs" :: front) ++ [last ++ s.ending] := by
    rw [logPath_eq_join hstem, Path.join_of_relative dir rfl, logWay,
      hparts s.ending s.slash_notMem_ending (by rw [s.length_ending]; decide), List.append_assoc,
      List.cons_append]
  have hstart : t.start (logPath dir stem s) = t.start dir := by
    rw [logPath_eq_join hstem, Path.join_of_relative dir rfl, start, start]
  have hup : last ++ s.ending ≠ ".." := by
    intro heq
    have hlen := congrArg (fun name : String => name.toList.length) heq
    simp only [String.toList_append, List.length_append, s.length_ending] at hlen
    have hdots : "..".toList.length = 2 := rfl
    omega
  rw [locate_of_parts hlast, hstart]
  simp only [towards, if_neg hup]

theorem stream_eq_of_locate (hstem : (Path.ofString stem).root = .relative) {s s' : Stream}
    (h : t.locate (logPath dir stem s) = .ok l) (h' : t.locate (logPath dir stem s') = .ok l) :
    s = s' := by
  obtain ⟨found, last, hfound⟩ := locate_logPath hstem t dir
  rw [hfound] at h h'
  cases found with
  | error reason => contradiction
  | ok above =>
    have heq : above ++ [last ++ s.ending] = above ++ [last ++ s'.ending] :=
      Except.ok.inj (h.trans h'.symm)
    simp only [List.append_cancel_left_eq, List.cons.injEq, and_true] at heq
    exact (Stream.ending_cancel heq).2

/-! ### One stream -/

/-- The location has a file with this content in both trees or in none. -/
def SameFile (t t' : FileTree) (l : Location) : Prop :=
  ∀ bytes, t'.entryAt l = some (.file bytes) ↔ t.entryAt l = some (.file bytes)

/-- What became of a stream: without content it has no path, and a path that it has leads from the
directory of the run to its file, which holds the whole content. -/
structure StreamStored (t : FileTree) (dir : Path) (stem : String) (s : Stream) (content : String)
    (path : Option Path) : Prop where
  eq_none_iff : path = none ↔ content = ""
  child_eq : ∀ p, path = some p → dir.child p.toString = logPath dir stem s
  read?_eq : ∀ p, path = some p →
    t.read? (dir.child p.toString) = some (Utf8.encode content)

theorem StreamStored.exists_path {s : Stream} {path : Option Path}
    (h : StreamStored t dir stem s content path) (hc : content ≠ "") :
    ∃ p, path = some p ∧ dir.child p.toString = logPath dir stem s := by
  cases path with
  | none => exact absurd (h.eq_none_iff.mp rfl) hc
  | some p => exact ⟨p, rfl, h.child_eq p rfl⟩

theorem StreamStored.exists_locate {s : Stream} {path : Option Path} {p : Path}
    (h : StreamStored t dir stem s content path) (hp : path = some p) :
    (logPath dir stem s).hasNul = false ∧ ∃ l, t.locate (logPath dir stem s) = .ok l ∧
      t.entryAt l = some (.file (Utf8.encode content)) := by
  have hread := h.read?_eq p hp
  rwa [h.child_eq p hp, read?_eq_some_iff] at hread

theorem StreamStored.logPath_ne {s : Stream} {path : Option Path}
    (h : StreamStored t dir stem s content path)
    (hl : ∀ p, path = some p → t.locate (dir.child p.toString) ≠ .ok l) (hc : content ≠ "") :
    t.locate (logPath dir stem s) ≠ .ok l := by
  obtain ⟨p, hp, hpath⟩ := h.exists_path hc
  exact hpath ▸ hl p hp

/-- The file stays while only files elsewhere are written. -/
theorem StreamStored.keep {s : Stream} {path : Option Path}
    (h : StreamStored files dir stem s content path) (hk : KeepsDirectories files files')
    (hsame : ∀ l, files'.locate (logPath dir stem s) = .ok l → SameFile files files' l) :
    StreamStored files' dir stem s content path where
  eq_none_iff := h.eq_none_iff
  child_eq := h.child_eq
  read?_eq p hp := by
    obtain ⟨hnul, l, hl, hfile⟩ := h.exists_locate hp
    have hl' := hk.locate hl
    rw [h.child_eq p hp, read?_eq_some_iff]
    exact ⟨hnul, l, hl', (hsame l hl' _).mpr hfile⟩

theorem writeStream_of_ok (hstem : (Path.ofString stem).root = .relative) (s : Stream)
    {path : Option Path}
    (h : writeStream files dir (stem ++ s.ending) content = ⟨files', .ok path⟩) :
    StreamStored files' dir stem s content path ∧
    ∀ l, (content ≠ "" → files'.locate (logPath dir stem s) ≠ .ok l) → SameFile files files' l := by
  by_cases hc : content = ""
  · rw [writeStream, if_pos hc] at h
    obtain ⟨rfl, hpath⟩ := Written.mk.inj h
    obtain rfl := Except.ok.inj hpath
    exact ⟨⟨by simp [hc], by simp, by simp⟩, fun l _ bytes => .rfl⟩
  · have hrel : (logPath dir stem s).relativeTo? dir = some (logWay stem s) := by
      rw [logPath_eq_join hstem, Path.relativeTo?_join dir rfl]
    cases hfile : files.writeFile (logPath dir stem s) (Utf8.encode content) with
    | error fault =>
      rw [logPath] at hfile
      simp [writeStream, hc, hfile] at h
    | ok after =>
      have hw : writeStream files dir (stem ++ s.ending) content =
          ⟨after, .ok (some (logWay stem s))⟩ := by
        rw [logPath] at hfile hrel
        simp only [writeStream, if_neg hc, hfile, hrel]
      rw [h] at hw
      obtain ⟨rfl, hpath⟩ := Written.mk.inj hw
      obtain rfl := Except.ok.inj hpath
      refine ⟨⟨by simp [hc], fun p hp => ?_, fun p hp => ?_⟩, fun l hl bytes => ?_⟩
      · obtain rfl := Option.some.inj hp
        exact child_logWay hstem dir s
      · obtain rfl := Option.some.inj hp
        rw [child_logWay hstem]
        exact read?_writeFile hfile
      · have hne : files.locate (logPath dir stem s) ≠ .ok l := by
          obtain ⟨-, l', hl', hnot, rfl⟩ := writeFile_eq_ok hfile
          rw [hl', ← (keepsDirectories_put hnot (.file (Utf8.encode content))).locate hl']
          exact hl hc
        rw [entryAt_writeFile hfile hne]

theorem writeStream_of_error (hstem : (Path.ofString stem).root = .relative) (s : Stream)
    {fault : FileFault}
    (h : writeStream files dir (stem ++ s.ending) content = ⟨files', .error fault⟩) :
    files' = files := by
  have hrel : ((logsDir dir).child (stem ++ s.ending)).relativeTo? dir =
      some (logWay stem s) := by
    rw [← logPath, logPath_eq_join hstem, Path.relativeTo?_join dir rfl]
  unfold writeStream at h
  split_ifs at h
  · simp at h
  · simp only [hrel] at h
    split at h
    · exact (Written.mk.inj h).1.symm
    · simp at h

/-! ### Both streams -/

/-- Logs that were written: the directory of the logs is there, each stream is stored, in a file of
its own, and all files but those are as before. -/
structure LogsWritten (before after : FileTree) (dir : Path) (stem stdout stderr : String)
    (paths : StreamPaths) : Prop where
  finds : ∃ l, after.FindsDirectory (logsDir dir) l
  stdout : StreamStored after dir stem .stdout stdout paths.stdout
  stderr : StreamStored after dir stem .stderr stderr paths.stderr
  distinct : ∀ p p', paths.stdout = some p → paths.stderr = some p' →
    after.locate (dir.child p.toString) ≠ after.locate (dir.child p'.toString)
  others : ∀ l,
    (∀ p, paths.stdout = some p ∨ paths.stderr = some p →
      after.locate (dir.child p.toString) ≠ .ok l) → SameFile before after l

/-- Logs that could not all be written: a file that is not as before is the one of the standard
output, with the whole of it, and not that of the standard error. -/
def LogsStopped (before after : FileTree) (dir : Path) (stem stdout : String) : Prop :=
  ∀ l, SameFile before after l ∨
    stdout ≠ "" ∧ after.locate (logPath dir stem .stdout) = .ok l ∧
      after.locate (logPath dir stem .stderr) ≠ .ok l ∧
      after.entryAt l = some (.file (Utf8.encode stdout))

theorem writeLogs_of_ok (hstem : (Path.ofString stem).root = .relative) {stdout stderr : String}
    {paths : StreamPaths} (h : writeLogs files dir stem stdout stderr = ⟨files', .ok paths⟩) :
    LogsWritten files files' dir stem stdout stderr paths := by
  have hadds := makeDirectories_addsDirectories files (logsDir dir)
  unfold writeLogs at h
  split at h
  · simp at h
  · rename_i files₁ hm
    rw [hm] at hadds
    obtain ⟨logs, hlogs⟩ := makeDirectories_finds hm
    split at h
    · simp at h
    · rename_i files₂ out ho
      split at h
      · simp at h
      · rename_i files₃ err he
        obtain ⟨rfl, hpaths⟩ := Written.mk.inj h
        obtain rfl := Except.ok.inj hpaths
        have hko := (writeStream_makesWay files₁ dir (stem ++ ".stdout") stdout).keeps
        have hke := (writeStream_makesWay files₂ dir (stem ++ ".stderr") stderr).keeps
        rw [ho] at hko
        rw [he] at hke
        obtain ⟨hout, houtSame⟩ := writeStream_of_ok hstem .stdout ho
        obtain ⟨herr, herrSame⟩ := writeStream_of_ok hstem .stderr he
        -- The second write leaves the file of the first one alone.
        have hout' : StreamStored files₃ dir stem .stdout stdout out :=
          hout.keep hke fun l hl => herrSame l fun _ hl' =>
            absurd (stream_eq_of_locate hstem hl hl') (by decide)
        refine ⟨⟨logs, (hlogs.keep hko).keep hke⟩, hout', herr, fun p p' hp hp' heq => ?_,
          fun l hl bytes => ?_⟩
        · obtain ⟨-, l, hl, -⟩ := hout'.exists_locate hp
          rw [hout.child_eq p hp, herr.child_eq p' hp'] at heq
          exact absurd (stream_eq_of_locate hstem hl (heq ▸ hl)) (by decide)
        · have houtNe := hout.logPath_ne fun p hp hloc => hl p (.inl hp) (hke.locate hloc)
          have herrNe := herr.logPath_ne fun p hp => hl p (.inr hp)
          rw [herrSame l herrNe bytes, houtSame l houtNe bytes]
          exact hadds.entryAt_eq_file_iff l bytes

theorem writeLogs_of_error (hstem : (Path.ofString stem).root = .relative)
    {stdout stderr : String} {fault : FileFault}
    (h : writeLogs files dir stem stdout stderr = ⟨files', .error fault⟩) :
    LogsStopped files files' dir stem stdout := by
  have hadds := makeDirectories_addsDirectories files (logsDir dir)
  unfold writeLogs at h
  split at h
  · rename_i hm
    rw [hm] at hadds
    obtain ⟨rfl, -⟩ := Written.mk.inj h
    exact fun l => .inl (hadds.entryAt_eq_file_iff l)
  · rename_i files₁ hm
    rw [hm] at hadds
    split at h
    · rename_i ho
      obtain ⟨rfl, -⟩ := Written.mk.inj h
      obtain rfl := writeStream_of_error hstem .stdout ho
      exact fun l => .inl (hadds.entryAt_eq_file_iff l)
    · rename_i ho
      split at h
      · rename_i files₃ _ he
        obtain ⟨rfl, -⟩ := Written.mk.inj h
        obtain rfl := writeStream_of_error hstem .stderr he
        obtain ⟨hout, houtSame⟩ := writeStream_of_ok hstem .stdout ho
        intro l
        by_cases hl : stdout ≠ "" ∧ files₃.locate (logPath dir stem .stdout) = .ok l
        · obtain ⟨p, hp, -⟩ := hout.exists_path hl.1
          obtain ⟨-, l', hl', hfile⟩ := hout.exists_locate hp
          obtain rfl : l' = l := Except.ok.inj (hl'.symm.trans hl.2)
          refine .inr ⟨hl.1, hl.2, fun herr => ?_, hfile⟩
          exact absurd (stream_eq_of_locate hstem hl.2 herr) (by decide)
        · refine .inl fun bytes => (houtSame l (fun hc hloc => hl ⟨hc, hloc⟩) bytes).trans ?_
          exact hadds.entryAt_eq_file_iff l bytes
      · simp at h

/-- The logs of a call on any tree, in any directory, under any relative stem: the directories that
are made are that of the logs and those on the way to it, and both streams are stored beside all
other files, or the first one at most. -/
theorem writeLogs_frame {stem : String} (hstem : (Path.ofString stem).root = .relative)
    (files : FileTree) (dir : Path) (stdout stderr : String) :
    let written := writeLogs files dir stem stdout stderr
    MakesWay (logsDir dir) files written.files ∧
    match written.result with
    | .ok paths => LogsWritten files written.files dir stem stdout stderr paths
    | .error _ => LogsStopped files written.files dir stem stdout := by
  intro written
  refine ⟨writeLogs_makesWay files dir stem stdout stderr, ?_⟩
  cases hresult : written.result with
  | ok paths => exact writeLogs_of_ok hstem (congrArg (Written.mk _) hresult)
  | error fault => exact writeLogs_of_error hstem (congrArg (Written.mk _) hresult)

/-- A stem that leads up again: where its streams can be written both are, over a file that is
there, and where a directory has the name of the second one only the first is. -/
theorem writeLogs_frame_up :
    let dir := Path.ofString "a/../out"
    let stem := "x/.././y."
    let directories : List (Location × Entry) := [(["a"], .directory), (["out"], .directory),
      (["out", "logs"], .directory), (["out", "logs", "x"], .directory)]
    let files : FileTree :=
      ⟨directories ++ [(["out", "logs", "y..stderr"], .file (Utf8.encode "before"))], []⟩
    let blocked : FileTree := ⟨directories ++ [(["out", "logs", "y..stderr"], .directory)], []⟩
    let written := writeLogs files dir stem "out" "é"
    let stopped := writeLogs blocked dir stem "out" "é"
    let way (name : String) : Path := ⟨.relative, ["logs", "x", "..", name]⟩
    (Path.ofString stem).root = .relative ∧
      written.result = .ok ⟨some (way "y..stdout"), some (way "y..stderr")⟩ ∧
      LogsWritten files written.files dir stem "out" "é"
        ⟨some (way "y..stdout"), some (way "y..stderr")⟩ ∧
      written.files.entryAt ["out", "logs", "y..stderr"] = some (.file [0xc3, 0xa9]) ∧
      stopped.result =
        .error (.refused .isDirectory (.ofString "a/../out/logs/x/../y..stderr")) ∧
      LogsStopped blocked stopped.files dir stem "out" ∧
      stopped.files.entryAt ["out", "logs", "y..stdout"] = some (.file (Utf8.encode "out")) := by
  intro dir stem directories files blocked written stopped way
  have hstem : (Path.ofString stem).root = .relative := by decide
  have hwritten : written.result = .ok ⟨some (way "y..stdout"), some (way "y..stderr")⟩ := by
    decide +kernel
  have hstopped : stopped.result =
      .error (.refused .isDirectory (.ofString "a/../out/logs/x/../y..stderr")) := by
    decide +kernel
  have hw := writeLogs_frame hstem files dir "out" "é"
  have hs := writeLogs_frame hstem blocked dir "out" "é"
  simp only [show (writeLogs files dir stem "out" "é").result = _ from hwritten] at hw
  simp only [show (writeLogs blocked dir stem "out" "é").result = _ from hstopped] at hs
  exact ⟨hstem, hwritten, hw.2, by decide +kernel, hstopped, hs.2, by decide +kernel⟩

end DualToolchain.RunDirectory
