import DualToolchain.Proofs.FileTree.Directory
import DualToolchain.Proofs.RunDirectory

/-! The files of streams. The names that they are written under begin with a name of their own, so a
slash further on leads into a directory below the one of the logs: without such directories only
names without a slash can be written, and each stream has a file of its own name there. -/

namespace DualToolchain

inductive Stream where
  | stdout | stderr
  deriving DecidableEq

namespace Stream

def ending : Stream → String
  | .stdout => ".stdout"
  | .stderr => ".stderr"

theorem slash_notMem_ending (s : Stream) : '/' ∉ s.ending.toList := by
  cases s <;> decide

theorem nul_notMem_ending (s : Stream) : '\x00' ∉ s.ending.toList := by
  cases s <;> decide

theorem length_ending (s : Stream) : s.ending.toList.length = 7 := by
  cases s <;> rfl

theorem ending_cancel {s s' : Stream} {stem stem' : String}
    (h : stem ++ s.ending = stem' ++ s'.ending) : stem = stem' ∧ s = s' := by
  have hchars := congrArg String.toList h
  rw [String.toList_append, String.toList_append] at hchars
  obtain ⟨hstem, hending⟩ :=
    List.append_inj' hchars (s.length_ending.trans s'.length_ending.symm)
  refine ⟨String.toList_inj.mp hstem, ?_⟩
  cases s <;> cases s' <;> first | rfl | exact absurd hending (by decide)

end Stream

/-- A part of a file name: no slash and no U+0000 in it. -/
def IsPlain (s : String) : Prop :=
  '/' ∉ s.toList ∧ '\x00' ∉ s.toList

instance (s : String) : Decidable (IsPlain s) :=
  inferInstanceAs (Decidable (_ ∧ _))

namespace RunDirectory

open FileTree

variable {files files' : FileTree} {dir : Path} {l : Location} {stem content : String}

/-- A stem that begins with a name: what stands before its first slash is no dots. -/
def IsStem (stem : String) : Prop :=
  3 ≤ (stem.toList.takeWhile (· != '/')).length

/-- The file of a stream, by name and content. An empty stream has none. -/
def streamFile (name content : String) : List (String × List UInt8) :=
  if content = "" then [] else [(name, Utf8.encode content)]

/-- The path of the file, as seen from the directory of the run. -/
def streamPath (name content : String) : Option String :=
  if content = "" then none else some ("logs/" ++ name)

/-! ### Names -/

theorem isName_logs : Path.IsName "logs".toList := by
  decide

theorem logsDir_eq (dir : Path) : logsDir dir = ⟨dir.root, dir.parts ++ ["logs"]⟩ := by
  rw [logsDir, Path.child, isName_logs.ofString, Path.join_of_relative dir rfl]

theorem IsStem.isName (h : IsStem stem) (hslash : '/' ∉ stem.toList) (s : Stream) :
    Path.IsName (stem ++ s.ending).toList := by
  have hlen : 3 ≤ stem.toList.length :=
    Nat.le_trans h (List.takeWhile_prefix _).length_le
  rw [String.toList_append]
  constructor
  · rw [List.mem_append]
    rintro (hm | hm)
    · exact hslash hm
    · exact s.slash_notMem_ending hm
  · rw [List.length_append]
    omega

/-- A slash in the stem leads below a name. -/
theorem IsStem.parts_of_slash (h : IsStem stem) (hslash : '/' ∈ stem.toList) (s : Stream) :
    ∃ first front last, first ≠ ".." ∧
      Path.ofString (stem ++ s.ending) = ⟨.relative, (first :: front) ++ [last]⟩ := by
  obtain ⟨cs, rest, hcs, hnot⟩ := List.eq_append_cons_of_mem hslash
  have hname : Path.IsName cs := by
    refine ⟨hnot, ?_⟩
    have htake : stem.toList.takeWhile (· != '/') = cs := by
      rw [hcs, List.takeWhile_append_of_pos]
      · simp
      · intro c hc
        simpa using fun heq : c = '/' => hnot (heq ▸ hc)
    rw [← htake]
    exact h
  have hstem : stem ++ s.ending =
      String.ofList (cs ++ '/' :: (String.ofList rest ++ s.ending).toList) := by
    rw [← String.toList_inj, String.toList_append, hcs, String.toList_ofList, String.toList_append,
      String.toList_ofList, List.append_assoc, List.cons_append]
  obtain ⟨_, hlast⟩ := Path.getLast?_parts_ofString (s := String.ofList rest) s.slash_notMem_ending
    (by rw [s.length_ending]; decide)
  obtain ⟨front, hparts⟩ := List.getLast?_eq_some_iff.mp hlast
  rw [hstem, hname.ofString_slash, String.ofList_toList, hparts]
  exact ⟨_, front, _, hname.ne_up, rfl⟩

/-! ### Writing one stream -/

/-- A file that could be written among the logs, where no directories are, has a plain name and is
found under it. -/
theorem writeFile_logs (hl : files.FindsDirectory (logsDir dir) l)
    (hflat : ∀ name, files.entryAt (l ++ [name]) ≠ some .directory) (hstem : IsStem stem)
    (s : Stream) {bytes : List UInt8}
    (h : files.writeFile ((logsDir dir).child (stem ++ s.ending)) bytes = .ok files') :
    IsPlain stem ∧ files' = files.put (l ++ [stem ++ s.ending]) (.file bytes) := by
  obtain ⟨hnul, l', hl', -, rfl⟩ := writeFile_eq_ok h
  by_cases hslash : '/' ∈ stem.toList
  · -- The name before the slash would have to be that of a directory.
    obtain ⟨first, front, last, hup, hof⟩ := hstem.parts_of_slash hslash s
    rw [Path.child, hof, locate_join hl.1 hl.2 rfl rfl, descend, towards, if_neg hup] at hl'
    split at hl'
    · contradiction
    · contradiction
    · rename_i hdir
      exact absurd hdir (hflat first)
  · have hname := hstem.isName hslash s
    rw [locate_child hl.1 hl.2 hname] at hl'
    obtain rfl := Except.ok.inj hl'
    refine ⟨⟨hslash, fun hm => ?_⟩, rfl⟩
    rw [Path.child, Path.hasNul_join _ (by rw [hname.ofString]), hname.ofString] at hnul
    simp [Path.hasNul, hm] at hnul

theorem toString_logs (name : String) :
    Path.toString ⟨.relative, ["logs", name]⟩ = "logs/" ++ name := by
  rw [← String.toList_inj]
  simp [Path.toString, PathRoot.text]

theorem child_logsDir (hname : Path.IsName stem.toList) (dir : Path) :
    (logsDir dir).child stem = dir.join ⟨.relative, ["logs", stem]⟩ := by
  rw [logsDir_eq, Path.child, hname.ofString, Path.join_of_relative _ rfl,
    Path.join_of_relative _ rfl, List.append_assoc]
  rfl

/-- Where no directories are among the logs, a stream with content is written under its plain name
or not at all. -/
theorem writeStream_cases (hl : files.FindsDirectory (logsDir dir) l)
    (hflat : ∀ name, files.entryAt (l ++ [name]) ≠ some .directory) (hstem : IsStem stem)
    (s : Stream) (content : String) :
    (content = "" ∧ writeStream files dir (stem ++ s.ending) content = ⟨files, .ok none⟩) ∨
    (content ≠ "" ∧ IsPlain stem ∧ writeStream files dir (stem ++ s.ending) content =
      ⟨files.put (l ++ [stem ++ s.ending]) (.file (Utf8.encode content)),
        .ok (some ⟨.relative, ["logs", stem ++ s.ending]⟩)⟩) ∨
    (content ≠ "" ∧ ∃ fault,
      files.writeFile ((logsDir dir).child (stem ++ s.ending)) (Utf8.encode content) =
        .error fault ∧
      writeStream files dir (stem ++ s.ending) content = ⟨files, .error fault⟩) := by
  by_cases hc : content = ""
  · exact .inl ⟨hc, by rw [writeStream, if_pos hc]⟩
  · right
    cases hw : files.writeFile ((logsDir dir).child (stem ++ s.ending)) (Utf8.encode content) with
    | error fault => exact .inr ⟨hc, fault, rfl, by simp only [writeStream, if_neg hc, hw]⟩
    | ok files' =>
      obtain ⟨hplain, rfl⟩ := writeFile_logs hl hflat hstem s hw
      have hrel : ((logsDir dir).child (stem ++ s.ending)).relativeTo? dir =
          some ⟨.relative, ["logs", stem ++ s.ending]⟩ := by
        rw [child_logsDir (hstem.isName hplain.1 s), Path.relativeTo?_join dir rfl]
      exact .inl ⟨hc, hplain, by simp only [writeStream, if_neg hc, hw, hrel]⟩

theorem hasNul_log (hstem : IsStem stem) (hplain : IsPlain stem) (s : Stream) (dir : Path) :
    ((logsDir dir).child (stem ++ s.ending)).hasNul = dir.hasNul := by
  rw [child_logsDir (hstem.isName hplain.1 s), Path.hasNul_join dir rfl]
  simp [Path.hasNul, hplain.2, s.nul_notMem_ending]

theorem writeFile_logs_of_plain (hl : files.FindsDirectory (logsDir dir) l)
    (hflat : ∀ name, files.entryAt (l ++ [name]) ≠ some .directory) (hstem : IsStem stem)
    (hnul : dir.hasNul = false) (hplain : IsPlain stem) (s : Stream) (bytes : List UInt8) :
    ∃ files', files.writeFile ((logsDir dir).child (stem ++ s.ending)) bytes = .ok files' := by
  have hname := hstem.isName hplain.1 s
  have hnul' : ((logsDir dir).child (stem ++ s.ending)).hasNul = false := by
    rw [hasNul_log hstem hplain, hnul]
  exact ⟨_, writeFile_of_locate hnul' (locate_child hl.1 hl.2 hname) (hflat _) bytes⟩

theorem writeStream_makesWay (files : FileTree) (dir : Path) (name content : String) :
    MakesWay (logsDir dir) files (writeStream files dir name content).files := by
  unfold writeStream
  split_ifs
  · exact .refl _ files
  · simp only
    split
    · exact .refl _ files
    · rename_i hw
      obtain ⟨-, l, -, hnot, rfl⟩ := writeFile_eq_ok hw
      split <;> exact makesWay_put hnot _ _

theorem writeStream_writesInto {path : Option Path} (hl : files.FindsDirectory (logsDir dir) l)
    (hstem : IsStem stem) (s : Stream)
    (h : writeStream files dir (stem ++ s.ending) content = ⟨files', .ok path⟩)
    (hflat : files'.HasNoSubdirectories (logsDir dir)) :
    WritesInto (logsDir dir) (streamFile (stem ++ s.ending) content) files files' ∧
    path.map Path.toString = streamPath (stem ++ s.ending) content ∧
    (content ≠ "" → IsPlain stem) := by
  have hway := writeStream_makesWay files dir (stem ++ s.ending) content
  rw [h] at hway
  have hflat' := hflat.of_keeps hway.keeps l hl
  rcases writeStream_cases hl hflat' hstem s content with
    ⟨rfl, hw⟩ | ⟨hc, hplain, hw⟩ | ⟨-, fault, -, hw⟩
  · rw [h] at hw
    obtain ⟨rfl, hpath⟩ := Written.mk.inj hw
    obtain rfl := Except.ok.inj hpath
    exact ⟨.refl _ _, rfl, fun hne => absurd rfl hne⟩
  · rw [h] at hw
    obtain ⟨rfl, hpath⟩ := Written.mk.inj hw
    obtain rfl := Except.ok.inj hpath
    rw [streamFile, streamPath, if_neg hc, if_neg hc, Option.map_some, toString_logs]
    exact ⟨.put hl (hflat' _) _, rfl, fun _ => hplain⟩
  · rw [h] at hw
    obtain ⟨-, hpath⟩ := Written.mk.inj hw
    contradiction

/-! ### Writing both streams -/

def logFiles (stem stdout stderr : String) : List (String × List UInt8) :=
  streamFile (stem ++ Stream.stdout.ending) stdout ++
    streamFile (stem ++ Stream.stderr.ending) stderr

theorem mem_streamFile_iff {name : String} {w : String × List UInt8} :
    w ∈ streamFile name content ↔ content ≠ "" ∧ w = (name, Utf8.encode content) := by
  rw [streamFile]
  split_ifs with h <;> simp [h]

theorem streamPath_eq_some_iff {name p : String} :
    streamPath name content = some p ↔ content ≠ "" ∧ p = "logs/" ++ name := by
  rw [streamPath]
  split_ifs with h
  · simp [h]
  · simp [h, eq_comm]

theorem writeLogs_makesWay (files : FileTree) (dir : Path) (stem stdout stderr : String) :
    MakesWay (logsDir dir) files (writeLogs files dir stem stdout stderr).files :=
  writeLogs_invariant (P := MakesWay (logsDir dir) files)
    (makeDirectories_makesWay files (logsDir dir))
    (fun files' content _ _ h => h.trans (writeStream_makesWay files' dir _ content))
    stdout stderr

theorem writeLogs_writesInto {stdout stderr : String} {paths : StreamPaths} (hstem : IsStem stem)
    (h : writeLogs files dir stem stdout stderr = ⟨files', .ok paths⟩)
    (hflat : files'.HasNoSubdirectories (logsDir dir)) :
    WritesInto (logsDir dir) (logFiles stem stdout stderr) files files' ∧
    paths.stdout.map Path.toString = streamPath (stem ++ Stream.stdout.ending) stdout ∧
    paths.stderr.map Path.toString = streamPath (stem ++ Stream.stderr.ending) stderr ∧
    (stdout ≠ "" ∨ stderr ≠ "" → IsPlain stem) := by
  have hadds := makeDirectories_addsDirectories files (logsDir dir)
  have hway := makeDirectories_makesWay files (logsDir dir)
  unfold writeLogs at h
  split at h
  · simp at h
  · rename_i files₁ hm
    rw [hm] at hadds hway
    obtain ⟨l, hl⟩ := makeDirectories_finds hm
    split at h
    · simp at h
    · rename_i files₂ out ho
      split at h
      · simp at h
      · rename_i files₃ err he
        obtain ⟨rfl, hpaths⟩ := Written.mk.inj h
        obtain rfl := Except.ok.inj hpaths
        have ho' := writeStream_makesWay files₁ dir (stem ++ ".stdout") stdout
        have he' := writeStream_makesWay files₂ dir (stem ++ ".stderr") stderr
        rw [ho] at ho'
        rw [he] at he'
        obtain ⟨hout, hopath, hoplain⟩ :=
          writeStream_writesInto hl hstem .stdout ho (hflat.of_keeps he'.keeps)
        obtain ⟨herr, hepath, heplain⟩ :=
          writeStream_writesInto (hl.keep ho'.keeps) hstem .stderr he hflat
        refine ⟨?_, hopath, hepath, fun hne => hne.elim hoplain heplain⟩
        refine ((WritesInto.of_addsDirectories hadds hway).trans hout ?_).trans herr ?_
        · simp
        · intro x hx y hy heq
          obtain ⟨-, rfl⟩ := mem_streamFile_iff.mp hx
          obtain ⟨-, rfl⟩ := mem_streamFile_iff.mp hy
          exact absurd (Stream.ending_cancel heq).2 (by decide)

/-! ### The receipt beside the logs -/

theorem child_logs (hname : Path.IsName stem.toList) (dir : Path) :
    dir.child ("logs/" ++ stem) = (logsDir dir).child stem := by
  have hparts : ∀ part ∈ ["logs", stem], Path.IsPart part := by
    simpa using ⟨isName_logs.isPart, hname.isPart⟩
  rw [child_logsDir hname, Path.child, ← toString_logs, Path.ofString_toString hparts]

theorem writeReceipt_makesWay (files : FileTree) (dir : Path) (r : Receipt) :
    MakesWay dir files (writeReceipt files dir r).files := by
  have hdir := makeDirectories_makesWay files dir
  unfold writeReceipt
  split
  · rename_i hm
    rwa [hm] at hdir
  · rename_i hm
    rw [hm] at hdir
    simp only
    split
    · exact hdir
    · rename_i hw
      obtain ⟨-, l, -, hnot, rfl⟩ := writeFile_eq_ok hw
      exact hdir.trans (makesWay_put hnot _ _)

theorem makesWay_logsDir (h : MakesWay dir files files') : MakesWay (logsDir dir) files files' :=
  h.below (by rw [logsDir_eq]) (by rw [logsDir_eq]; exact List.prefix_append dir.parts _)

theorem log_ne_receiptName (stem : String) (s : Stream) : stem ++ s.ending ≠ receiptName := by
  intro heq
  have hlast := congrArg (fun name : String => name.toList.getLast?) heq
  cases s <;> simp [receiptName, Stream.ending] at hlast

theorem isName_receiptName : Path.IsName receiptName.toList := by
  decide

theorem hasNul_receipt (dir : Path) : (dir.child receiptName).hasNul = dir.hasNul := by
  have hnul : Path.hasNul ⟨.relative, [receiptName]⟩ = false := by decide
  rw [Path.child, isName_receiptName.ofString, Path.hasNul_join dir rfl, hnul, Bool.or_false]

/-- A receipt that is written is a new file in the directory, of a path that a file can have. -/
theorem locate_of_writeReceipt {r : Receipt} {path : Path}
    (h : (writeReceipt files dir r).result = .ok path) :
    dir.hasNul = false ∧ ∃ l, l.getLast? = some receiptName ∧
      (writeReceipt files dir r).files.locate (dir.child receiptName) = .ok l := by
  obtain ⟨rfl, hread, -⟩ := writeReceipt_of_ok h
  have hlast : (dir.child receiptName).parts.getLast? = some receiptName :=
    Path.getLast?_parts_child dir (by rw [isName_receiptName.ofString]; rfl)
  obtain ⟨hnul, l, hl, -⟩ := read?_eq_some_iff.mp hread
  rw [hasNul_receipt] at hnul
  exact ⟨hnul, l, getLast?_of_locate hl hlast (by decide), hl⟩

/-- The logs are still there when the receipt is written, and it is the only other file that
changed. -/
theorem writeReceipt_of_writesInto {before : FileTree} {written : List (String × List UInt8)}
    (hw : WritesInto (logsDir dir) written before files) (hname : ∀ w ∈ written, w.1 ≠ receiptName)
    {r : Receipt} {path : Path} (h : (writeReceipt files dir r).result = .ok path) :
    (∀ l, (writeReceipt files dir r).files.FindsDirectory (logsDir dir) l →
      ∀ w ∈ written, (writeReceipt files dir r).files.entryAt (l ++ [w.1]) = some (.file w.2)) ∧
    (∀ l bytes, (∀ logs, (writeReceipt files dir r).files.FindsDirectory (logsDir dir) logs →
        ∀ w ∈ written, l ≠ logs ++ [w.1]) →
      (writeReceipt files dir r).files.locate (dir.child receiptName) ≠ .ok l →
      ((writeReceipt files dir r).files.entryAt l = some (.file bytes) ↔
        before.entryAt l = some (.file bytes))) := by
  have hk := (writeReceipt_makesWay files dir r).keeps
  obtain ⟨-, l₀, hlast, hl₀⟩ := locate_of_writeReceipt h
  obtain ⟨rfl, -, hother⟩ := writeReceipt_of_ok h
  constructor
  · intro l hl w hmem
    obtain ⟨l', hl'⟩ := hw.found (List.ne_nil_of_mem hmem)
    obtain rfl := (hl'.keep hk).eq hl.1
    refine (hother _ _ ?_).mpr (hw.stored l hl'.1 w hmem)
    rw [hl₀]
    rintro heq
    rw [Except.ok.inj heq, List.getLast?_concat] at hlast
    exact hname w hmem (Option.some.inj hlast)
  · intro l bytes hlog hloc
    refine (hother l bytes hloc).trans (hw.others l bytes fun logs hlogs w hmem => ?_)
    obtain ⟨l', hl'⟩ := hw.found (List.ne_nil_of_mem hmem)
    obtain rfl := hl'.eq hlogs
    exact hlog _ (hl'.keep hk) w hmem

end RunDirectory

end DualToolchain
