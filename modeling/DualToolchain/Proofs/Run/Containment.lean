import DualToolchain.Proofs.FileTree.Changes
import DualToolchain.Proofs.Plan
import DualToolchain.Proofs.Run.Logs
import DualToolchain.Proofs.Run.Unwritten

/-! Where a run writes. However it ends, the files that it makes or changes are the receipt and
those that the paths of its logs lead to, and the directories that it makes are on the way to them.
The path of a log has the selector in it: without a slash in the selector it leads to a file of its
own name right below the directory of the logs, and with one it never does. -/

namespace DualToolchain

open FileTree RunDirectory

/-! ### The writers -/

namespace RunDirectory

theorem writeStream_changesOnly (files : FileTree) (dir : Path) (name content : String) :
    ChangesOnly (· = (logsDir dir).child name) files
      (writeStream files dir name content).files := by
  unfold writeStream
  split_ifs
  · exact .refl _ files
  · simp only
    split
    · exact .refl _ files
    · rename_i hw
      split <;> exact .of_writeFile hw

/-- The logs of a call change the files of its two streams at most. -/
theorem writeLogs_changesOnly (files : FileTree) (dir : Path) (stem stdout stderr : String) :
    ChangesOnly (fun p => ∃ s : Stream, p = (logsDir dir).child (stem ++ s.ending)) files
      (writeLogs files dir stem stdout stderr).files := by
  refine writeLogs_invariant ?_ (fun files' content ending he h => h.trans ?_) stdout stderr
  · exact .of_addsDirectories (makeDirectories_addsDirectories files (logsDir dir))
      (makeDirectories_makesWay files (logsDir dir)).keeps
  · refine (writeStream_changesOnly files' dir (stem ++ ending) content).mono ?_
    rintro p rfl
    rcases he with rfl | rfl
    · exact ⟨.stdout, rfl⟩
    · exact ⟨.stderr, rfl⟩

theorem writeReceipt_changesOnly (files : FileTree) (dir : Path) (r : Receipt) :
    ChangesOnly (· = dir.child receiptName) files (writeReceipt files dir r).files := by
  have hdir : ChangesOnly (· = dir.child receiptName) files (files.makeDirectories dir).1 :=
    .of_addsDirectories (makeDirectories_addsDirectories files dir)
      (makeDirectories_makesWay files dir).keeps
  unfold writeReceipt
  split
  · rename_i hm
    rwa [hm] at hdir
  · rename_i hm
    rw [hm] at hdir
    simp only
    split
    · exact hdir
    · rename_i hw
      exact hdir.trans (.of_writeFile hw)

end RunDirectory

/-! ### The logs that a request may leave -/

/-- A stream of a step at its place in the plan of a request. -/
structure PlannedLog (q : Request) where
  index : Nat
  step : Step
  stream : Stream
  planned : ∃ plan, Plan.resolve q.requested q.profile.selectors = .ok plan ∧
    (Plan.steps plan)[index]? = some step

namespace PlannedLog

variable {q : Request} {dir : Path} {t : FileTree} {l : Location}

/-- The name of its file: the index, the target, the selector and the stream. -/
def name (g : PlannedLog q) : String :=
  Run.stem g.index g.step ++ g.stream.ending

def path (g : PlannedLog q) (dir : Path) : Path :=
  (logsDir dir).child g.name

/-- The location is that of a file right below the directory of the logs, of the log's own name. -/
def IsAt (g : PlannedLog q) (dir : Path) (t : FileTree) (l : Location) : Prop :=
  ∃ logs, t.FindsDirectory (logsDir dir) logs ∧ l = logs ++ [g.name]

/-- A log is found under its own name exactly if there is no slash in the selector. -/
theorem isAt_iff (g : PlannedLog q) (hl : t.locate (g.path dir) = .ok l) :
    g.IsAt dir t l ↔ '/' ∉ g.step.invocation.selector.toList := by
  have hstem := Run.isStem_stem g.index g.step
  have hslash : '/' ∈ (Run.stem g.index g.step).toList ↔
      '/' ∈ g.step.invocation.selector.toList := by
    simp [Run.toList_stem, Run.notMem_stemHead]
  rw [← hslash]
  constructor
  · rintro ⟨logs, -, rfl⟩ hs
    -- The last name of the location is a component of the path, and has no slash.
    obtain ⟨first, front, last, -, hof⟩ := hstem.parts_of_slash hs g.stream
    have hlast : (Path.ofString g.name).parts.getLast? = some last := by
      rw [name, hof, List.getLast?_concat]
    have hending : g.stream.ending = ".stdout" ∨ g.stream.ending = ".stderr" := by
      cases g.stream <;> simp [Stream.ending]
    obtain ⟨last', hlast', hup, -⟩ := getLast?_stream dir (Run.stem g.index g.step) hending
    have heq : last = last' :=
      Option.some.inj ((Path.getLast?_parts_child (logsDir dir) hlast).symm.trans hlast')
    have hend := getLast?_of_locate hl hlast' hup
    rw [List.getLast?_concat, ← heq] at hend
    refine Path.slash_notMem_parts (List.mem_of_getLast? hlast) ?_
    rw [← Option.some.inj hend, name, String.toList_append]
    exact List.mem_append_left _ hs
  · intro hs
    have hname := hstem.isName hs g.stream
    have hne : (logsDir dir).parts ≠ [] := by
      rw [logsDir_eq]
      simp
    exact locate_child_inv hname hne hl

theorem selector_mem (g : PlannedLog q) :
    g.step.invocation.selector ∈ q.profile.selectors := by
  obtain ⟨plan, hp, hs⟩ := g.planned
  obtain ⟨phase, hphase, hmem⟩ := List.mem_flatMap.mp (List.mem_of_getElem? hs)
  obtain ⟨inv, hinv, heq⟩ := List.mem_map.mp hmem
  rw [Plan.invocations_of_resolve hp phase hphase] at hinv
  obtain ⟨selector, hsel, rfl⟩ := List.mem_map.mp hinv
  rw [← heq]
  exact hsel

end PlannedLog

/-! ### Steps and runs -/

namespace Run

variable {q : Request} {dir : Path}

def IsLogPath (dir : Path) (index : Nat) (s : Step) (p : Path) : Prop :=
  ∃ stream : Stream, p = (logsDir dir).child (stem index s ++ stream.ending)

theorem saveStreams_changesOnly (hd : q.outputDir = some dir) (files : FileTree) (index : Nat)
    (s : Step) (c : Completion) :
    ChangesOnly (IsLogPath dir index s) files (saveStreams q files index s c).files := by
  simp only [saveStreams, hd]
  split_ifs
  · exact .refl _ files
  · exact writeLogs_changesOnly files dir _ _ _

theorem step_changesOnly (hd : q.outputDir = some dir) (launcher : Launcher) (st : RunState)
    (s : Step) :
    ChangesOnly (IsLogPath dir st.records.length s) st.files (step q launcher st s).1.files := by
  unfold step
  simp only
  split_ifs
  · exact .refl _ st.files
  · split
    · exact .refl _ st.files
    · rw [conclude_files]
      exact saveStreams_changesOnly hd ..

theorem length_records_of_step {launcher : Launcher} {st st' : RunState} {s : Step}
    (h : step q launcher st s = (st', none)) : st'.records.length = st.records.length + 1 := by
  unfold step at h
  simp only at h
  split_ifs at h
  · obtain ⟨rfl, -⟩ := Prod.mk.inj h
    simp
  · split at h
    · simp at h
    · rename_i c _
      rcases conclude_cases q { st with trace := _ } s c with
        ⟨f, -, -, hf⟩ | ⟨paths, -, -, hrecords⟩
      · rw [h] at hf
        contradiction
      · rw [h] at hrecords
        simpa using congrArg List.length hrecords

/-- The steps of a run change the files of their logs at most, each at its place in the run. -/
theorem steps_changesOnly (hd : q.outputDir = some dir) (launcher : Launcher) (ss : List Step)
    (st : RunState) :
    ChangesOnly (fun p => ∃ i s, ss[i]? = some s ∧ IsLogPath dir (st.records.length + i) s p)
      st.files (steps q launcher st ss).1.files := by
  induction ss generalizing st with
  | nil => exact .refl _ st.files
  | cons s rest ih =>
    have hs : ChangesOnly
        (fun p => ∃ i s', (s :: rest)[i]? = some s' ∧ IsLogPath dir (st.records.length + i) s' p)
        st.files (step q launcher st s).1.files :=
      (step_changesOnly hd launcher st s).mono fun p hp => ⟨0, s, rfl, hp⟩
    rw [steps]
    split
    · rename_i st' hstep
      rw [hstep] at hs
      refine hs.trans ((ih st').mono ?_)
      rintro p ⟨i, s', hi, hp⟩
      rw [length_records_of_step hstep] at hp
      refine ⟨i + 1, s', hi, ?_⟩
      rwa [Nat.add_assoc, Nat.add_comm 1 i] at hp
    · rename_i hstep
      rwa [hstep] at hs

/-- The path is that of the receipt or of a log of the request. -/
def IsOwnPath (q : Request) (dir : Path) (p : Path) : Prop :=
  p = dir.child receiptName ∨ ∃ g : PlannedLog q, p = g.path dir

theorem finish_changesOnly (hd : q.outputDir = some dir) (clock : Clock) (st : RunState)
    (status : Status) (reasons : List Reason) (exitCode : Int) :
    ChangesOnly (IsOwnPath q dir) st.files
      (finish q clock st status reasons exitCode).files := by
  rw [finish_files hd]
  exact (writeReceipt_changesOnly ..).mono fun p hp => .inl hp

/-- However a run ends, it has changed its own files at most. -/
theorem run_changesOnly (hd : q.outputDir = some dir) (launcher : Launcher) (clock : Clock)
    (files : FileTree) :
    ChangesOnly (IsOwnPath q dir) files (q.run launcher clock files).files := by
  unfold Request.run
  split
  · exact finish_changesOnly hd clock ⟨files, _, []⟩ ..
  · rename_i plan hp
    have hs : ChangesOnly (IsOwnPath q dir) files
        (steps q launcher (start q plan files) (Plan.steps plan)).1.files := by
      refine (steps_changesOnly hd launcher (Plan.steps plan) (start q plan files)).mono ?_
      rintro p ⟨i, s, hi, stream, hpath⟩
      have hstart : (start q plan files).records.length + i = i := Nat.zero_add i
      rw [hstart] at hpath
      exact .inr ⟨⟨i, s, stream, plan, hp, hi⟩, hpath⟩
    rw [start] at hs
    simp only
    split
    · rename_i hsteps
      rw [hsteps] at hs
      exact hs.trans (finish_changesOnly hd ..)
    · rename_i hsteps
      rw [hsteps] at hs
      exact hs.trans (finish_changesOnly hd ..)
    · rename_i hsteps
      rwa [hsteps] at hs

/-- What a run has written, the places of its logs being told: the files that are new or have
changed are its receipt and logs, and the new directories are on the way to the logs. -/
structure Report.WritesOnly (report : Report) (q : Request) (dir : Path) (before : FileTree)
    (place : PlannedLog q → Location → Prop) : Prop where
  file : ∀ l bytes, report.files.entryAt l = some (.file bytes) →
    before.entryAt l ≠ some (.file bytes) →
    report.files.locate (dir.child receiptName) = .ok l ∨ ∃ g : PlannedLog q, place g l
  stays : ∀ l bytes, before.entryAt l = some (.file bytes) →
    ∃ bytes', report.files.entryAt l = some (.file bytes')
  way : MakesWay (logsDir dir) before report.files

/-- The layout of a run's directory: each log is a file of its own name right below the directory of
the logs. -/
def Report.KeepsLayout (report : Report) (q : Request) (dir : Path) (before : FileTree) : Prop :=
  report.WritesOnly q dir before fun g l => g.IsAt dir report.files l

theorem Report.WritesOnly.mono {report : Report} {before : FileTree}
    {place place' : PlannedLog q → Location → Prop} (h : report.WritesOnly q dir before place)
    (hsub : ∀ g l, place g l → place' g l) : report.WritesOnly q dir before place' where
  file l bytes hl hnew := (h.file l bytes hl hnew).imp_right fun ⟨g, hg⟩ => ⟨g, hsub g l hg⟩
  stays := h.stays
  way := h.way

/-- However a run ends, its logs are where their paths lead to. -/
theorem run_writesOnly (hd : q.outputDir = some dir) (launcher : Launcher) (clock : Clock)
    (files : FileTree) :
    (q.run launcher clock files).WritesOnly q dir files fun g l =>
      (q.run launcher clock files).files.locate (g.path dir) = .ok l := by
  have hc := run_changesOnly hd launcher clock files
  refine ⟨fun l bytes hl hnew => ?_, hc.stays, run_makesWay hd launcher clock files⟩
  obtain ⟨p, hp, hloc⟩ := (hc.changed l bytes hl).resolve_left hnew
  rcases hp with hp | ⟨g, hp⟩
  · exact .inl (hp ▸ hloc)
  · exact .inr ⟨g, hp ▸ hloc⟩

end Run

/-- Without a directory a run changes no file. With one, however it ends, it writes only its receipt
and the files that the paths of its logs lead to; of these, those and only those keep to the layout
that have no slash in their selector. So a profile whose selectors have none keeps to it as a
whole. -/
theorem Request.run_keepsLayout (q : Request) (launcher : Launcher) (clock : Clock)
    (files : FileTree) :
    let report := q.run launcher clock files
    (q.outputDir = none → report.files = files) ∧
    ∀ dir, q.outputDir = some dir →
      (report.WritesOnly q dir files fun g l => report.files.locate (g.path dir) = .ok l ∧
        (g.IsAt dir report.files l ↔ '/' ∉ g.step.invocation.selector.toList)) ∧
      ((∀ selector ∈ q.profile.selectors, '/' ∉ selector.toList) →
        report.KeepsLayout q dir files) := by
  refine ⟨fun hd => Run.run_files_of_unwritten hd launcher clock files, fun dir hd => ?_⟩
  have hw := Run.run_writesOnly hd launcher clock files
  refine ⟨hw.mono fun g l hl => ⟨hl, g.isAt_iff hl⟩, fun hslash => hw.mono fun g l hl => ?_⟩
  exact (g.isAt_iff hl).mpr (hslash _ g.selector_mem)

/-- Selectors that are dots: the second launch is refused after the first one has left a log, and
nothing else has changed. -/
theorem Request.run_keepsLayout_dots :
    let dir := Path.ofString "out"
    let profile : Profile := ⟨"cargo", "..", ".", "build", by decide, by decide, by decide⟩
    let q : Request := { names := [], profile := profile, outputDir := some dir }
    let files : FileTree := ⟨[(["notes"], .file [1])], []⟩
    let prepared := Launcher.prepared [⟨0, "built", "", 4, none⟩]
    let launcher : Launcher := fun i command =>
      if i = 1 then ⟨.error (.badLaunch "embedded null byte"), []⟩ else prepared i command
    let report := q.run launcher (fun _ => 0) files
    q.outputDir = some dir ∧ (∀ selector ∈ q.profile.selectors, '/' ∉ selector.toList) ∧
      report.outcome = .error (.badLaunch "embedded null byte") ∧
      report.files.entryAt ["out", "logs", "00.build....stdout"] =
        some (.file (Utf8.encode "built")) ∧
      report.KeepsLayout q dir files := by
  intro dir profile q files prepared launcher report
  have hslash : ∀ selector ∈ q.profile.selectors, '/' ∉ selector.toList := by decide
  refine ⟨rfl, hslash, by decide +kernel, by decide +kernel, ?_⟩
  exact ((Request.run_keepsLayout q launcher (fun _ => 0) files).2 dir rfl).2 hslash

/-- The selector leads up through a directory of the name that its log begins with: the run returns,
and has written over a file outside of its directory. -/
theorem Request.not_keepsLayout_up :
    let dir := Path.ofString "out"
    let profile : Profile :=
      ⟨"cargo", "x/../../../notes", "stable", Target.defaultName, by decide, by decide, by decide⟩
    let q : Request := { names := ["build"], profile := profile, outputDir := some dir }
    let files : FileTree := ⟨[(["out"], .directory), (["out", "logs"], .directory),
      (["out", "logs", "00.build.x"], .directory),
      (["notes.stdout"], .file (Utf8.encode "keep"))], []⟩
    let report := q.run (.prepared [⟨1, "boom", "", 0, none⟩]) (fun _ => 0) files
    report.outcome.map (·.exitCode) = .ok 1 ∧
      report.files.read? (.ofString "notes.stdout") = some (Utf8.encode "boom") ∧
      ¬ report.KeepsLayout q dir files := by
  intro dir profile q files report
  have hcode : report.outcome.map (·.exitCode) = .ok 1 := by decide +kernel
  have hread : report.files.read? (.ofString "notes.stdout") = some (Utf8.encode "boom") := by
    decide +kernel
  have hnotes : report.files.entryAt ["notes.stdout"] = some (.file (Utf8.encode "boom")) := by
    decide +kernel
  have hreceipt : report.files.locate (dir.child receiptName) = .ok ["out", receiptName] := by
    decide +kernel
  have hlogs : report.files.locate (logsDir dir) = .ok ["out", "logs"] := by decide +kernel
  clear_value report
  refine ⟨hcode, hread, fun h => ?_⟩
  rcases h.file _ _ hnotes (by decide) with hloc | ⟨g, hg⟩
  · rw [hreceipt] at hloc
    exact absurd (Except.ok.inj hloc) (by decide)
  · obtain ⟨logs, hfound, heq⟩ := hg
    obtain rfl := hfound.eq hlogs
    simp at heq

end DualToolchain
