import DualToolchain.Proofs.Launcher
import DualToolchain.Proofs.Run.Logs
import DualToolchain.Proofs.Run.Unwritten

/-! Runs whose processes write to the streams of the run, without their output being captured. A
record names a log exactly for a stream of the answer that has content, and a run whose records name
none has written nothing but its receipt. Without capturing, the one answer with content is that to
a launch that failed: its message is kept as a log all the same. -/

namespace DualToolchain

open FileTree RunDirectory

/-! ### Which streams have a path -/

namespace RunDirectory

variable {files : FileTree} {dir : Path}

theorem writeStream_isSome {name content : String} {path : Option Path}
    (h : (writeStream files dir name content).result = .ok path) :
    path.isSome ↔ content ≠ "" := by
  unfold writeStream at h
  split_ifs at h with hc
  · obtain rfl := Except.ok.inj h
    simp [hc]
  · simp only at h
    split at h
    · contradiction
    · split at h
      · obtain rfl := Except.ok.inj h
        simp [hc]
      · contradiction

theorem writeLogs_isSome {stem stdout stderr : String} {paths : StreamPaths}
    (h : (writeLogs files dir stem stdout stderr).result = .ok paths) :
    (paths.stdout.isSome ↔ stdout ≠ "") ∧ (paths.stderr.isSome ↔ stderr ≠ "") := by
  unfold writeLogs at h
  split at h
  · contradiction
  · split at h
    · contradiction
    · rename_i ho
      split at h
      · contradiction
      · rename_i he
        obtain rfl := Except.ok.inj h
        exact ⟨writeStream_isSome (congrArg Written.result ho),
          writeStream_isSome (congrArg Written.result he)⟩

end RunDirectory

namespace Run

variable {q : Request} {dir : Path} {launcher : Launcher}

/-- Streams are kept if there is a directory and they have content. -/
theorem saveStreams_isSome {files : FileTree} {index : Nat} {s : Step} {c : Completion}
    {paths : StreamPaths} (h : (saveStreams q files index s c).result = .ok paths) :
    (paths.stdout.isSome ↔ q.outputDir.isSome ∧ c.stdout ≠ "") ∧
    (paths.stderr.isSome ↔ q.outputDir.isSome ∧ c.stderr ≠ "") := by
  unfold saveStreams at h
  split at h
  · rename_i hd
    obtain rfl := Except.ok.inj h
    simp [hd]
  · rename_i hd
    split_ifs at h with hempty
    · obtain rfl := Except.ok.inj h
      simp [hempty.1, hempty.2]
    · simpa [hd] using writeLogs_isSome h

theorem saveStreams_files_of_none {files : FileTree} {index : Nat} {s : Step} {c : Completion}
    (h : (saveStreams q files index s c).result = .ok ⟨none, none⟩) :
    (saveStreams q files index s c).files = files := by
  obtain ⟨hout, herr⟩ := saveStreams_isSome h
  unfold saveStreams
  split
  · rfl
  · rename_i hd
    rw [if_pos (by simpa [hd] using And.intro hout herr)]

/-! ### Records that name logs -/

/-- Each record has the command of a call that was answered, and names a log for a stream of the
answer exactly if that is kept. -/
def NamesStreams (q : Request) (launcher : Launcher) (records : List InvocationRecord) : Prop :=
  ∀ (i : Nat) (record : InvocationRecord), records[i]? = some record →
    ∃ c, (launcher i record.command).answer = .ok c ∧
      ∀ s : Stream, (s.path? record).isSome ↔ q.outputDir.isSome ∧ s.content c ≠ ""

theorem step_namesStreams (hq : q.dryRun = false) {st : RunState}
    (h : NamesStreams q launcher st.records) (s : Step) :
    NamesStreams q launcher (step q launcher st s).1.records := by
  simp only [step, hq, Bool.false_eq_true, ↓reduceIte]
  split
  · exact h
  · rename_i c hc
    rcases conclude_cases q { st with trace := _ } s c with
      ⟨fault, -, hrecords, -⟩ | ⟨paths, hpaths, -, hrecords⟩
    · rw [hrecords]
      exact h
    · rw [hrecords]
      obtain ⟨hout, herr⟩ := saveStreams_isSome hpaths
      intro i record hi
      have hle := (List.getElem?_eq_some_iff.mp hi).1
      rw [List.length_append, List.length_singleton] at hle
      rcases Nat.lt_succ_iff_lt_or_eq.mp hle with hlt | rfl
      · rw [List.getElem?_append_left hlt] at hi
        exact h i record hi
      · obtain rfl := Option.some.inj (List.getElem?_concat_length.symm.trans hi)
        refine ⟨c, hc, ?_⟩
        rintro (_ | _)
        · simpa [Stream.path?, Stream.content] using hout
        · simpa [Stream.path?, Stream.content] using herr

def NamesNoLogs (record : InvocationRecord) : Prop :=
  ∀ s : Stream, s.path? record = none

theorem step_files_of_namesNoLogs {st : RunState} {s : Step}
    (hf : ∀ f, (step q launcher st s).2 ≠ some (.fault f))
    (h : ∀ record ∈ (step q launcher st s).1.records, NamesNoLogs record) :
    (∀ record ∈ st.records, NamesNoLogs record) ∧
      (step q launcher st s).1.files = st.files := by
  unfold step at hf h ⊢
  simp only at hf h ⊢
  split_ifs at hf h ⊢ with hq
  · exact ⟨fun record hm => h record (List.mem_append_left _ hm), rfl⟩
  · cases ha : (launcher st.records.length (s.invocation.command q.profile.program)).answer with
    | error fault => simp [ha] at hf
    | ok c =>
      simp only [ha] at hf h ⊢
      rw [conclude_files]
      rcases conclude_cases q { st with trace := _ } s c with
        ⟨fault, -, -, hfault⟩ | ⟨⟨out, err⟩, hpaths, -, hrecords⟩
      · exact absurd hfault (hf _)
      · rw [hrecords] at h
        have hnew := h _ (List.mem_append_right _ (List.mem_singleton_self _))
        obtain rfl : out = none := by simpa [Stream.path?] using hnew .stdout
        obtain rfl : err = none := by simpa [Stream.path?] using hnew .stderr
        exact ⟨fun record hm => h record (List.mem_append_left _ hm),
          saveStreams_files_of_none hpaths⟩

theorem steps_files_of_namesNoLogs (ss : List Step) {st : RunState}
    (hf : ∀ f, (steps q launcher st ss).2 ≠ some (.fault f))
    (h : ∀ record ∈ (steps q launcher st ss).1.records, NamesNoLogs record) :
    (steps q launcher st ss).1.files = st.files :=
  steps_invariant_of_no_fault
    (P := fun st' => (∀ record ∈ st'.records, NamesNoLogs record) → st'.files = st.files)
    (fun _ _ hf' ih h' => (step_files_of_namesNoLogs hf' h').2.trans
      (ih (step_files_of_namesNoLogs hf' h').1))
    ss hf (fun _ => rfl) h

/-! ### The whole run -/

/-- Nothing was written but the receipt, and no directory was made but those on the way to it. -/
structure OnlyReceipt (dir : Path) (before after : FileTree) : Prop where
  others : ∀ l bytes, after.locate (dir.child receiptName) ≠ .ok l →
    (after.entryAt l = some (.file bytes) ↔ before.entryAt l = some (.file bytes))
  way : MakesWay dir before after
  /-- Unless the path leads through it and up again, the directory of the logs is not made. -/
  logs : ".." ∉ dir.parts → ∀ l, after.FindsDirectory (logsDir dir) l →
    before.entryAt l = some .directory

/-- The way to a directory does not reach those below it. -/
theorem entryAt_logsDir_of_makesWay {before after : FileTree} (h : MakesWay dir before after)
    (hup : ".." ∉ dir.parts) {l : Location} (hl : after.FindsDirectory (logsDir dir) l) :
    before.entryAt l = some .directory := by
  refine (h.made l hl.2).resolve_right ?_
  rintro ⟨above, hroot, hparts, hfound⟩
  have habove := hfound.eq_append fun hm => hup (hparts.subset hm)
  have hlogs := hl.eq_append (by simp [logsDir_eq, hup])
  have hstart : after.start above = after.start (logsDir dir) := by
    rw [FileTree.start, FileTree.start, hroot, logsDir_eq]
  rw [hstart, hlogs, logsDir_eq, List.append_cancel_left_eq] at habove
  have hlen := hparts.length_le
  rw [← habove, List.length_append, List.length_singleton] at hlen
  omega

theorem finish_onlyReceipt (hd : q.outputDir = some dir) {clock : Clock} {st : RunState}
    {status : Status} {reasons : List Reason} {exitCode : Int} {r : Receipt}
    (h : (finish q clock st status reasons exitCode).outcome = .ok r) :
    OnlyReceipt dir st.files (finish q clock st status reasons exitCode).files := by
  obtain ⟨hok, hfiles⟩ := finish_of_ok hd h
  rw [hfiles]
  have hway := writeReceipt_makesWay st.files dir r
  exact ⟨(writeReceipt_of_ok hok).2.2, hway, fun hup l => entryAt_logsDir_of_makesWay hway hup⟩

theorem run_namesStreams (hq : q.dryRun = false) {clock : Clock} {files : FileTree} {r : Receipt}
    (hr : (q.run launcher clock files).outcome = .ok r) :
    NamesStreams q launcher r.invocations := by
  have hnil : NamesStreams q launcher [] := fun i record hi => by simp at hi
  rcases run_cases hr with ⟨e, -, -, rfl⟩ | ⟨plan, -, -, -, rfl⟩
  · exact hnil
  · rw [receiptOf_invocations]
    exact steps_invariant (P := fun st => NamesStreams q launcher st.records)
      (fun _ s h => step_namesStreams hq h s) (Plan.steps plan) hnil

theorem run_namesNoLogs_of_dryRun (hq : q.dryRun = true) {clock : Clock} {files : FileTree}
    {r : Receipt} (hr : (q.run launcher clock files).outcome = .ok r) :
    ∀ record ∈ r.invocations, NamesNoLogs record := by
  rcases run_cases hr with ⟨e, -, -, rfl⟩ | ⟨plan, -, -, -, rfl⟩
  · simp [receipt]
  · rw [receiptOf_invocations, steps_of_dryRun hq]
    intro record hm
    obtain ⟨⟨s, i⟩, -, rfl⟩ := List.mem_map.mp hm
    rintro (_ | _) <;> rfl

end Run

/-- The receipt names no logs, and there are none: all that was written is the receipt itself. -/
structure Receipt.LeavesNoLogs (r : Receipt) (q : Request) (before after : FileTree) : Prop where
  unnamed : ∀ record ∈ r.invocations, Run.NamesNoLogs record
  unwritten : q.outputDir = none → after = before
  written : ∀ dir, q.outputDir = some dir → Run.OnlyReceipt dir before after

namespace Run

variable {q : Request} {launcher : Launcher} {clock : Clock} {files : FileTree} {r : Receipt}

/-- A run that gives a receipt leaves no logs exactly if its records name none. -/
theorem run_leavesNoLogs_iff_unnamed (hr : (q.run launcher clock files).outcome = .ok r) :
    r.LeavesNoLogs q files (q.run launcher clock files).files ↔
      ∀ record ∈ r.invocations, NamesNoLogs record := by
  refine ⟨fun h => h.unnamed, fun h => ⟨h, fun hd => run_files_of_unwritten hd .., ?_⟩⟩
  intro dir hd
  rcases run_cases hr with ⟨e, he, -, -⟩ | ⟨plan, hp, hf, -, rfl⟩
  · rw [run_eq_finish_of_unknown clock he] at hr ⊢
    exact finish_onlyReceipt hd hr
  · rw [receiptOf_invocations] at h
    rw [run_eq_finish clock hp rfl hf] at hr ⊢
    have hfiles := steps_files_of_namesNoLogs _ hf h
    have hreceipt := finish_onlyReceipt hd hr
    rw [hfiles] at hreceipt
    exact hreceipt

/-- What an answer holds of the streams of a process that was not captured: nothing, unless it could
not be started, and then the message that says so. -/
theorem contents_of_uncaptured {s : ProcessSettings} (hs : s.capture = false)
    {command : List String} {run : ProcessRun} {c : Completion}
    (h : (s.run command run).answer = .ok c) :
    c.stdout = "" ∧ (c.stderr ≠ "" ↔ ∃ f, run.outcome = .failed f) := by
  have hcaptured : ∀ bytes, Utf8.decode (s.captured bytes) = "" := fun bytes => by
    simp only [ProcessSettings.captured, hs]
    rfl
  obtain ⟨program, arguments, -, hout, herr, -⟩ := ProcessSettings.run_contents h
  refine ⟨hout.trans (hcaptured _), ?_⟩
  rw [herr, hcaptured, String.empty_append, Ne, ProcessOutcome.failureLine_eq_empty_iff]
  simp

end Run

/-- Of processes whose output is not captured, a record names no log of standard output, and one of
standard error exactly if there is a directory and the process could not be started. A run over them
leaves no logs exactly if it has no directory, is a dry run, or could start every process. -/
theorem Request.run_leavesNoLogs_iff {q : Request} {s : ProcessSettings} {runs : List ProcessRun}
    {clock : Clock} {files : FileTree} {r : Receipt} (hs : s.capture = false)
    (hr : (q.run (.processes s runs) clock files).outcome = .ok r) :
    (∀ (i : Nat) (record : InvocationRecord), r.invocations[i]? = some record →
      record.stdoutPath = none ∧
      (record.stderrPath.isSome ↔ q.outputDir.isSome ∧ q.dryRun = false ∧
        ∃ f, (ProcessRun.nth runs i).outcome = .failed f)) ∧
    (r.LeavesNoLogs q files (q.run (.processes s runs) clock files).files ↔
      q.outputDir = none ∨ q.dryRun = true ∨
        ∀ i < r.invocations.length, ∀ f, (ProcessRun.nth runs i).outcome ≠ .failed f) := by
  have hnames : ∀ (i : Nat) (record : InvocationRecord), r.invocations[i]? = some record →
      record.stdoutPath = none ∧
      (record.stderrPath.isSome ↔ q.outputDir.isSome ∧ q.dryRun = false ∧
        ∃ f, (ProcessRun.nth runs i).outcome = .failed f) := by
    intro i record hi
    cases hq : q.dryRun with
    | true =>
      have hnone := Run.run_namesNoLogs_of_dryRun hq hr record (List.mem_of_getElem? hi)
      have hout : record.stdoutPath = none := hnone .stdout
      have herr : record.stderrPath = none := hnone .stderr
      simp [hout, herr]
    | false =>
      obtain ⟨c, hc, hpaths⟩ := Run.run_namesStreams hq hr i record hi
      rw [Launcher.processes_eq] at hc
      obtain ⟨hout, herr⟩ := Run.contents_of_uncaptured hs hc
      have hstdout := hpaths .stdout
      have hstderr := hpaths .stderr
      simp only [Stream.path?, Stream.content] at hstdout hstderr
      exact ⟨by simpa [hout] using hstdout, by rw [hstderr, herr]; simp⟩
  refine ⟨hnames, (Run.run_leavesNoLogs_iff_unnamed hr).trans ⟨fun h => ?_, fun h => ?_⟩⟩
  · refine or_iff_not_imp_left.mpr fun hd => or_iff_not_imp_left.mpr fun hq i hi f hf => ?_
    have hnone : r.invocations[i].stderrPath = none := h _ (List.getElem_mem hi) .stderr
    have hsome := (hnames i _ (List.getElem?_eq_getElem hi)).2.mpr
      ⟨Option.isSome_iff_ne_none.mpr hd, by simpa using hq, f, hf⟩
    rw [hnone] at hsome
    contradiction
  · intro record hm
    obtain ⟨i, hi⟩ := List.mem_iff_getElem?.mp hm
    obtain ⟨hout, herr⟩ := hnames i record hi
    have hlt : i < r.invocations.length := (List.getElem?_eq_some_iff.mp hi).1
    have hnone : record.stderrPath = none := by
      rw [← Option.not_isSome_iff_eq_none, herr]
      rintro ⟨hd, hq, f, hf⟩
      rcases h with h | h | h
      · simp [h] at hd
      · simp [h] at hq
      · exact h i hlt f hf
    rintro (_ | _)
    · exact hout
    · exact hnone

/-- Two processes that print, the second of which fails: the run has a directory, and there is only
the receipt in it. -/
theorem Request.run_leavesNoLogs_iff_printing :
    let dir := Path.ofString "out"
    let q : Request := { names := ["build"], outputDir := some dir }
    let s : ProcessSettings := { directory := q.projectDir, capture := false }
    let runs : List ProcessRun := [⟨.completed 0 (Utf8.encode "built") [], 0.5, 0.75⟩,
      ⟨.completed 101 [] (Utf8.encode "error"), 0.5, 0.75⟩]
    let report := q.run (.processes s runs) (fun _ => 0) .empty
    s.capture = false ∧ report.outcome.map (·.exitCode) = .ok 101 ∧
      ∀ r, report.outcome = .ok r → r.LeavesNoLogs q .empty report.files := by
  intro dir q s runs report
  refine ⟨rfl, by decide +kernel, fun r hr => ?_⟩
  refine (Request.run_leavesNoLogs_iff rfl hr).2.mpr (.inr (.inr fun i _ f => ?_))
  rcases i with _ | _ | i <;> simp [ProcessRun.nth, runs]

/-- The toolchain is missing: though nothing is captured, the message that says so is kept as a log
and the record names it. -/
theorem Request.not_leavesNoLogs_missing :
    let dir := Path.ofString "out"
    let q : Request := { names := ["build"], outputDir := some dir }
    let s : ProcessSettings := { directory := q.projectDir, capture := false }
    let runs : List ProcessRun :=
      [⟨.failed (.system 2 "No such file or directory" none), 0.5, 0.75⟩]
    let report := q.run (.processes s runs) (fun _ => 0) .empty
    report.files.read? (dir.child "logs/00.build.1.31.0.stderr") =
        some (Utf8.encode "cargo: No such file or directory\n") ∧
      ∃ r, report.outcome = .ok r ∧
        r.invocations.map (·.stderrPath) = [some "logs/00.build.1.31.0.stderr"] ∧
        ¬ r.LeavesNoLogs q .empty report.files := by
  intro dir q s runs report
  have hread : report.files.read? (dir.child "logs/00.build.1.31.0.stderr") =
      some (Utf8.encode "cargo: No such file or directory\n") := by decide +kernel
  have hpaths : report.outcome.map (·.invocations.map (·.stderrPath)) =
      .ok [some "logs/00.build.1.31.0.stderr"] := by decide +kernel
  refine ⟨hread, ?_⟩
  cases hr : report.outcome with
  | error fault =>
    rw [hr] at hpaths
    contradiction
  | ok r =>
    rw [hr] at hpaths
    have hpaths : r.invocations.map (·.stderrPath) = [some "logs/00.build.1.31.0.stderr"] :=
      Except.ok.inj hpaths
    refine ⟨r, rfl, hpaths, fun h => ?_⟩
    obtain ⟨record, hrecords, hpath⟩ := List.map_eq_singleton_iff.mp hpaths
    have hnone : record.stderrPath = none := h.unnamed record (by simp [hrecords]) .stderr
    rw [hpath] at hnone
    contradiction

end DualToolchain
