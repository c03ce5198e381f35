import DualToolchain.Proofs.FileTree.Repetition
import DualToolchain.Proofs.Run.Containment
import DualToolchain.Proofs.Run.Files

/-! Runs that are made again. A run looks at the files that are there only to find its way, so where
it gave a receipt, the same run on the files that it left finds the same way, writes the same files
and changes nothing. -/

namespace DualToolchain

open FileTree RunDirectory

/-! ### The writers -/

namespace RunDirectory

/-- A writer that, where it succeeded, succeeds again and gives the same. -/
def IsRepeatable {α : Type} (write : FileTree → Written α) : Prop :=
  ∀ ⦃last t t' s : FileTree⦄ ⦃a : α⦄, write t = ⟨t', .ok a⟩ → KeepsKinds t' last →
    Repeats last t s → ∃ s', write s = ⟨s', .ok a⟩ ∧ Repeats last t' s'

theorem IsRepeatable.related {α : Type} {write : FileTree → Written α} (h : IsRepeatable write)
    {last t s : FileTree} {a : α} (hok : (write t).result = .ok a)
    (hk : KeepsKinds (write t).files last) (hr : Repeats last t s) :
    (write t).Related (Repeats last) (write s) := by
  obtain ⟨s', hs', h'⟩ := h (congrArg (Written.mk _) hok) hk hr
  rw [hs']
  exact ⟨hok.symm, h'⟩

theorem writeStream_isRepeatable (dir : Path) (name content : String) :
    IsRepeatable (writeStream · dir name content) := by
  intro last t t' s path hok hk h
  simp only [writeStream] at hok ⊢
  split_ifs at hok ⊢
  · obtain ⟨rfl, hpath⟩ := Written.mk.inj hok
    exact ⟨s, by rw [hpath], h⟩
  · cases hw : t.writeFile ((logsDir dir).child name) (Utf8.encode content) with
    | error fault => simp [hw] at hok
    | ok t₁ =>
      cases hrel : ((logsDir dir).child name).relativeTo? dir with
      | none => simp [hw, hrel] at hok
      | some rel =>
        simp only [hw, hrel] at hok ⊢
        obtain ⟨rfl, hpath⟩ := Written.mk.inj hok
        obtain ⟨s', hs', h'⟩ := h.writeFile hw hk
        exact ⟨s', by simp only [hs', hpath], h'⟩

theorem writeStream_keepsKinds {files files' : FileTree} {dir : Path} {name content : String}
    {result : Except FileFault (Option Path)}
    (h : writeStream files dir name content = ⟨files', result⟩) : KeepsKinds files files' := by
  have hc := writeStream_changesOnly files dir name content
  rw [h] at hc
  exact hc.keepsKinds

theorem writeLogs_isRepeatable (dir : Path) (stem stdout stderr : String) :
    IsRepeatable (writeLogs · dir stem stdout stderr) := by
  intro last t t' s paths hok hk h
  simp only [writeLogs] at hok ⊢
  rcases hm : t.makeDirectories (logsDir dir) with ⟨t₁, _ | fault⟩
  · rcases ho : writeStream t₁ dir (stem ++ ".stdout") stdout with ⟨t₂, fault | out⟩
    · simp [hm, ho] at hok
    · rcases he : writeStream t₂ dir (stem ++ ".stderr") stderr with ⟨t₃, fault | err⟩
      · simp [hm, ho, he] at hok
      · simp only [hm, ho, he] at hok
        obtain ⟨rfl, hpaths⟩ := Written.mk.inj hok
        -- What is there after each write stays until the end.
        have hk₂ := (writeStream_keepsKinds he).trans hk
        have hk₁ := (writeStream_keepsKinds ho).trans hk₂
        obtain ⟨hs₁, h₁⟩ := h.makeDirectories hm hk₁
        obtain ⟨s₂, hs₂, h₂⟩ := writeStream_isRepeatable dir _ stdout ho hk₂ h₁
        obtain ⟨s₃, hs₃, h₃⟩ := writeStream_isRepeatable dir _ stderr he hk h₂
        exact ⟨s₃, by simp only [hs₁, hs₂, hs₃, hpaths], h₃⟩
  · simp [hm] at hok

theorem writeReceipt_isRepeatable (dir : Path) (r : Receipt) :
    IsRepeatable (writeReceipt · dir r) := by
  intro last t t' s path hok hk h
  simp only [writeReceipt] at hok ⊢
  rcases hm : t.makeDirectories dir with ⟨t₁, _ | fault⟩
  · cases hw : t₁.writeFile (dir.child receiptName) (Utf8.encode r.document) with
    | error fault => simp [hm, hw] at hok
    | ok t₂ =>
      simp only [hm, hw] at hok
      obtain ⟨rfl, hpath⟩ := Written.mk.inj hok
      have hk₁ := (ChangesOnly.of_writeFile hw).keepsKinds.trans hk
      obtain ⟨hs₁, h₁⟩ := h.makeDirectories hm hk₁
      obtain ⟨s₂, hs₂, h₂⟩ := h₁.writeFile hw hk
      exact ⟨s₂, by simp only [hs₁, hs₂, hpath], h₂⟩
  · simp [hm] at hok

end RunDirectory

namespace Run

variable {q : Request} {dir : Path} {launcher : Launcher} {clock : Clock}

/-! ### Steps -/

theorem saveStreams_isRepeatable (hd : q.outputDir = some dir) (index : Nat) (s : Step)
    (c : Completion) : IsRepeatable (saveStreams q · index s c) := by
  intro last t t' files paths hok hk h
  simp only [saveStreams, hd] at hok ⊢
  split_ifs at hok ⊢
  · obtain ⟨rfl, hpaths⟩ := Written.mk.inj hok
    exact ⟨files, by rw [hpaths], h⟩
  · exact writeLogs_isRepeatable dir _ _ _ hok hk h

/-- The steps met no fault, and what they left is still there. -/
def IsKept (last : FileTree) (taken : RunState × Option Stop) : Prop :=
  (∀ f, taken.2 ≠ some (.fault f)) ∧ KeepsKinds taken.1.files last

theorem step_again (hd : q.outputDir = some dir) {last files : FileTree} {st : RunState} {s : Step}
    (hkept : IsKept last (step q launcher st s)) (h : Repeats last st.files files) :
    Related (Repeats last) (step q launcher st s) (step q launcher (st.on files) s) := by
  refine step_related h fun c trace hstep => ?_
  obtain ⟨hf, hk⟩ := hkept
  rw [hstep] at hf hk
  rw [conclude_files] at hk
  rcases conclude_cases q { st with trace := trace } s c with ⟨fault, -, -, hfault⟩ | ⟨paths, hok, -⟩
  · exact absurd hfault (hf _)
  · exact (saveStreams_isRepeatable hd _ s c).related hok hk h

theorem steps_again (hd : q.outputDir = some dir) (ss : List Step) {last files : FileTree}
    {st : RunState} (hkept : IsKept last (steps q launcher st ss))
    (h : Repeats last st.files files) :
    Related (Repeats last) (steps q launcher st ss) (steps q launcher (st.on files) ss) :=
  steps_related (fun _ _ _ hkept h => step_again hd hkept h)
    (fun st ss hkept =>
      ⟨by simp, (steps_changesOnly hd launcher ss st).keepsKinds.trans hkept.2⟩) ss hkept h

/-! ### The whole run -/

/-- The end of a run that gave a receipt is the same again, and leaves the files as they were. -/
theorem finish_again (hd : q.outputDir = some dir) {st : RunState} {status : Status}
    {reasons : List Reason} {exitCode : Int} {r : Receipt}
    (hr : (finish q clock st status reasons exitCode).outcome = .ok r) {files : FileTree}
    (h : Repeats (finish q clock st status reasons exitCode).files st.files files) :
    finish q clock (st.on files) status reasons exitCode =
      finish q clock st status reasons exitCode := by
  obtain ⟨hok, hfiles⟩ := finish_of_ok hd hr
  obtain rfl := finish_outcome hr
  rw [hfiles] at h
  have hagain := (writeReceipt_isRepeatable dir _).related hok (.refl _) h
  rw [finish_on hd hagain.result_eq, hagain.files.eq, Report.on, ← hfiles]

theorem run_again (hd : q.outputDir = some dir) {files : FileTree} {r : Receipt}
    (hr : (q.run launcher clock files).outcome = .ok r) :
    q.run launcher clock (q.run launcher clock files).files = q.run launcher clock files := by
  have hbegin : Repeats (q.run launcher clock files).files files
      (q.run launcher clock files).files :=
    .start (run_changesOnly hd launcher clock files).keepsKinds
  obtain ⟨e, he, -⟩ | ⟨plan, hp, hf, -⟩ := run_cases hr
  · rw [run_eq_finish_of_unknown clock he] at hr hbegin ⊢
    rw [run_eq_finish_of_unknown clock he]
    exact finish_again hd hr hbegin
  · rw [run_eq_finish clock hp rfl hf] at hr hbegin ⊢
    obtain ⟨files', hsteps, h'⟩ :=
      steps_again hd (Plan.steps plan) ⟨hf, (finish_changesOnly hd ..).keepsKinds⟩ hbegin
    rw [run_eq_finish clock hp hsteps hf]
    exact finish_again hd hr h'

end Run

/-- A run that gave a receipt is the same run again on the files that it left: the same is launched
and logged, the receipt is the same, and the files are as they were. -/
theorem Request.run_repeats {q : Request} {launcher : Launcher} {clock : Clock} {files : FileTree}
    {r : Receipt} (h : (q.run launcher clock files).outcome = .ok r) :
    q.run launcher clock (q.run launcher clock files).files = q.run launcher clock files := by
  cases hd : q.outputDir with
  | none => rw [Run.run_files_of_unwritten hd]
  | some dir => exact Run.run_again hd h

/-- Both selectors lead out of the directory of the logs and to one file, which was longer before:
the second call writes over the log of the first one, in both runs. -/
theorem Request.run_repeats_shared :
    let dir := Path.ofString "out"
    let profile : Profile :=
      ⟨"cargo", "x/../../same", "x/.././../same", "build", by decide, by decide, by decide⟩
    let q : Request := { names := [], profile := profile, outputDir := some dir }
    let files : FileTree := ⟨[(["out"], .directory), (["out", "logs"], .directory),
      (["out", "logs", "00.build.x"], .directory), (["out", "logs", "01.build.x"], .directory),
      (["out", "same.stdout"], .file (Utf8.encode "from an earlier run"))], []⟩
    let launcher := Launcher.prepared [⟨0, "first", "", 4, none⟩, ⟨-9, "second", "", 6, none⟩]
    let report := q.run launcher (fun _ => 0) files
    (∃ r, report.outcome = .ok r ∧ r.exitCode = 1) ∧
      report.files.read? (.ofString "out/same.stdout") = some (Utf8.encode "second") ∧
      q.run launcher (fun _ => 0) report.files = report := by
  intro dir profile q files launcher report
  have hcode : report.outcome.map (·.exitCode) = .ok 1 := by decide +kernel
  cases hr : report.outcome with
  | error fault => simp [hr, Except.map] at hcode
  | ok r =>
    rw [hr] at hcode
    exact ⟨⟨r, rfl, Except.ok.inj hcode⟩, by decide +kernel, Request.run_repeats hr⟩

end DualToolchain
