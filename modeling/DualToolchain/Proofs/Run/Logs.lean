import DualToolchain.Proofs.Run.LogNames

/-! The logs of a run. No call writes over the logs of another one; where no directory is among the
logs, every call that was recorded has left its streams, and the records say where. -/

namespace DualToolchain

open FileTree RunDirectory

namespace Run

variable {q : Request} {dir : Path} {launcher : Launcher}
  {answer : Nat → List String → Completion}

/-! ### One call -/

theorem saveStreams_makesWay (hd : q.outputDir = some dir) (files : FileTree) (index : Nat)
    (s : Step) (c : Completion) :
    MakesWay (logsDir dir) files (saveStreams q files index s c).files := by
  simp only [saveStreams, hd]
  split_ifs
  · exact .refl _ files
  · exact writeLogs_makesWay files dir _ _ _

theorem conclude_files (q : Request) (st : RunState) (s : Step) (c : Completion) :
    (conclude q st s c).1.files = (saveStreams q st.files st.records.length s c).files := by
  unfold conclude
  simp only
  split
  · rfl
  · split_ifs <;> rfl

/-- A completion is concluded if its streams are saved, and meets a fault if they are not. -/
theorem conclude_cases (q : Request) (st : RunState) (s : Step) (c : Completion) :
    let saved := saveStreams q st.files st.records.length s c
    (∃ fault, saved.result = .error fault ∧ (conclude q st s c).1.records = st.records ∧
      (conclude q st s c).2 = some (.fault (.file fault))) ∨
    ∃ paths, saved.result = .ok paths ∧
      (∀ f, (conclude q st s c).2 ≠ some (.fault f)) ∧
      (conclude q st s c).1.records = st.records ++
        [{ settled (planned q.profile.program st.records.length s) c with
            stdoutPath := paths.stdout.map Path.toString
            stderrPath := paths.stderr.map Path.toString }] := by
  unfold conclude
  cases hs : (saveStreams q st.files st.records.length s c).result with
  | error fault => exact .inl ⟨fault, hs, by simp only [hs], by simp only [hs]⟩
  | ok paths =>
    refine .inr ⟨paths, hs, ?_⟩
    simp only [hs]
    split_ifs
    · exact ⟨by simp, rfl⟩
    · exact ⟨by simp, rfl⟩

theorem saveStreams_writesInto (hd : q.outputDir = some dir) {files files' : FileTree} {index : Nat}
    {s : Step} {c : Completion} {paths : StreamPaths}
    (h : saveStreams q files index s c = ⟨files', .ok paths⟩)
    (hflat : files'.HasNoSubdirectories (logsDir dir)) :
    let call : Call := ⟨index, s, c⟩
    WritesInto (logsDir dir) call.written files files' ∧
    paths.stdout.map Path.toString = streamPath (call.fileName .stdout) c.stdout ∧
    paths.stderr.map Path.toString = streamPath (call.fileName .stderr) c.stderr ∧
    (call.HasOutput → IsPlain s.invocation.selector) := by
  simp only [saveStreams, hd] at h
  split_ifs at h with hempty
  · obtain ⟨rfl, hpaths⟩ := Written.mk.inj h
    obtain rfl := Except.ok.inj hpaths
    obtain ⟨hout, herr⟩ := hempty
    simp only [Call.written, logFiles, streamFile, streamPath, Call.HasOutput, hout, herr]
    exact ⟨.refl _ _, rfl, rfl, by simp⟩
  · obtain ⟨hw, hout, herr, hplain⟩ := writeLogs_writesInto (isStem_stem index s) h hflat
    exact ⟨hw, hout, herr, fun hc => (isPlain_stem_iff index s).mp (hplain hc)⟩

/-! ### Steps -/

theorem step_of_ok (hq : q.dryRun = false) {st : RunState} {s : Step} {c : Completion}
    (ha : (launcher st.records.length (s.invocation.command q.profile.program)).answer = .ok c) :
    ∃ trace, step q launcher st s = conclude q { st with trace := trace } s c := by
  simp only [step, hq, Bool.false_eq_true, ↓reduceIte, ha]
  exact ⟨_, rfl⟩

theorem step_of_answers (hq : q.dryRun = false) (hl : launcher.Answers answer) (st : RunState)
    (s : Step) :
    ∃ trace, step q launcher st s = conclude q { st with trace := trace } s
      (answer st.records.length (s.invocation.command q.profile.program)) :=
  step_of_ok hq (hl.answer_eq st.records.length _ (s.invocation.command_ne_nil q.profile.program))

theorem step_makesWay (hd : q.outputDir = some dir) (launcher : Launcher) (st : RunState)
    (s : Step) : MakesWay (logsDir dir) st.files (step q launcher st s).1.files := by
  unfold step
  simp only
  split_ifs
  · exact .refl _ st.files
  · split
    · exact .refl _ st.files
    · rw [conclude_files]
      exact saveStreams_makesWay hd ..

/-- Whatever is launched, steps make no directories but those on the way to the logs. -/
theorem steps_makesWay (hd : q.outputDir = some dir) (launcher : Launcher) (ss : List Step)
    (st : RunState) : MakesWay (logsDir dir) st.files (steps q launcher st ss).1.files :=
  steps_invariant (P := fun st' => MakesWay (logsDir dir) st.files st'.files)
    (fun st' s h => h.trans (step_makesWay hd launcher st' s)) ss (.refl _ st.files)

/-- A step that meets no fault leaves the streams of its call, and its record says where. -/
theorem step_keepsStreams (hd : q.outputDir = some dir) (hq : q.dryRun = false) (st : RunState)
    (s : Step) (h : ∀ f, (step q launcher st s).2 ≠ some (.fault f))
    (hflat : (step q launcher st s).1.files.HasNoSubdirectories (logsDir dir)) :
    let c : Call := ⟨st.records.length, s,
      launcher.completion st.records.length (s.invocation.command q.profile.program)⟩
    WritesInto (logsDir dir) c.written st.files (step q launcher st s).1.files ∧
    (step q launcher st s).1.records = st.records ++ [c.keptRecord q.profile.program] ∧
    (c.HasOutput → IsPlain s.invocation.selector) := by
  obtain ⟨trace, hstep⟩ := step_of_ok hq (step_answered hq st s h).1
  rw [hstep] at h hflat ⊢
  rw [conclude_files] at hflat ⊢
  rcases conclude_cases q { st with trace := trace } s
    (launcher.completion st.records.length (s.invocation.command q.profile.program)) with
      ⟨fault, -, -, hfault⟩ | ⟨paths, hpaths, -, hrecords⟩
  · exact absurd hfault (h _)
  · obtain ⟨hw, hout, herr, hplain⟩ := saveStreams_writesInto hd
      (congrArg (Written.mk _) hpaths) hflat
    refine ⟨hw, ?_, hplain⟩
    rw [hrecords, hout, herr]
    rfl

/-- A step that meets no fault is the first of the calls; the others follow if it goes on. -/
theorem calls_of_step (hq : q.dryRun = false) (st : RunState) (s : Step) (rest : List Step)
    (h : ∀ f, (step q launcher st s).2 ≠ some (.fault f)) :
    let program := q.profile.program
    let c : Call :=
      ⟨st.records.length, s, launcher.completion st.records.length (s.invocation.command program)⟩
    (step q launcher st s).1.records.length = st.records.length + 1 ∧
    calls program launcher.completion st.records.length (s :: rest) =
      c :: if (step q launcher st s).2 = none then
        calls program launcher.completion (st.records.length + 1) rest else [] := by
  obtain ⟨-, hstop, -, hrecords⟩ := step_answered hq st s h
  constructor
  · simpa using congrArg List.length hrecords
  · simp only [calls, hstop, Completion.stop?_eq_none_iff]

theorem index_le_of_mem_calls {program : String} {ss : List Step} {i : Nat} {c : Call}
    (h : c ∈ calls program answer i ss) : i ≤ c.index := by
  obtain ⟨j, hj⟩ := List.mem_iff_getElem?.mp h
  obtain ⟨-, hidx, -⟩ := getElem?_calls hj
  omega

/-- Steps that meet no fault leave the streams of their calls, each in a file of its own, and the
records say where. -/
theorem steps_keepsStreams (hd : q.outputDir = some dir) (hq : q.dryRun = false) (ss : List Step)
    (st : RunState) (h : ∀ f, (steps q launcher st ss).2 ≠ some (.fault f))
    (hflat : (steps q launcher st ss).1.files.HasNoSubdirectories (logsDir dir)) :
    let cs := calls q.profile.program launcher.completion st.records.length ss
    WritesInto (logsDir dir) (cs.flatMap Call.written) st.files
      (steps q launcher st ss).1.files ∧
    (steps q launcher st ss).1.records =
      st.records ++ cs.map (·.keptRecord q.profile.program) ∧
    ∀ c ∈ cs, c.HasOutput → IsPlain c.step.invocation.selector := by
  induction ss generalizing st with
  | nil => exact ⟨.refl _ _, by simp [steps, calls], by simp [calls]⟩
  | cons s rest ih =>
    have hcalls := @calls_of_step q launcher hq st s rest
    have hkept := @step_keepsStreams q dir launcher hd hq st s
    rw [steps] at h hflat ⊢
    generalize step q launcher st s = res at hcalls hkept h hflat ⊢
    obtain ⟨st', stop⟩ := res
    cases stop with
    | some stop =>
      obtain ⟨-, hcs⟩ := hcalls h
      obtain ⟨hw, hrecords, hplain⟩ := hkept h hflat
      simp only [hcs, reduceCtorEq, ↓reduceIte]
      exact ⟨by simpa using hw, by simpa using hrecords, by simpa using hplain⟩
    | none =>
      obtain ⟨hlen, hcs⟩ := hcalls (by simp)
      obtain ⟨hw, hrecords, hplain⟩ :=
        hkept (by simp) (hflat.of_keeps (steps_makesWay hd launcher rest st').keeps)
      obtain ⟨iw, irecords, iplain⟩ := ih st' h hflat
      rw [hlen] at iw irecords iplain
      simp only [hcs, ↓reduceIte]
      refine ⟨?_, ?_, ?_⟩
      · rw [List.flatMap_cons]
        refine hw.trans iw fun x hx y hy => ?_
        obtain ⟨c, hc, hyc⟩ := List.mem_flatMap.mp hy
        have hne : st.records.length ≠ c.index := by
          have hle := index_le_of_mem_calls hc
          omega
        exact Call.written_disjoint hne x hx y hyc
      · rw [irecords, hrecords]
        simp
      · exact List.forall_mem_cons.mpr ⟨hplain, iplain⟩

end Run

/-! ### The whole run -/

/-- What a receipt says of the streams of the calls, as they were `answer`ed, is what a run has made
of the files that it found. -/
structure Receipt.KeepsStreams (r : Receipt) (answer : Nat → List String → Completion) (dir : Path)
    (before after : FileTree) : Prop where
  path_isSome_iff : ∀ (i : Nat) (record : InvocationRecord), r.invocations[i]? = some record →
    ∀ s : Stream, (s.path? record).isSome ↔ s.content (answer i record.command) ≠ ""
  /-- A recorded path is that of a file right below the directory of the logs, and the file holds
  the encoded stream. -/
  stored : ∀ (i : Nat) (record : InvocationRecord), r.invocations[i]? = some record →
    ∀ (s : Stream) (p : String), s.path? record = some p →
      after.read? (dir.child p) = some (Utf8.encode (s.content (answer i record.command))) ∧
      ∃ logs name, after.FindsDirectory (logsDir dir) logs ∧
        after.locate (dir.child p) = .ok (logs ++ [name])
  /-- No two streams share a file. -/
  distinct : ∀ (i i' : Nat) (record record' : InvocationRecord),
    r.invocations[i]? = some record → r.invocations[i']? = some record' →
    ∀ (s s' : Stream) (p p' : String), s.path? record = some p → s'.path? record' = some p' →
      after.locate (dir.child p) = after.locate (dir.child p') → i = i' ∧ s = s'
  /-- All other files but the receipt are as they were. -/
  others : ∀ (l : Location) (bytes : List UInt8),
    (∀ (i : Nat) (record : InvocationRecord), r.invocations[i]? = some record →
      ∀ (s : Stream) (p : String), s.path? record = some p →
        after.locate (dir.child p) ≠ .ok l) →
    after.locate (dir.child receiptName) ≠ .ok l →
    (after.entryAt l = some (.file bytes) ↔ before.entryAt l = some (.file bytes))
  /-- No directory is made for a log, only the ones on the way to all of them. -/
  way : MakesWay (logsDir dir) before after

namespace Run

variable {q : Request} {dir : Path} {answer : Nat → List String → Completion} {clock : Clock}
  {files : FileTree} {r : Receipt}

theorem finish_of_ok (hd : q.outputDir = some dir) {st : RunState} {status : Status}
    {reasons : List Reason} {exitCode : Int}
    (h : (finish q clock st status reasons exitCode).outcome = .ok r) :
    (writeReceipt st.files dir r).result = .ok (dir.child receiptName) ∧
      (finish q clock st status reasons exitCode).files =
        (writeReceipt st.files dir r).files := by
  obtain rfl := finish_outcome h
  simp only [finish, hd] at h ⊢
  cases hw : (writeReceipt st.files dir (receipt q clock st.records status reasons exitCode)).result
  with
  | error fault => simp [hw] at h
  | ok path =>
    obtain ⟨rfl, -⟩ := writeReceipt_of_ok hw
    exact ⟨rfl, rfl⟩

/-- The files of calls are there, right below the directory of the logs, and all other files but the
receipt are as before. -/
structure HoldsLogs (cs : List Call) (dir : Path) (before after : FileTree) : Prop where
  hasNul : dir.hasNul = false
  plain : ∀ c ∈ cs, c.HasOutput → IsPlain c.step.invocation.selector
  found : ∀ c ∈ cs, c.HasOutput → ∃ logs, after.FindsDirectory (logsDir dir) logs
  stored : ∀ logs, after.FindsDirectory (logsDir dir) logs →
    ∀ w ∈ cs.flatMap Call.written, after.entryAt (logs ++ [w.1]) = some (.file w.2)
  others : ∀ l bytes, (∀ logs, after.FindsDirectory (logsDir dir) logs →
      ∀ w ∈ cs.flatMap Call.written, l ≠ logs ++ [w.1]) →
    after.locate (dir.child receiptName) ≠ .ok l →
    (after.entryAt l = some (.file bytes) ↔ before.entryAt l = some (.file bytes))
  way : MakesWay (logsDir dir) before after

theorem finish_holdsLogs (hd : q.outputDir = some dir) {st : RunState} {status : Status}
    {reasons : List Reason} {exitCode : Int}
    (h : (finish q clock st status reasons exitCode).outcome = .ok r) {cs : List Call}
    (hw : WritesInto (logsDir dir) (cs.flatMap Call.written) files st.files)
    (hplain : ∀ c ∈ cs, c.HasOutput → IsPlain c.step.invocation.selector) :
    HoldsLogs cs dir files (finish q clock st status reasons exitCode).files := by
  obtain ⟨hok, hfiles⟩ := finish_of_ok hd h
  have hname : ∀ w ∈ cs.flatMap Call.written, w.1 ≠ receiptName := by
    intro w hmem
    obtain ⟨c, -, s, -, rfl⟩ := mem_flatMap_written_iff.mp hmem
    exact log_ne_receiptName _ s
  obtain ⟨hstored, hothers⟩ := writeReceipt_of_writesInto hw hname hok
  have hway := makesWay_logsDir (writeReceipt_makesWay st.files dir r)
  rw [hfiles]
  refine ⟨(locate_of_writeReceipt hok).1, hplain, fun c hc hout => ?_, hstored, hothers,
    hw.way.trans hway⟩
  obtain ⟨s, hs⟩ := Call.hasOutput_iff.mp hout
  obtain ⟨logs, hlogs⟩ :=
    hw.found (List.ne_nil_of_mem (mem_flatMap_written_iff.mpr ⟨c, hc, s, hs, rfl⟩))
  exact ⟨logs, hlogs.keep hway.keeps⟩

section HoldsLogs

variable {cs : List Call} {before after : FileTree}

theorem HoldsLogs.locate (h : HoldsLogs cs dir before after) {c : Call} (hc : c ∈ cs) {s : Stream}
    (hs : s.content c.completion ≠ "") :
    ∃ logs, after.FindsDirectory (logsDir dir) logs ∧
      after.locate (dir.child ("logs/" ++ c.fileName s)) = .ok (logs ++ [c.fileName s]) ∧
      after.read? (dir.child ("logs/" ++ c.fileName s)) =
        some (Utf8.encode (s.content c.completion)) := by
  have hout := Call.hasOutput_iff.mpr ⟨s, hs⟩
  have hplain := (isPlain_stem_iff c.index c.step).mpr (h.plain c hc hout)
  have hname : Path.IsName (c.fileName s).toList := (isStem_stem _ _).isName hplain.1 s
  obtain ⟨logs, hlogs⟩ := h.found c hc hout
  have hlocate : after.locate (dir.child ("logs/" ++ c.fileName s)) =
      .ok (logs ++ [c.fileName s]) := by
    rw [child_logs hname, locate_child hlogs.1 hlogs.2 hname]
  have hentry := h.stored logs hlogs _ (mem_flatMap_written_iff.mpr ⟨c, hc, s, hs, rfl⟩)
  have hnul : (dir.child ("logs/" ++ c.fileName s)).hasNul = false := by
    rw [child_logs hname, Call.fileName, hasNul_log (isStem_stem _ _) hplain, h.hasNul]
  exact ⟨logs, hlogs, hlocate, read?_eq_some_iff.mpr ⟨hnul, _, hlocate, hentry⟩⟩

/-- A record is that of a call, and a path in it that of a stream with content. -/
theorem exists_call_of_record {program : String} {records : List InvocationRecord}
    (hr : records = cs.map (·.keptRecord program))
    (hcalls : ∀ (i : Nat) (c : Call), cs[i]? = some c →
      c.index = i ∧ c.completion = answer i (c.command program)) {i : Nat}
    {record : InvocationRecord} (hi : records[i]? = some record) :
    ∃ c ∈ cs, c.index = i ∧ c.completion = answer i record.command ∧
      ∀ s : Stream, s.path? record = streamPath (c.fileName s) (s.content c.completion) := by
  rw [hr, List.getElem?_map, Option.map_eq_some_iff] at hi
  obtain ⟨c, hc, rfl⟩ := hi
  obtain ⟨hidx, hanswer⟩ := hcalls i c hc
  exact ⟨c, List.mem_of_getElem? hc, hidx, hanswer, Call.path?_keptRecord _ c⟩

theorem HoldsLogs.keepsStreams (h : HoldsLogs cs dir before after) (program : String)
    (hr : r.invocations = cs.map (·.keptRecord program))
    (hcalls : ∀ (i : Nat) (c : Call), cs[i]? = some c →
      c.index = i ∧ c.completion = answer i (c.command program)) :
    r.KeepsStreams answer dir before after := by
  refine ⟨?isSome, ?stored, ?distinct, ?others, h.way⟩
  case isSome =>
    intro i record hi s
    obtain ⟨c, -, -, hanswer, hpath⟩ := exists_call_of_record hr hcalls hi
    rw [hpath s, ← hanswer, streamPath]
    split_ifs with hc <;> simp [hc]
  case stored =>
    intro i record hi s p hp
    obtain ⟨c, hc, -, hanswer, hpath⟩ := exists_call_of_record hr hcalls hi
    rw [hpath s] at hp
    obtain ⟨hs, rfl⟩ := streamPath_eq_some_iff.mp hp
    obtain ⟨logs, hlogs, hlocate, hread⟩ := h.locate hc hs
    rw [← hanswer]
    exact ⟨hread, logs, _, hlogs, hlocate⟩
  case distinct =>
    intro i i' record record' hi hi' s s' p p' hp hp' heq
    obtain ⟨c, hc, rfl, -, hpath⟩ := exists_call_of_record hr hcalls hi
    obtain ⟨c', hc', rfl, -, hpath'⟩ := exists_call_of_record hr hcalls hi'
    rw [hpath s] at hp
    rw [hpath' s'] at hp'
    obtain ⟨hs, rfl⟩ := streamPath_eq_some_iff.mp hp
    obtain ⟨hs', rfl⟩ := streamPath_eq_some_iff.mp hp'
    obtain ⟨logs, hlogs, hlocate, -⟩ := h.locate hc hs
    obtain ⟨logs', hlogs', hlocate', -⟩ := h.locate hc' hs'
    obtain rfl := hlogs.eq hlogs'.1
    rw [hlocate, hlocate'] at heq
    have hname : c.fileName s = c'.fileName s' := by simpa using heq
    exact Call.fileName_cancel hname
  case others =>
    intro l bytes hlog hreceipt
    refine h.others l bytes (fun logs hlogs w hw heq => ?_) hreceipt
    -- A location of a file of the calls is that of a path in the record of one of them.
    obtain ⟨c, hc, s, hs, rfl⟩ := mem_flatMap_written_iff.mp hw
    obtain ⟨logs', hlogs', hlocate, -⟩ := h.locate hc hs
    obtain rfl := hlogs.eq hlogs'.1
    obtain ⟨i, hi⟩ := List.mem_iff_getElem?.mp hc
    refine hlog i (c.keptRecord program) ?_ s _ ?_ (heq ▸ hlocate)
    · rw [hr, List.getElem?_map, hi, Option.map_some]
    · rw [Call.path?_keptRecord, streamPath, if_neg hs]

end HoldsLogs

theorem finish_makesWay (hd : q.outputDir = some dir) (clock : Clock) (st : RunState)
    (status : Status) (reasons : List Reason) (exitCode : Int) :
    MakesWay (logsDir dir) st.files (finish q clock st status reasons exitCode).files := by
  rw [finish_files hd]
  exact makesWay_logsDir (writeReceipt_makesWay st.files dir _)

/-- However a run ends, it has made no directories but those on the way to its logs. -/
theorem run_makesWay (hd : q.outputDir = some dir) (launcher : Launcher) (clock : Clock)
    (files : FileTree) : MakesWay (logsDir dir) files (q.run launcher clock files).files := by
  unfold Request.run
  split
  · exact finish_makesWay hd clock ⟨files, _, []⟩ ..
  · rename_i plan _
    have hs := steps_makesWay hd launcher (Plan.steps plan) (start q plan files)
    rw [start] at hs
    simp only
    split
    · rename_i hsteps
      rw [hsteps] at hs
      exact hs.trans (finish_makesWay hd ..)
    · rename_i hsteps
      rw [hsteps] at hs
      exact hs.trans (finish_makesWay hd ..)
    · rename_i hsteps
      rwa [hsteps] at hs

/-- A real run that gives a receipt and leaves no directory among its logs holds those of its calls,
in the order of its records. -/
theorem run_holdsLogs (hd : q.outputDir = some dir) (hq : q.dryRun = false) {launcher : Launcher}
    (hr : (q.run launcher clock files).outcome = .ok r)
    (hflat : (q.run launcher clock files).files.HasNoSubdirectories (logsDir dir)) :
    ∃ cs, HoldsLogs cs dir files (q.run launcher clock files).files ∧
      r.invocations = cs.map (·.keptRecord q.profile.program) ∧
      ∀ (i : Nat) (c : Call), cs[i]? = some c →
        c.index = i ∧ c.IsAnswered q.profile.program launcher := by
  rcases run_cases hr with ⟨e, hp, -⟩ | ⟨plan, hp, hf, -⟩
  · rw [run_eq_finish_of_unknown clock hp] at hr ⊢
    have hw : WritesInto (logsDir dir) (List.flatMap Call.written []) files files := .refl _ _
    have hrecords := congrArg Receipt.invocations (finish_outcome hr)
    exact ⟨[], finish_holdsLogs hd hr hw (by simp), hrecords, by simp⟩
  · obtain ⟨hanswered, -⟩ := steps_answered hq _ _ hf
    rw [run_eq_finish clock hp rfl hf] at hr hflat ⊢
    rw [(finish_of_ok hd hr).2] at hflat
    obtain ⟨hw, hrecords, hplain⟩ := steps_keepsStreams hd hq _ _ hf
      (hflat.of_keeps (writeReceipt_makesWay ..).keeps)
    refine ⟨_, finish_holdsLogs hd hr hw hplain, ?_, fun i c hc => ?_⟩
    · rw [finish_outcome hr]
      exact hrecords
    · obtain ⟨-, hindex, -⟩ := getElem?_calls hc
      exact ⟨hindex.trans (Nat.zero_add i), hanswered c (List.mem_of_getElem? hc)⟩

end Run

/-- Unless the path of the directory leads up on its way, a run makes no directories among the
logs. -/
theorem Request.run_hasNoSubdirectories {q : Request} {dir : Path} {files : FileTree}
    (hd : q.outputDir = some dir) (hup : ".." ∉ dir.parts) (hc : files.IsClosed)
    (hflat : files.HasNoSubdirectories (logsDir dir)) (launcher : Launcher) (clock : Clock) :
    (q.run launcher clock files).files.HasNoSubdirectories (logsDir dir) := by
  refine (Run.run_makesWay hd launcher clock files).hasNoSubdirectories hc ?_ hflat
  rw [logsDir_eq, List.mem_append]
  exact not_or.mpr ⟨hup, by decide⟩

/-- With a launcher that answers, a run that gives a receipt and leaves no directory among its logs
keeps all streams with content, as the receipt says. -/
theorem Request.run_keepsStreams {q : Request} {dir : Path} {launcher : Launcher}
    {answer : Nat → List String → Completion} {clock : Clock} {files : FileTree} {r : Receipt}
    (hd : q.outputDir = some dir) (hq : q.dryRun = false) (hl : launcher.Answers answer)
    (hr : (q.run launcher clock files).outcome = .ok r)
    (hflat : (q.run launcher clock files).files.HasNoSubdirectories (logsDir dir)) :
    r.KeepsStreams answer dir files (q.run launcher clock files).files := by
  obtain ⟨cs, hlogs, hrecords, hcalls⟩ := Run.run_holdsLogs hd hq hr hflat
  refine hlogs.keepsStreams q.profile.program hrecords fun i c hc => ?_
  obtain ⟨rfl, hanswered⟩ := hcalls i c hc
  have ha := hl.answer_eq c.index _ (c.step.invocation.command_ne_nil q.profile.program)
  exact ⟨rfl, Except.ok.inj (hanswered.symm.trans ha)⟩

/-- Logs and a receipt of an earlier run are there, one of them longer than the new log of its
name. -/
theorem Request.run_keepsStreams_older :
    let dir := Path.ofString "out"
    let q : Request := { names := [], outputDir := some dir }
    let answers : List Completion := [⟨0, "built", "", 4, none⟩, ⟨101, "half", "é", 6, none⟩]
    let answer := Launcher.preparedAnswer answers
    let files : FileTree := ⟨[(["out"], .directory), (["out", "logs"], .directory),
      (["out", "logs", "00.build.1.31.0.stdout"], .file [1, 2, 3, 4, 5, 6, 7, 8]),
      (["out", receiptName], .file [1]), (["out", "notes"], .file [2])], []⟩
    let report := q.run (.prepared answers) (fun _ => 0) files
    q.outputDir = some dir ∧ q.dryRun = false ∧ (Launcher.prepared answers).Answers answer ∧
      report.outcome.map (·.invocations.map (·.stderrPath)) =
        .ok [none, some "logs/01.build.stable.stderr"] ∧
      report.files.HasNoSubdirectories (logsDir dir) ∧
      ∀ r, report.outcome = .ok r → r.KeepsStreams answer dir files report.files := by
  intro dir q answers answer files report
  have hl := Launcher.prepared_answers answers
  have hflat : report.files.HasNoSubdirectories (logsDir dir) :=
    hasNoSubdirectories_of_entries (l := ["out", "logs"]) (by decide +kernel) (by decide +kernel)
  refine ⟨by rfl, by rfl, hl, by decide +kernel, hflat, fun r hr => ?_⟩
  exact Request.run_keepsStreams (by rfl) (by rfl) hl hr hflat

end DualToolchain
