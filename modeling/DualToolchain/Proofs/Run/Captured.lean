import DualToolchain.Proofs.Run.Logs
import DualToolchain.Proofs.Run.Relay
import DualToolchain.Proofs.Text.Repair

/-! Runs whose processes are captured. Between the bytes that a process has left on a stream and the
log of the stream they are a text, so well-formed bytes come through as they are, and others
repaired. -/

namespace DualToolchain

open FileTree RunDirectory

/-- The log under a path keeps bytes, if there are any. It is always well-formed; well-formed bytes,
and no others, are kept as they are, and in general they are repaired. -/
structure FileTree.KeepsBytes (files : FileTree) (dir : Path) (path? : Option String)
    (bytes : List UInt8) : Prop where
  isSome_iff : path?.isSome ↔ bytes ≠ []
  kept : ∀ p, path? = some p → ∃ log, files.read? (dir.child p) = some log ∧
    log.toByteArray.IsValidUTF8 ∧ (log = bytes ↔ bytes.toByteArray.IsValidUTF8) ∧
    Utf8.Repairs bytes log

namespace Run

variable {cs : List Call} {dir : Path} {before after : FileTree}

theorem HoldsLogs.keepsBytes (h : HoldsLogs cs dir before after) {c : Call} (hc : c ∈ cs)
    {s : Stream} {bytes : List UInt8} (hs : s.content c.completion = Utf8.decode bytes) :
    after.KeepsBytes dir (streamPath (c.fileName s) (s.content c.completion)) bytes := by
  refine ⟨?_, fun p hp => ?_⟩
  · rw [hs, streamPath, Ne, ← Utf8.decode_eq_empty_iff]
    split_ifs with hempty <;> simp [hempty]
  · obtain ⟨hne, rfl⟩ := streamPath_eq_some_iff.mp hp
    obtain ⟨logs, -, -, hread⟩ := h.locate hc hne
    rw [hs] at hread
    exact ⟨_, hread, Utf8.isValidUTF8_encode _, Utf8.encode_decode_eq_iff bytes,
      (Utf8.repairs_iff ..).mpr rfl⟩

theorem Call.content_of_completed {s : ProcessSettings} (hs : s.capture = true)
    {runs : List ProcessRun} {program : String} {c : Call}
    (h : c.IsAnswered program (.processes s runs)) {returnCode : Int} {stdout stderr : List UInt8}
    (ho : c.outcome runs = .completed returnCode stdout stderr) :
    c.completion.stdout = Utf8.decode stdout ∧ c.completion.stderr = Utf8.decode stderr := by
  have hcaptured (bytes : List UInt8) : s.captured bytes = bytes := if_pos hs
  obtain ⟨hout, herr, -⟩ := c.contents h
  rw [ho, hcaptured] at hout herr
  exact ⟨hout, herr.trans String.append_empty⟩

end Run

/-- Of a run over captured processes that gives a receipt and leaves no directory among its logs,
the logs keep the bytes that each process has left that could be started. -/
theorem Request.run_keepsBytes {q : Request} {dir : Path} {s : ProcessSettings}
    {runs : List ProcessRun} {clock : Clock} {files : FileTree} {r : Receipt}
    (hd : q.outputDir = some dir) (hq : q.dryRun = false) (hs : s.capture = true)
    (hr : (q.run (.processes s runs) clock files).outcome = .ok r)
    (hflat : (q.run (.processes s runs) clock files).files.HasNoSubdirectories (logsDir dir)) :
    ∀ (i : Nat) (record : InvocationRecord), r.invocations[i]? = some record →
      ∀ (returnCode : Int) (stdout stderr : List UInt8),
        (ProcessRun.nth runs i).outcome = .completed returnCode stdout stderr →
        let after := (q.run (.processes s runs) clock files).files
        after.KeepsBytes dir record.stdoutPath stdout ∧
          after.KeepsBytes dir record.stderrPath stderr := by
  intro i record hi returnCode stdout stderr ho after
  obtain ⟨cs, hlogs, hrecords, hcalls⟩ := Run.run_holdsLogs hd hq hr hflat
  rw [hrecords, List.getElem?_map, Option.map_eq_some_iff] at hi
  obtain ⟨c, hc, rfl⟩ := hi
  obtain ⟨rfl, hanswered⟩ := hcalls i c hc
  obtain ⟨hout, herr⟩ := Run.Call.content_of_completed hs hanswered ho
  have hmem := List.mem_of_getElem? hc
  exact ⟨hlogs.keepsBytes (s := .stdout) hmem hout, hlogs.keepsBytes (s := .stderr) hmem herr⟩

/-- On standard output are a byte-order mark, line ends of several kinds and U+0000, which is
well-formed; on standard error cut, overlong, surrogate and stray bytes. The next process cannot be
started. -/
theorem Request.run_keepsBytes_parts :
    let dir := Path.ofString "out"
    let q : Request := { names := ["build"], outputDir := some dir }
    let s : ProcessSettings := { capture := true }
    let stdout : List UInt8 := [0xef, 0xbb, 0xbf, 0x0d, 0x0a, 0x00, 0x0d]
    let stderr : List UInt8 := [0x61, 0xe2, 0x82, 0x62, 0xc0, 0xaf, 0xed, 0xa0, 0x80, 0xf0, 0x9f]
    let runs : List ProcessRun :=
      [⟨.completed 0 stdout stderr, 0.5, 0.75⟩, ⟨.failed (.notFound "gone"), 0.5, 0.75⟩]
    let report := q.run (.processes s runs) (fun _ => 0) .empty
    q.outputDir = some dir ∧ q.dryRun = false ∧ s.capture = true ∧
      report.files.HasNoSubdirectories (logsDir dir) ∧
      (ProcessRun.nth runs 0).outcome = .completed 0 stdout stderr ∧
      stdout.toByteArray.IsValidUTF8 ∧ ¬ stderr.toByteArray.IsValidUTF8 ∧
      ∃ r record, report.outcome = .ok r ∧ r.invocations[0]? = some record ∧
        report.files.KeepsBytes dir record.stdoutPath stdout ∧
        report.files.KeepsBytes dir record.stderrPath stderr := by
  intro dir q s stdout stderr runs report
  have hflat : report.files.HasNoSubdirectories (logsDir dir) :=
    hasNoSubdirectories_of_entries (l := ["out", "logs"]) (by decide +kernel) (by decide +kernel)
  have hcount : report.outcome.map (·.invocations.length) = .ok 2 := by decide +kernel
  refine ⟨rfl, rfl, rfl, hflat, rfl, ?_, ?_, ?_⟩
  · exact (Utf8.encode_decode_eq_iff stdout).mp (by decide +kernel)
  · exact fun h => absurd ((Utf8.encode_decode_eq_iff stderr).mpr h) (by decide +kernel)
  · cases hr : report.outcome with
    | error fault => simp [hr, Except.map] at hcount
    | ok r =>
      have hlength : r.invocations.length = 2 := by simpa [hr, Except.map] using hcount
      have hrecord : r.invocations[0]? = some r.invocations[0] := List.getElem?_eq_getElem _
      exact ⟨r, r.invocations[0], rfl, hrecord,
        Request.run_keepsBytes rfl rfl rfl hr hflat 0 _ hrecord 0 stdout stderr rfl⟩

end DualToolchain
