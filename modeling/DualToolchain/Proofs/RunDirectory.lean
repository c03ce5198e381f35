import DualToolchain.Proofs.FileTree
import DualToolchain.Proofs.Path
import DualToolchain.RunDirectory

/-! What the writers of a run's directory touch. Logs never touch a file with the name of the
receipt, wherever it is; the receipt is written as a whole or not at all. -/

namespace DualToolchain.RunDirectory

open FileTree

variable {files : FileTree} {dir : Path}

/-! ### Logs -/

/-- Where a stream is written, the last component has the ending of the stream, so it neither leads
up nor names a receipt. -/
theorem getLast?_stream (dir : Path) (stem : String) {ending : String}
    (h : ending = ".stdout" ∨ ending = ".stderr") :
    ∃ last, ((logsDir dir).child (stem ++ ending)).parts.getLast? = some last ∧ last ≠ ".." ∧
      last ≠ receiptName := by
  have hslash : '/' ∉ ending.toList := by
    rcases h with rfl | rfl <;> decide
  have hlen : 2 ≤ ending.toList.length := by
    rcases h with rfl | rfl <;> decide
  obtain ⟨front, hlast⟩ := Path.getLast?_parts_ofString (s := stem) hslash hlen
  refine ⟨_, Path.getLast?_parts_child _ hlast, ?_, ?_⟩
  all_goals
    intro heq
    have hchar := congrArg (fun s : String => s.toList.getLast?) heq
    rcases h with rfl | rfl <;> simp [receiptName] at hchar

/-- What the directory of the logs and each stream keep, the logs of a call keep, also where writing
them fails. -/
theorem writeLogs_invariant {P : FileTree → Prop} {stem : String}
    (hdir : P (files.makeDirectories (logsDir dir)).1)
    (hstream : ∀ files content ending, ending = ".stdout" ∨ ending = ".stderr" → P files →
      P (writeStream files dir (stem ++ ending) content).files) (stdout stderr : String) :
    P (writeLogs files dir stem stdout stderr).files := by
  unfold writeLogs
  split
  · rename_i hm
    rwa [hm] at hdir
  · rename_i files₁ hm
    rw [hm] at hdir
    have hout := hstream files₁ stdout _ (.inl rfl) hdir
    split
    · rename_i ho
      rwa [ho] at hout
    · rename_i files₂ out ho
      rw [ho] at hout
      have herr := hstream files₂ stderr _ (.inr rfl) hout
      split
      · rename_i he
        rwa [he] at herr
      · rename_i he
        rwa [he] at herr

/-- A receipt that is written is in the file as a whole, and every other file is as before. -/
theorem writeReceipt_of_ok {r : Receipt} {path : Path}
    (h : (writeReceipt files dir r).result = .ok path) :
    path = dir.child receiptName ∧
    (writeReceipt files dir r).files.read? path = some (Utf8.encode r.document) ∧
    ∀ l bytes, (writeReceipt files dir r).files.locate path ≠ .ok l →
      ((writeReceipt files dir r).files.entryAt l = some (.file bytes) ↔
        files.entryAt l = some (.file bytes)) := by
  have hdir := makeDirectories_addsDirectories files dir
  rcases hm : files.makeDirectories dir with ⟨files₁, _ | fault⟩
  · rw [hm] at hdir
    cases hw : files₁.writeFile (dir.child receiptName) (Utf8.encode r.document) with
    | error fault => simp [writeReceipt, hm, hw] at h
    | ok files₂ =>
      simp only [writeReceipt, hm, hw] at h ⊢
      obtain rfl : dir.child receiptName = path := Except.ok.inj h
      refine ⟨rfl, read?_writeFile hw, fun l bytes hl => ?_⟩
      obtain ⟨-, l', hl', hnot, rfl⟩ := writeFile_eq_ok hw
      -- The path is found at the same location before and after the file is written.
      have hloc := (keepsDirectories_put hnot (.file (Utf8.encode r.document))).locate hl'
      have hne : files₁.locate (dir.child receiptName) ≠ .ok l := by
        rw [hl', ← hloc]
        exact hl
      rw [entryAt_writeFile hw hne]
      exact hdir.entryAt_eq_file_iff l bytes
  · simp [writeReceipt, hm] at h

/-- Two receipts are written alike: both or none of them, and only the file itself differs. -/
theorem writeReceipt_cases (files : FileTree) (dir : Path) (r r' : Receipt) :
    (writeReceipt files dir r).result = (writeReceipt files dir r').result ∧
    ∀ l, (writeReceipt files dir r).files.entryAt l = (writeReceipt files dir r').files.entryAt l ∨
      (∃ path, (writeReceipt files dir r).result = .ok path) ∧
        (writeReceipt files dir r).files.locate (dir.child receiptName) = .ok l ∧
        (writeReceipt files dir r').files.locate (dir.child receiptName) = .ok l := by
  rcases hm : files.makeDirectories dir with ⟨files₁, _ | fault⟩
  · rcases writeFile_cases files₁ (dir.child receiptName) (Utf8.encode r.document)
      (Utf8.encode r'.document) with ⟨fault, h, h'⟩ | ⟨l, hl, hnot, h, h'⟩
    · simp [writeReceipt, hm, h, h']
    · simp only [writeReceipt, hm, h, h', true_and]
      intro l'
      by_cases heq : l' = l
      · subst heq
        exact .inr ⟨⟨_, rfl⟩, (keepsDirectories_put hnot _).locate hl,
          (keepsDirectories_put hnot _).locate hl⟩
      · have hne := ne_nil_of_entryAt hnot
        rw [entryAt_put hne, entryAt_put hne, if_neg heq, if_neg heq]
        exact .inl rfl
  · simp [writeReceipt, hm]

end DualToolchain.RunDirectory
