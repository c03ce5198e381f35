import DualToolchain.Proofs.Json.RoundTrip
import DualToolchain.Proofs.Receipt.Reader
import DualToolchain.Proofs.RunDirectory
import DualToolchain.Proofs.Text.Utf8

/-! A receipt file holds its receipt: the bytes are ASCII and are read back as the receipt that was
written. So the bytes of two receipts differ if the receipts do. -/

namespace DualToolchain

namespace Receipt

/-! ### The document -/

theorem document_isAscii (r : Receipt) : ∀ c ∈ r.document.toList, c.toNat < 0x80 := by
  rw [document, String.toList_append, List.forall_mem_append]
  refine ⟨Json.pretty_isAscii r.toJson, fun c hc => ?_⟩
  obtain rfl : c = '\n' := by simpa using hc
  decide

theorem parse?_document (r : Receipt) : Json.parse? r.document = some r.toJson := by
  have hdoc : r.document = String.ofList (Json.write .indented 0 r.toJson ++ ['\n']) := by
    rw [String.ofList_append]
    rfl
  rw [hdoc]
  exact Json.parse?_write Json.Layout.indented_isBlank _ (by simp [Json.IsBlankText])

theorem toJson_injective {r r' : Receipt} (h : r.toJson = r'.toJson) : r = r' := by
  have hr := ofJson_toJson "" r
  rw [h, ofJson_toJson] at hr
  exact (Checked.valid.inj hr).symm

theorem document_injective {r r' : Receipt} (h : r.document = r'.document) : r = r' := by
  have hp := parse?_document r
  rw [h, parse?_document] at hp
  exact toJson_injective (Option.some.inj hp).symm

end Receipt

namespace RunDirectory

/-! ### The file -/

/-- The receipt in a directory: the object that the file holds, as the reader of receipts takes it
`now`. -/
def readReceipt? (files : FileTree) (dir : Path) (now : String) : Option Receipt := do
  let bytes ← files.read? (dir.child receiptName)
  let text ← Utf8.text? bytes
  let fields ← Json.parse? text
  match Receipt.ofJson now fields with
  | .valid r => some r
  | .invalid _ => none

variable {files : FileTree} {dir path : Path} {r : Receipt}

theorem readReceipt?_writeReceipt (h : (writeReceipt files dir r).result = .ok path)
    (now : String) : readReceipt? (writeReceipt files dir r).files dir now = some r := by
  obtain ⟨rfl, hread, -⟩ := writeReceipt_of_ok h
  simp only [readReceipt?, hread, Utf8.text?_encode, Receipt.parse?_document,
    Receipt.ofJson_toJson, Option.bind_eq_bind, Option.bind_some]

/-- Bytes that hold a receipt. They are ASCII, so every encoding that extends ASCII gives the same
text; this is the receipt's object, which is accepted as the receipt without a look at the clock;
and the bytes of every other receipt differ. -/
structure HoldsReceipt (bytes : List UInt8) (r : Receipt) : Prop where
  ascii : ∀ b ∈ bytes, b.toNat < 0x80
  parsed : ∃ text, Utf8.text? bytes = some text ∧
    bytes = text.toList.map (fun c => UInt8.ofNat c.toNat) ∧ Json.parse? text = some r.toJson
  accepted : ∀ now, Receipt.ofJson now r.toJson = .valid r
  unique : ∀ (files files' : FileTree) (dir path : Path) (r' : Receipt),
    writeReceipt files dir r' = ⟨files', .ok path⟩ → files'.read? path = some bytes → r' = r

theorem holdsReceipt_encode (r : Receipt) : HoldsReceipt (Utf8.encode r.document) r where
  ascii := Utf8.encodeChars_lt r.document_isAscii
  parsed := ⟨r.document, Utf8.text?_encode _, Utf8.encodeChars_of_ascii r.document_isAscii,
    r.parse?_document⟩
  accepted now := r.ofJson_toJson now
  unique files files' dir path r' hw hread := by
    obtain ⟨-, hread', -⟩ := writeReceipt_of_ok (congrArg Written.result hw)
    rw [hw, hread] at hread'
    exact Receipt.document_injective (Utf8.encode_injective (Option.some.inj hread')).symm

/-- The file that is written for an accepted receipt holds it. What is read back is accepted as the
same receipt, whatever form the fields had and whatever the time is. -/
theorem writeReceipt_holdsReceipt {now : String} {fields : Json} {files' : FileTree}
    (hr : Receipt.ofJson now fields = .valid r)
    (hw : writeReceipt files dir r = ⟨files', .ok path⟩) :
    path = dir.child receiptName ∧ ∃ bytes, files'.read? path = some bytes ∧
      HoldsReceipt bytes r ∧ ∀ now', Receipt.ofJson now' r.toJson = Receipt.ofJson now fields := by
  obtain ⟨hpath, hread, -⟩ := writeReceipt_of_ok (congrArg Written.result hw)
  rw [hw] at hread
  refine ⟨hpath, Utf8.encode r.document, hread, holdsReceipt_encode r, fun now' => ?_⟩
  rw [hr, Receipt.ofJson_toJson]

/-- Fields in lax forms, with a text that has to be escaped. -/
theorem writeReceipt_holdsReceipt_lax :
    let fields : Json := .obj [("profile_id", .str "a\"\\\x7f😀"), ("requested", .strings []),
      ("program", .str "cargo"), ("selectors", .strings ["1.74.0"]), ("dry_run", .int 1),
      ("exit_code", .str " 12 "), ("started_at", .str "t")]
    ∃ r files' path, Receipt.ofJson "now" fields = .valid r ∧
      writeReceipt .empty (.ofString "out") r = ⟨files', .ok path⟩ ∧
      r.dryRun = true ∧ r.exitCode = 12 ∧
      (path = (Path.ofString "out").child receiptName ∧
        ∃ bytes, files'.read? path = some bytes ∧ HoldsReceipt bytes r ∧
          ∀ now', Receipt.ofJson now' r.toJson = Receipt.ofJson "now" fields) := by
  intro fields
  obtain ⟨r, hr, hd, he⟩ : ∃ r, Receipt.ofJson "now" fields = .valid r ∧ r.dryRun = true ∧
    r.exitCode = 12 := ⟨_, rfl, rfl, rfl⟩
  obtain ⟨files', path, hw⟩ : ∃ files' path,
      writeReceipt .empty (.ofString "out") r = ⟨files', .ok path⟩ := ⟨_, _, rfl⟩
  exact ⟨r, files', path, hr, hw, hd, he, writeReceipt_holdsReceipt hr hw⟩

end RunDirectory

end DualToolchain
