import DualToolchain.FileTree
import DualToolchain.Receipt.Basic
import DualToolchain.Text.Utf8

/-! The directory of a run: the receipt, and below `logs` the captured streams. -/

namespace DualToolchain.RunDirectory

def receiptName : String := "run_receipt.json"

def logsDir (dir : Path) : Path :=
  dir.child "logs"

/-- The files that a writer left and what it gives, or why it stopped; what was done before it
stopped stays. -/
structure Written (α : Type) where
  files : FileTree
  result : Except FileFault α

/-- Writes one stream, unless it is empty, and gives its path as seen from `dir`. -/
def writeStream (files : FileTree) (dir : Path) (name content : String) :
    Written (Option Path) :=
  if content = "" then ⟨files, .ok none⟩
  else
    let path := (logsDir dir).child name
    match files.writeFile path (Utf8.encode content) with
    | .error fault => ⟨files, .error fault⟩
    | .ok files =>
      match path.relativeTo? dir with
      | some rel => ⟨files, .ok (some rel)⟩
      | none => ⟨files, .error (.outside path dir)⟩

structure StreamPaths where
  stdout : Option Path
  stderr : Option Path
  deriving DecidableEq

/-- Writes the streams that have content, standard output first. -/
def writeLogs (files : FileTree) (dir : Path) (stem stdout stderr : String) :
    Written StreamPaths :=
  match files.makeDirectories (logsDir dir) with
  | (files, some fault) => ⟨files, .error fault⟩
  | (files, none) =>
    match writeStream files dir (stem ++ ".stdout") stdout with
    | ⟨files, .error fault⟩ => ⟨files, .error fault⟩
    | ⟨files, .ok out⟩ =>
      match writeStream files dir (stem ++ ".stderr") stderr with
      | ⟨files, .error fault⟩ => ⟨files, .error fault⟩
      | ⟨files, .ok err⟩ => ⟨files, .ok ⟨out, err⟩⟩

def writeReceipt (files : FileTree) (dir : Path) (r : Receipt) : Written Path :=
  match files.makeDirectories dir with
  | (files, some fault) => ⟨files, .error fault⟩
  | (files, none) =>
    let path := dir.child receiptName
    match files.writeFile path (Utf8.encode r.document) with
    | .error fault => ⟨files, .error fault⟩
    | .ok files => ⟨files, .ok path⟩

end DualToolchain.RunDirectory
