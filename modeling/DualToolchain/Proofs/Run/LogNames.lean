import DualToolchain.Proofs.Json.Number
import DualToolchain.Proofs.Run.Account
import DualToolchain.Proofs.RunDirectory.Streams

/-! The logs of a call: their names, their contents and what the record says of them. A name tells
the position of the call and the stream, whatever the selector is, so different logs have different
names. -/

namespace DualToolchain

open RunDirectory

def Stream.content : Stream → Completion → String
  | .stdout, c => c.stdout
  | .stderr, c => c.stderr

def Stream.path? : Stream → InvocationRecord → Option String
  | .stdout, r => r.stdoutPath
  | .stderr, r => r.stderrPath

namespace Run

/-! ### Names -/

/-- The position of a call as it is written, in two digits at least. -/
def indexDigits (index : Nat) : List Char :=
  (if index < 10 then ['0'] else []) ++ Nat.toDigits 10 index

/-- What the names of a call's files begin with: everything up to the selector. -/
def stemHead (index : Nat) (leaf : Leaf) : List Char :=
  indexDigits index ++ '.' :: leaf.name.toList ++ ['.']

theorem toList_stem (index : Nat) (s : Step) :
    (stem index s).toList = stemHead index s.leaf ++ s.invocation.selector.toList := by
  unfold stem stemHead indexDigits
  split_ifs <;> simp

theorem isDigit_of_mem_indexDigits {index : Nat} {c : Char} (h : c ∈ indexDigits index) :
    c.isDigit = true := by
  rcases List.mem_append.mp h with h | h
  · split_ifs at h
    · obtain rfl := List.mem_singleton.mp h
      rfl
    · simp at h
  · exact Decimal.isDigit_of_mem_toDigits h

theorem value_indexDigits (index : Nat) : Decimal.value (indexDigits index) = index := by
  unfold indexDigits
  split_ifs
  · exact Decimal.value_toDigits index
  · exact Decimal.value_toDigits index

theorem notMem_stemHead {c : Char} (hc : c = '/' ∨ c = '\x00') (index : Nat) (leaf : Leaf) :
    c ∉ stemHead index leaf := by
  have hdigits : c ∉ indexDigits index := fun hm => by
    have hdigit := isDigit_of_mem_indexDigits hm
    rcases hc with rfl | rfl <;> exact absurd hdigit (by decide)
  have hname : c ∉ leaf.name.toList := by
    rcases hc with rfl | rfl <;> cases leaf <;> decide
  have hdot : c ≠ '.' := by
    rcases hc with rfl | rfl <;> decide
  simp [stemHead, hdigits, hname, hdot]

/-- Of the name only the selector can keep it from being that of a file. -/
theorem isPlain_stem_iff (index : Nat) (s : Step) :
    IsPlain (stem index s) ↔ IsPlain s.invocation.selector := by
  simp [IsPlain, toList_stem, notMem_stemHead]

theorem isStem_stem (index : Nat) (s : Step) : IsStem (stem index s) := by
  have hlen : 3 ≤ (stemHead index s.leaf).length := by
    have hname : 4 ≤ s.leaf.name.toList.length := by
      cases s.leaf <;> decide
    simp only [stemHead, List.length_append, List.length_cons]
    omega
  rw [IsStem, toList_stem, List.takeWhile_append_of_pos, List.length_append]
  · omega
  · intro c hc
    simpa using fun heq : c = '/' => notMem_stemHead (.inl heq) _ _ hc

/-- The position of the call stands before the first dot. -/
theorem takeWhile_stem (index : Nat) (s : Step) :
    (stem index s).toList.takeWhile (· != '.') = indexDigits index := by
  have hdigits : ∀ c ∈ indexDigits index, (c != '.') = true := fun c hc => by
    have hdigit := isDigit_of_mem_indexDigits hc
    simpa using fun heq : c = '.' => absurd (heq ▸ hdigit) (by decide)
  rw [toList_stem, stemHead, List.append_assoc, List.append_assoc,
    List.takeWhile_append_of_pos hdigits, List.cons_append,
    List.takeWhile_cons_of_neg (by decide), List.append_nil]

theorem stem_index {i j : Nat} {s s' : Step} (h : stem i s = stem j s') : i = j := by
  rw [← value_indexDigits i, ← takeWhile_stem i s, h, takeWhile_stem, value_indexDigits]

/-! ### Files and records -/

namespace Call

def fileName (c : Call) (s : Stream) : String :=
  stem c.index c.step ++ s.ending

/-- The files of the call, by name and content. -/
def written (c : Call) : List (String × List UInt8) :=
  logFiles (stem c.index c.step) c.completion.stdout c.completion.stderr

def keptRecord (program : String) (c : Call) : InvocationRecord :=
  { c.record program with
    stdoutPath := streamPath (c.fileName .stdout) c.completion.stdout
    stderrPath := streamPath (c.fileName .stderr) c.completion.stderr }

theorem path?_keptRecord (program : String) (c : Call) (s : Stream) :
    s.path? (c.keptRecord program) = streamPath (c.fileName s) (s.content c.completion) := by
  cases s <;> rfl

/-- Whether there is anything to keep. -/
def HasOutput (c : Call) : Prop :=
  c.completion.stdout ≠ "" ∨ c.completion.stderr ≠ ""

instance (c : Call) : Decidable c.HasOutput :=
  inferInstanceAs (Decidable (_ ∨ _))

theorem hasOutput_iff {c : Call} : c.HasOutput ↔ ∃ s : Stream, s.content c.completion ≠ "" := by
  constructor
  · rintro (h | h)
    · exact ⟨.stdout, h⟩
    · exact ⟨.stderr, h⟩
  · rintro ⟨_ | _, h⟩
    · exact .inl h
    · exact .inr h

theorem mem_written_iff {c : Call} {w : String × List UInt8} :
    w ∈ c.written ↔ ∃ s : Stream, s.content c.completion ≠ "" ∧
      w = (c.fileName s, Utf8.encode (s.content c.completion)) := by
  rw [written, logFiles, List.mem_append, mem_streamFile_iff, mem_streamFile_iff]
  constructor
  · rintro (h | h)
    · exact ⟨.stdout, h⟩
    · exact ⟨.stderr, h⟩
  · rintro ⟨_ | _, h⟩
    · exact .inl h
    · exact .inr h

theorem fileName_cancel {c c' : Call} {s s' : Stream} (h : c.fileName s = c'.fileName s') :
    c.index = c'.index ∧ s = s' := by
  obtain ⟨hstem, hs⟩ := Stream.ending_cancel h
  exact ⟨stem_index hstem, hs⟩

/-- Calls at different positions write different files. -/
theorem written_disjoint {c c' : Call} (h : c.index ≠ c'.index) :
    ∀ x ∈ c.written, ∀ y ∈ c'.written, x.1 ≠ y.1 := by
  intro x hx y hy heq
  obtain ⟨s, -, rfl⟩ := mem_written_iff.mp hx
  obtain ⟨s', -, rfl⟩ := mem_written_iff.mp hy
  exact h (fileName_cancel heq).1

end Call

theorem mem_flatMap_written_iff {cs : List Call} {w : String × List UInt8} :
    w ∈ cs.flatMap Call.written ↔ ∃ c ∈ cs, ∃ s : Stream, s.content c.completion ≠ "" ∧
      w = (c.fileName s, Utf8.encode (s.content c.completion)) := by
  simp only [List.mem_flatMap, Call.mem_written_iff]

end Run

end DualToolchain
