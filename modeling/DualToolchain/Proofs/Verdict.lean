import DualToolchain.Proofs.Text.Ascii
import DualToolchain.Verdict
import Mathlib.Data.List.TakeWhile

/-! The mark of a missing toolchain. The search finds it wherever it stands, also behind beginnings
that come to nothing; and the decoded text holds it exactly if the bytes do, whatever else they
are. -/

namespace DualToolchain

/-- Somewhere in the list stand `start`, one or more elements other than `quote`, and `stop`. -/
def HoldsBetween {α : Type} (start stop : List α) (quote : α) (xs : List α) : Prop :=
  ∃ before name rest, xs = before ++ start ++ name ++ stop ++ rest ∧ name ≠ [] ∧ quote ∉ name

def HoldsMarkBytes (bytes : List UInt8) : Prop :=
  HoldsBetween (Utf8.encode "toolchain '") (Utf8.encode "' is not installed") 0x27 bytes

/-! ### The search -/

theorem beginsWithMark_iff (cs : List Char) :
    beginsWithMark cs = true ↔
      ∃ name rest, cs = markStart ++ name ++ markEnd ++ rest ∧ name ≠ [] ∧ '\'' ∉ name := by
  simp only [beginsWithMark, Bool.and_eq_true, List.isPrefixOf_iff_prefix, Bool.not_eq_true']
  constructor
  · rintro ⟨⟨behind, rfl⟩, hname, hend⟩
    rw [List.drop_left] at hname hend
    obtain ⟨rest, hrest⟩ := hend
    refine ⟨behind.takeWhile (· != '\''), rest, ?_, by simpa using hname, fun hm => ?_⟩
    · rw [List.append_assoc _ markEnd, hrest, List.append_assoc]
      congr 1
      exact (List.prefix_iff_eq_append.mp (List.takeWhile_prefix _)).symm
    · simpa using List.mem_takeWhile_imp hm
  · rintro ⟨name, rest, rfl, hne, hquote⟩
    -- The name ends at the first quote, which is the one that the end of the mark begins with.
    obtain ⟨tail, htail⟩ : ∃ tail, markEnd = '\'' :: tail := ⟨_, rfl⟩
    have htake : (name ++ (markEnd ++ rest)).takeWhile (· != '\'') = name := by
      rw [List.takeWhile_append_of_pos, htail]
      · simp
      · intro c hc
        simpa using fun h : c = '\'' => hquote (h ▸ hc)
    have hdrop : (markStart ++ (name ++ (markEnd ++ rest))).drop markStart.length =
        name ++ (markEnd ++ rest) := List.drop_left
    have hdrop' : (name ++ (markEnd ++ rest)).drop name.length = markEnd ++ rest := List.drop_left
    simp only [List.append_assoc, hdrop, htake, hdrop']
    exact ⟨List.prefix_append _ _, by simpa using hne, List.prefix_append _ _⟩

/-- The search tries every place of the text. -/
theorem holdsMark_iff_exists (cs : List Char) :
    holdsMark cs = true ↔ ∃ before rest, cs = before ++ rest ∧ beginsWithMark rest = true := by
  induction cs with
  | nil =>
    simp only [holdsMark, Bool.false_eq_true, false_iff]
    rintro ⟨before, rest, h, hm⟩
    obtain ⟨-, rfl⟩ := List.append_eq_nil_iff.mp h.symm
    have hnil : beginsWithMark [] = false := by decide
    exact absurd hm (by simp [hnil])
  | cons c cs ih =>
    rw [holdsMark, Bool.or_eq_true, ih]
    constructor
    · rintro (hm | ⟨before, rest, rfl, hm⟩)
      · exact ⟨[], c :: cs, rfl, hm⟩
      · exact ⟨c :: before, rest, rfl, hm⟩
    · rintro ⟨before, rest, h, hm⟩
      cases before with
      | nil => exact .inl (by rwa [h])
      | cons c' before =>
        obtain ⟨rfl, rfl⟩ := List.cons.inj h
        exact .inr ⟨before, rest, rfl, hm⟩

theorem holdsMark_iff (cs : List Char) :
    holdsMark cs = true ↔ HoldsBetween markStart markEnd '\'' cs := by
  rw [holdsMark_iff_exists]
  constructor
  · rintro ⟨before, rest, rfl, hm⟩
    obtain ⟨name, rest, rfl, hne, hquote⟩ := (beginsWithMark_iff rest).mp hm
    exact ⟨before, name, rest, by simp, hne, hquote⟩
  · rintro ⟨before, name, rest, rfl, hne, hquote⟩
    refine ⟨before, markStart ++ name ++ markEnd ++ rest, by simp, ?_⟩
    exact (beginsWithMark_iff _).mpr ⟨name, rest, rfl, hne, hquote⟩

/-! ### Text and bytes -/

theorem markStart_isAscii : ∀ c ∈ markStart, c.toNat < 0x80 := by
  have h : markStart.all (fun c => decide (c.toNat < 0x80)) = true := rfl
  simpa using h

theorem markEnd_isAscii : ∀ c ∈ markEnd, c.toNat < 0x80 := by
  have h : markEnd.all (fun c => decide (c.toNat < 0x80)) = true := rfl
  simpa using h

/-- The decoded text holds the mark exactly if the bytes do: what is ill-formed neither hides nor
makes one. -/
theorem holdsMark_decode_iff (bytes : List UInt8) :
    holdsMark (Utf8.decode bytes).toList = true ↔ HoldsMarkBytes bytes := by
  have hstart_ne : markStart ≠ [] := by decide
  have hend_ne : markEnd ≠ [] := by decide
  rw [holdsMark_iff, Utf8.decode, String.toList_ofList]
  constructor
  · rintro ⟨before, name, rest, h, hne, hquote⟩
    rw [List.append_assoc _ name, List.append_assoc _ _ rest] at h
    obtain ⟨before, behind, rfl, -, hbehind⟩ :=
      Utf8.exists_of_decodeChars_eq hstart_ne markStart_isAscii h
    obtain ⟨name', rest', rfl, rfl, -⟩ :=
      Utf8.exists_of_decodeChars_eq hend_ne markEnd_isAscii hbehind
    refine ⟨before, name', rest', ?_, ?_, ?_⟩
    · simp only [List.append_assoc]
      rfl
    · rintro rfl
      exact hne rfl
    · intro hm
      exact hquote ((Utf8.mem_decodeChars_iff (c := '\'') (by decide) name').mpr hm)
  · rintro ⟨before, name, rest, rfl, hne, hquote⟩
    refine ⟨Utf8.decodeChars before, Utf8.decodeChars name, Utf8.decodeChars rest, ?_, ?_, ?_⟩
    · have hcut := Utf8.decodeChars_append_append hend_ne markEnd_isAscii
        (before ++ Utf8.encodeChars markStart ++ name) rest
      have hcut' := Utf8.decodeChars_append_append hstart_ne markStart_isAscii before name
      rw [hcut'] at hcut
      exact hcut
    · exact fun h => hne (Utf8.decodeChars_eq_nil h)
    · intro hm
      exact hquote ((Utf8.mem_decodeChars_iff (c := '\'') (by decide) name).mp hm)

end DualToolchain
