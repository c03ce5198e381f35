import DualToolchain.Json.Parser
import DualToolchain.Json.Printer
import Mathlib.Tactic.Common

/-! Written texts are ASCII, and they are read back: an escape of one character is read as that
character, whatever follows. -/

namespace DualToolchain

/-! ### Hexadecimal numerals -/

namespace Hex

theorem value?_digit : ∀ n < 16, value? (digit n) = some n := by decide

theorem digit_isAscii : ∀ n < 16, 0x20 ≤ (digit n).toNat ∧ (digit n).toNat < 0x7f := by decide

theorem padded_four (n : Nat) :
    padded 4 n = [digit (n / 16 / 16 / 16 % 16), digit (n / 16 / 16 % 16), digit (n / 16 % 16),
      digit (n % 16)] := rfl

end Hex

namespace Json

theorem unit?_padded {n : Nat} (h : n < 0x10000) :
    unit? (Hex.digit (n / 16 / 16 / 16 % 16)) (Hex.digit (n / 16 / 16 % 16))
      (Hex.digit (n / 16 % 16)) (Hex.digit (n % 16)) = some n := by
  have hd : ∀ m, Hex.value? (Hex.digit (m % 16)) = some (m % 16) := fun m =>
    Hex.value?_digit _ (Nat.mod_lt _ (by decide))
  simp only [unit?, hd, Option.pure_def, Option.bind_eq_bind, Option.bind_some]
  congr 1
  omega

/-! ### Reading an escape -/

/-- The escape of a unit that is no surrogate is a character. -/
theorem readText_unitEscape {n : Nat} (h : n < 0xd800 ∨ 0xe000 ≤ n) (hn : n < 0x10000)
    (rest : List Char) :
    readText (unitEscape n ++ rest) = consTo (Char.ofNat n) (readText rest) := by
  rw [unitEscape, Hex.padded_four]
  simp only [List.cons_append, List.nil_append]
  rw [readText, unit?_padded hn]
  simp only
  rw [if_pos h]

/-- The escapes of two surrogates are one character. -/
theorem readText_surrogates {n : Nat} (h : 0x10000 ≤ n ∧ n < 0x110000) (rest : List Char) :
    readText (unitEscape (0xd800 + (n - 0x10000) / 0x400) ++
      unitEscape (0xdc00 + (n - 0x10000) % 0x400) ++ rest) =
      consTo (Char.ofNat n) (readText rest) := by
  rw [unitEscape, Hex.padded_four, unitEscape, Hex.padded_four]
  simp only [List.cons_append, List.nil_append]
  rw [readText, unit?_padded (by omega)]
  simp only
  rw [if_neg (by omega), if_pos (by omega), unit?_padded (by omega)]
  simp only
  have hn : 0x10000 + (0xd800 + (n - 0x10000) / 0x400 - 0xd800) * 0x400 +
      (0xdc00 + (n - 0x10000) % 0x400 - 0xdc00) = n := by omega
  rw [if_pos (by omega), hn]

theorem readText_cons {c : Char} (hq : c ≠ '"') (hb : c ≠ '\\') (h : 0x20 ≤ c.toNat)
    (rest : List Char) : readText (c :: rest) = consTo c (readText rest) := by
  rw [readText.eq_def]
  split
  case h_5 c' rest' _ _ _ heq =>
    obtain ⟨rfl, rfl⟩ := List.cons.inj heq
    rw [if_neg (by omega)]
  all_goals simp_all

theorem readText_escape (c : Char) (rest : List Char) :
    readText (escape c ++ rest) = consTo c (readText rest) := by
  have hv : c.toNat < 0xd800 ∨ 0xdfff < c.toNat ∧ c.toNat < 0x110000 := c.valid
  unfold escape
  simp only
  split_ifs with h1 h2 h3 h4 h5 h6 h7 h8
  · rcases h1 with rfl | rfl <;> rfl
  · subst h2
    rfl
  · subst h3
    rfl
  · subst h4
    rfl
  · rw [show c = '\x08' by rw [← Char.ofNat_toNat c, h5]]
    rfl
  · rw [show c = '\x0c' by rw [← Char.ofNat_toNat c, h6]]
    rfl
  · exact readText_cons (fun h => h1 (.inl h)) (fun h => h1 (.inr h)) h7.1 rest
  · rw [readText_unitEscape (by omega) h8, Char.ofNat_toNat]
  · rw [readText_surrogates (by omega), Char.ofNat_toNat]

/-- A text is read back from between its quotes. -/
theorem readText_flatMap_escape (cs rest : List Char) :
    readText (cs.flatMap escape ++ '"' :: rest) = some (cs, rest) := by
  induction cs with
  | nil => rfl
  | cons c cs ih =>
    rw [List.flatMap_cons, List.append_assoc, readText_escape, ih]
    rfl

/-! ### Written texts are ASCII -/

theorem unitEscape_isAscii (n : Nat) : ∀ c ∈ unitEscape n, c.toNat < 0x80 := by
  have hd : ∀ m, (Hex.digit (m % 16)).toNat < 0x80 := fun m => by
    have := Hex.digit_isAscii _ (Nat.mod_lt m (by decide : 16 > 0))
    omega
  intro c hc
  simp only [unitEscape, Hex.padded_four, List.mem_cons, List.not_mem_nil, or_false] at hc
  rcases hc with rfl | rfl | rfl | rfl | rfl | rfl
  · decide
  · decide
  all_goals exact hd _

theorem escape_isAscii (c : Char) : ∀ d ∈ escape c, d.toNat < 0x80 := by
  have hpair : ∀ a : Char, a.toNat < 0x80 → ∀ d ∈ ['\\', a], d.toNat < 0x80 := by
    intro a ha d hd
    rw [List.mem_cons, List.mem_singleton] at hd
    rcases hd with rfl | rfl
    · decide
    · exact ha
  intro d hd
  unfold escape at hd
  simp only at hd
  split_ifs at hd with h1 h2 h3 h4 h5 h6 h7 h8
  · rcases h1 with rfl | rfl <;> exact hpair _ (by decide) d hd
  iterate 5 exact hpair _ (by decide) d hd
  · obtain rfl := List.mem_singleton.mp hd
    omega
  · exact unitEscape_isAscii _ d hd
  · rcases List.mem_append.mp hd with hd | hd <;> exact unitEscape_isAscii _ d hd

theorem quote_isAscii (s : String) : ∀ c ∈ quote s, c.toNat < 0x80 := by
  intro c hc
  simp only [quote, List.cons_append, List.mem_cons, List.mem_append, List.mem_flatMap,
    List.not_mem_nil, or_false] at hc
  rcases hc with rfl | ⟨d, -, hd⟩ | rfl
  · decide
  · exact escape_isAscii d c hd
  · decide

end Json

end DualToolchain
