import DualToolchain.Text.Utf8
import Mathlib.Tactic.Common

/-! Decoding gives back the text that was encoded, and the encoding of an ASCII text is ASCII. -/

namespace DualToolchain.Utf8

theorem toNat_byte {n : Nat} (h : n < 256) : (UInt8.ofNat n).toNat = n :=
  UInt8.toNat_ofNat_of_lt' h

/-! ### One character -/

theorem decodeFrom_pending {p : Pending} {n : Nat} (rest : List UInt8) (hn : n < 256)
    (hl : p.low ≤ n ∧ n ≤ p.high) (hm : 1 < p.missing) :
    decodeFrom (some p) (UInt8.ofNat n :: rest) =
      decodeFrom (some ⟨p.bits * 64 + (n - 0x80), p.missing - 1, 0x80, 0xbf⟩) rest := by
  rw [decodeFrom, toNat_byte hn, if_pos hl, if_neg (by omega)]

theorem decodeFrom_last {p : Pending} {n : Nat} (rest : List UInt8) (hn : n < 256)
    (hl : p.low ≤ n ∧ n ≤ p.high) (hm : p.missing = 1) :
    decodeFrom (some p) (UInt8.ofNat n :: rest) =
      Char.ofNat (p.bits * 64 + (n - 0x80)) :: decodeFrom none rest := by
  rw [decodeFrom, toNat_byte hn, if_pos hl, if_pos (by omega)]

theorem decodeFrom_lead {n : Nat} {p : Pending} (rest : List UInt8) (hn : 0x80 ≤ n)
    (hp : lead (UInt8.ofNat n) = some p) (hlt : n < 256) :
    decodeFrom none (UInt8.ofNat n :: rest) = decodeFrom (some p) rest := by
  rw [decodeFrom, startWith, toNat_byte hlt, if_neg (by omega), hp]

theorem lead_two {n : Nat} (h : 0x80 ≤ n ∧ n < 0x800) :
    lead (UInt8.ofNat (0xc0 + n / 64)) = some ⟨n / 64, 1, 0x80, 0xbf⟩ := by
  rw [lead, toNat_byte (by omega)]
  rw [if_neg (by omega), if_pos (by omega), Nat.add_sub_cancel_left]

/-- The second byte of three has bounds that leave out overlong forms and surrogates. -/
theorem lead_three {n : Nat} (h : 0x800 ≤ n ∧ n < 0x10000) (hs : n < 0xd800 ∨ 0xdfff < n) :
    ∃ low high, lead (UInt8.ofNat (0xe0 + n / 4096)) = some ⟨n / 4096, 2, low, high⟩ ∧
      low ≤ 0x80 + n / 64 % 64 ∧ 0x80 + n / 64 % 64 ≤ high := by
  rw [lead, toNat_byte (by omega)]
  rw [if_neg (by omega), if_neg (by omega)]
  by_cases h0 : n / 4096 = 0
  · exact ⟨0xa0, 0xbf, by rw [if_pos (by omega), h0], by omega, by omega⟩
  rw [if_neg (by omega)]
  by_cases h13 : n / 4096 = 13
  · exact ⟨0x80, 0x9f, by rw [if_pos (by omega), h13], by omega, by omega⟩
  rw [if_neg (by omega), if_pos (by omega)]
  exact ⟨0x80, 0xbf, by rw [Nat.add_sub_cancel_left], by omega, by omega⟩

/-- The second byte of four has bounds that leave out overlong forms and all above U+10FFFF. -/
theorem lead_four {n : Nat} (h : 0x10000 ≤ n ∧ n < 0x110000) :
    ∃ low high, lead (UInt8.ofNat (0xf0 + n / 262144)) = some ⟨n / 262144, 3, low, high⟩ ∧
      low ≤ 0x80 + n / 4096 % 64 ∧ 0x80 + n / 4096 % 64 ≤ high := by
  rw [lead, toNat_byte (by omega)]
  rw [if_neg (by omega), if_neg (by omega), if_neg (by omega), if_neg (by omega),
    if_neg (by omega)]
  by_cases h0 : n / 262144 = 0
  · exact ⟨0x90, 0xbf, by rw [if_pos (by omega), h0], by omega, by omega⟩
  rw [if_neg (by omega)]
  by_cases h4 : n / 262144 = 4
  · exact ⟨0x80, 0x8f, by rw [if_neg (by omega), if_pos (by omega), h4], by omega, by omega⟩
  rw [if_pos (by omega)]
  exact ⟨0x80, 0xbf, by rw [Nat.add_sub_cancel_left], by omega, by omega⟩

/-- The bytes of a character are read as that character. -/
theorem decodeFrom_encodeChar (c : Char) (rest : List UInt8) :
    decodeFrom none (encodeChar c ++ rest) = c :: decodeFrom none rest := by
  have hb : c.toNat < 0xd800 ∨ 0xdfff < c.toNat ∧ c.toNat < 0x110000 := c.valid
  have hc : ∀ m, m = c.toNat → Char.ofNat m = c := fun m hm => by rw [hm, Char.ofNat_toNat]
  unfold encodeChar
  generalize c.toNat = n at hb hc ⊢
  simp only
  split_ifs with h1 h2 h3
  · simp only [List.cons_append, List.nil_append]
    rw [decodeFrom, startWith, toNat_byte (by omega), if_pos h1, hc n rfl]
  · simp only [List.cons_append, List.nil_append]
    rw [decodeFrom_lead _ (by omega) (lead_two ⟨by omega, h2⟩) (by omega),
      decodeFrom_last _ (by omega) ⟨by simp, by simp; omega⟩ rfl, hc _ (by simp; omega)]
  · obtain ⟨low, high, hl, hlow, hhigh⟩ := lead_three ⟨by omega, h3⟩ (by omega)
    simp only [List.cons_append, List.nil_append]
    rw [decodeFrom_lead _ (by omega) hl (by omega),
      decodeFrom_pending _ (by omega) ⟨hlow, hhigh⟩ (by simp),
      decodeFrom_last _ (by omega) ⟨by simp, by simp; omega⟩ rfl, hc _ (by simp; omega)]
  · obtain ⟨low, high, hl, hlow, hhigh⟩ := lead_four (n := n) ⟨by omega, by omega⟩
    simp only [List.cons_append, List.nil_append]
    rw [decodeFrom_lead _ (by omega) hl (by omega),
      decodeFrom_pending _ (by omega) ⟨hlow, hhigh⟩ (by simp),
      decodeFrom_pending _ (by omega) ⟨by simp, by simp; omega⟩ (by simp),
      decodeFrom_last _ (by omega) ⟨by simp, by simp; omega⟩ rfl, hc _ (by simp; omega)]

/-! ### Texts -/

theorem decodeChars_encodeChars (cs : List Char) : decodeChars (encodeChars cs) = cs := by
  unfold decodeChars encodeChars
  induction cs with
  | nil => rfl
  | cons c cs ih => rw [List.flatMap_cons, decodeFrom_encodeChar, ih]

theorem decode_encode (s : String) : decode (encode s) = s := by
  rw [decode, encode, decodeChars_encodeChars, String.ofList_toList]

theorem text?_encode (s : String) : text? (encode s) = some s := by
  have hw : isWellFormed (encode s) = true := by
    rw [isWellFormed, encode, decodeChars_encodeChars, beq_self_eq_true]
  rw [text?, if_pos hw, decode_encode]

theorem encode_injective {s t : String} (h : encode s = encode t) : s = t := by
  rw [← decode_encode s, h, decode_encode]

theorem encodeChars_of_ascii {cs : List Char} (h : ∀ c ∈ cs, c.toNat < 0x80) :
    encodeChars cs = cs.map fun c => UInt8.ofNat c.toNat := by
  induction cs with
  | nil => rfl
  | cons c cs ih =>
    have ih := ih fun c' hc' => h c' (List.mem_cons_of_mem c hc')
    rw [encodeChars] at ih ⊢
    rw [List.flatMap_cons, ih, encodeChar, if_pos (h c List.mem_cons_self)]
    rfl

theorem encodeChars_lt {cs : List Char} (h : ∀ c ∈ cs, c.toNat < 0x80) :
    ∀ b ∈ encodeChars cs, b.toNat < 0x80 := by
  rw [encodeChars_of_ascii h]
  intro b hb
  obtain ⟨c, hc, rfl⟩ := List.mem_map.mp hb
  have hlt := h c hc
  rwa [toNat_byte (by omega)]

end DualToolchain.Utf8
