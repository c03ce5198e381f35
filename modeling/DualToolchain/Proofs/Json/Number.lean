import DualToolchain.Json.Parser
import DualToolchain.Json.Printer
import Mathlib.Tactic.Common

/-! Written numbers are read back in front of everything that a number cannot go on with. -/

namespace DualToolchain

/-! ### Decimal numerals -/

namespace Decimal

theorem value_toDigits (n : Nat) : value (Nat.toDigits 10 n) = n := by
  have h := Nat.ofDigitChars_ten_toDigits (n := n)
  simp only [Nat.ofDigitChars_eq_foldl, Nat.mul_comm 10] at h
  exact h

theorem isDigit_of_mem_toDigits {n : Nat} {c : Char} (h : c ∈ Nat.toDigits 10 n) :
    c.isDigit = true :=
  Nat.isDigit_of_mem_toDigits (by decide) (by decide) h

theorem toDigits_eq_cons (n : Nat) :
    ∃ c cs, Nat.toDigits 10 n = c :: cs ∧ c.isDigit = true := by
  obtain ⟨c, cs, hcs⟩ := List.exists_cons_of_ne_nil (Nat.toDigits_ne_nil (b := 10) (n := n))
  have hc : c ∈ Nat.toDigits 10 n := by rw [hcs]; exact List.mem_cons_self
  exact ⟨c, cs, hcs, isDigit_of_mem_toDigits hc⟩

theorem head?_toDigits_ne_zero (n : Nat) (h : 0 < n) : (Nat.toDigits 10 n).head? ≠ some '0' := by
  induction n using Nat.strongRecOn with
  | ind n ih =>
    rw [Nat.toDigits_eq_if (by decide)]
    split_ifs with hn
    · have hd : ∀ m < 10, 0 < m → [Nat.digitChar m].head? ≠ some '0' := by decide
      exact hd n hn h
    · have hne := ih (n / 10) (by omega) (by omega)
      obtain ⟨c, cs, hcs, -⟩ := toDigits_eq_cons (n / 10)
      rw [hcs] at hne ⊢
      simpa using hne

theorem not_leading_zero (n : Nat) :
    ¬ (1 < (Nat.toDigits 10 n).length ∧ (Nat.toDigits 10 n).head? = some '0') := by
  rintro ⟨hl, hh⟩
  rcases Nat.eq_zero_or_pos n with rfl | hn
  · simp at hl
  · exact head?_toDigits_ne_zero n hn hh

theorem ofInt_isAscii (n : Int) : ∀ c ∈ ofInt n, c.toNat < 0x80 := by
  have hd : ∀ c ∈ Nat.toDigits 10 n.natAbs, c.toNat < 0x80 := fun c hc => by
    have h := isDigit_of_mem_toDigits hc
    simp only [Char.isDigit, Bool.and_eq_true, decide_eq_true_eq] at h
    have h9 : c.toNat ≤ 57 := UInt32.le_iff_toNat_le.mp h.2
    omega
  intro c hc
  unfold ofInt at hc
  split_ifs at hc
  · rcases List.mem_cons.mp hc with rfl | hc
    · decide
    · exact hd c hc
  · exact hd c hc

end Decimal

namespace Json

/-- What may stand behind a number: nothing that it could go on with. -/
def EndsNumber (rest : List Char) : Prop :=
  ∀ c ∈ rest.head?, c.isDigit = false ∧ c ≠ '.' ∧ c ≠ 'e' ∧ c ≠ 'E'

theorem EndsNumber.nil : EndsNumber [] := by simp [EndsNumber]

theorem EndsNumber.cons {c : Char} {rest : List Char}
    (h : c.isDigit = false ∧ c ≠ '.' ∧ c ≠ 'e' ∧ c ≠ 'E') : EndsNumber (c :: rest) := by
  simpa [EndsNumber] using h

/-- All numerals are taken, up to a character that is none. -/
theorem digits?_toDigits (n : Nat) {rest : List Char} (h : ∀ c ∈ rest.head?, c.isDigit = false) :
    digits? (Nat.toDigits 10 n ++ rest) = some (Nat.toDigits 10 n, rest) := by
  have hd : ∀ c ∈ Nat.toDigits 10 n, c.isDigit = true := fun c => Decimal.isDigit_of_mem_toDigits
  have ht : rest.takeWhile Char.isDigit = [] := by
    cases rest with
    | nil => rfl
    | cons c rest => simp [h c (by simp)]
  have hw : rest.dropWhile Char.isDigit = rest := by
    cases rest with
    | nil => rfl
    | cons c rest => simp [h c (by simp)]
  have hne : (Nat.toDigits 10 n).isEmpty = false := by simp [Nat.toDigits_ne_nil]
  simp only [digits?, List.takeWhile_append_of_pos hd, List.dropWhile_append_of_pos hd, ht, hw,
    List.append_nil, hne]
  rfl

theorem readExponent_of_ends {rest : List Char} (h : EndsNumber rest) :
    readExponent rest = some (none, rest) := by
  cases rest with
  | nil => rfl
  | cons c rest =>
    obtain ⟨-, -, he, hE⟩ := h c (by simp)
    unfold readExponent
    split <;> simp_all

theorem readFraction_of_ends {rest : List Char} (h : ∀ c ∈ rest.head?, c ≠ '.') :
    readFraction rest = some ([], rest) := by
  cases rest with
  | nil => rfl
  | cons c rest =>
    have hc := h c (by simp)
    unfold readFraction
    split <;> simp_all

theorem readMagnitude_toDigits (sign : Int) (n : Nat) {rest : List Char} (h : EndsNumber rest) :
    readMagnitude sign (Nat.toDigits 10 n ++ rest) = some (.int (sign * n), rest) := by
  rw [readMagnitude, digits?_toDigits n fun c hc => (h c hc).1]
  simp only [Option.bind_eq_bind, Option.bind_some, Option.pure_def]
  rw [if_neg (Decimal.not_leading_zero n), readFraction_of_ends fun c hc => (h c hc).2.1]
  simp [readExponent_of_ends h, Decimal.value_toDigits]

theorem readExponent_ofInt (e : Int) {rest : List Char} (h : EndsNumber rest) :
    readExponent ('e' :: Decimal.ofInt e ++ rest) = some (some e, rest) := by
  have hd : digits? (Nat.toDigits 10 e.natAbs ++ rest) = some (Nat.toDigits 10 e.natAbs, rest) :=
    digits?_toDigits _ fun c hc => (h c hc).1
  have hv := Decimal.value_toDigits e.natAbs
  obtain ⟨c, cs, hcs, hc⟩ := Decimal.toDigits_eq_cons e.natAbs
  unfold Decimal.ofInt
  rw [hcs] at hd hv ⊢
  split_ifs with he
  · simp only [List.cons_append, readExponent] at hd ⊢
    rw [hd, Option.map_some, hv]
    congr 3
    omega
  · have hm : c ≠ '-' := by
      rintro rfl
      contradiction
    have hp : c ≠ '+' := by
      rintro rfl
      contradiction
    simp only [List.cons_append] at hd ⊢
    have hr : readExponent ('e' :: c :: (cs ++ rest)) = (digits? (c :: (cs ++ rest))).map
        fun p => (some (Decimal.value p.1 : Int), p.2) := by
      rw [readExponent.eq_def]
      simp only
      split <;> simp_all
    rw [hr, hd, Option.map_some]
    simp only [hv]
    congr 3
    omega

theorem readMagnitude_decimal (sign : Int) (n : Nat) (e : Int) {rest : List Char}
    (h : EndsNumber rest) :
    readMagnitude sign (Nat.toDigits 10 n ++ ('e' :: Decimal.ofInt e ++ rest)) =
      some (.decimal (sign * n) e, rest) := by
  rw [readMagnitude, digits?_toDigits n (by simp)]
  simp only [Option.bind_eq_bind, Option.bind_some, Option.pure_def]
  rw [if_neg (Decimal.not_leading_zero n), readFraction_of_ends (by simp)]
  simp only [Option.bind_some]
  rw [readExponent_ofInt e h]
  simp [Decimal.value_toDigits]

/-- A number that begins with a digit, perhaps behind a minus sign, is none of the words. -/
theorem readNumber_digit {c : Char} (hc : c.isDigit = true) (cs : List Char) :
    readNumber (c :: cs) = readMagnitude 1 (c :: cs) := by
  rw [readNumber.eq_def]
  split <;> simp_all

theorem readNumber_minus {c : Char} (hc : c.isDigit = true) (cs : List Char) :
    readNumber ('-' :: c :: cs) = readMagnitude (-1) (c :: cs) := by
  rw [readNumber.eq_def]
  split <;> simp_all

/-- Numerals behind the sign of an integer are read with that sign. -/
theorem readNumber_ofInt_append (n : Int) (rest : List Char) :
    readNumber (Decimal.ofInt n ++ rest) =
      readMagnitude (if n < 0 then -1 else 1) (Nat.toDigits 10 n.natAbs ++ rest) := by
  obtain ⟨c, cs, hcs, hc⟩ := Decimal.toDigits_eq_cons n.natAbs
  unfold Decimal.ofInt
  rw [hcs]
  split_ifs
  · exact readNumber_minus hc _
  · exact readNumber_digit hc _

theorem sign_mul_natAbs (n : Int) : (if n < 0 then -1 else 1) * (n.natAbs : Int) = n := by
  split_ifs <;> omega

theorem readNumber_int (n : Int) {rest : List Char} (h : EndsNumber rest) :
    readNumber (Decimal.ofInt n ++ rest) = some (.int n, rest) := by
  rw [readNumber_ofInt_append, readMagnitude_toDigits _ _ h, sign_mul_natAbs]

theorem readNumber_decimal (m e : Int) {rest : List Char} (h : EndsNumber rest) :
    readNumber (Decimal.ofInt m ++ 'e' :: Decimal.ofInt e ++ rest) = some (.decimal m e, rest) := by
  rw [List.append_assoc, readNumber_ofInt_append, readMagnitude_decimal _ _ _ h, sign_mul_natAbs]

theorem readNumber_nonFinite (x : Binary64.NonFinite) (rest : List Char) :
    readNumber (x.word ++ rest) = some (.nonFinite x, rest) := by
  rcases x with (_ | _) | _ <;> rfl

end Json

end DualToolchain
