import DualToolchain.Proofs.Calendar
import DualToolchain.Timestamp

/-! Times and their texts. The texts of the years 1 to 9999 sort as the times do: all parts but the
fraction have a fixed width, and a text without a fraction goes on with a plus sign, which is lower
than a point. Every text is read back as its time. -/

namespace DualToolchain

/-! ### Padded numerals -/

namespace Decimal

theorem digit_spec : ∀ k < 10, (Char.ofNat (48 + k)).isDigit = true ∧
    (Char.ofNat (48 + k)).toNat - 48 = k := by
  decide

theorem digit_lt_iff : ∀ k < 10, ∀ k' < 10,
    (Char.ofNat (48 + k) < Char.ofNat (48 + k') ↔ k < k') ∧
      (Char.ofNat (48 + k) = Char.ofNat (48 + k') ↔ k = k') := by
  decide

/-- Numerals of one width are compared as their numbers, and what follows only behind equal ones. -/
theorem padded_append_lt_iff {width a b : Nat} (ha : a < 10 ^ width) (hb : b < 10 ^ width)
    (s t : List Char) :
    padded width a ++ s < padded width b ++ t ↔ a < b ∨ a = b ∧ s < t := by
  induction width generalizing a b s t with
  | zero =>
    obtain rfl : a = 0 := by omega
    obtain rfl : b = 0 := by omega
    simp [padded]
  | succ width ih =>
    rw [Nat.pow_succ] at ha hb
    obtain ⟨hlt, heq⟩ := digit_lt_iff (a % 10) (Nat.mod_lt a (by decide)) (b % 10)
      (Nat.mod_lt b (by decide))
    rw [padded, padded, List.append_assoc, List.append_assoc, ih (by omega) (by omega),
      List.singleton_append, List.singleton_append, List.cons_lt_cons_iff, hlt, heq]
    by_cases hst : s < t <;> simp only [hst, and_true, and_false, or_false] <;> omega

end Decimal

namespace Timestamp

open Decimal (padded padded_append_lt_iff)

theorem padded_mark_lt_iff {width a b : Nat} (ha : a < 10 ^ width) (hb : b < 10 ^ width)
    (mark : Char) (s t : List Char) :
    padded width a ++ mark :: s < padded width b ++ mark :: t ↔ a < b ∨ a = b ∧ s < t := by
  rw [padded_append_lt_iff ha hb, List.cons_lt_cons_self]

theorem fractionText_lt_iff {a b : Nat} (ha : a < 10 ^ 6) (hb : b < 10 ^ 6) :
    fractionText a ++ "+00:00".toList < fractionText b ++ "+00:00".toList ↔ a < b := by
  have hsign : '+' < '.' := by decide
  have htail : "+00:00".toList = '+' :: "00:00".toList := by decide
  unfold fractionText
  split_ifs with h0 h1 h1
  · simp [h0, h1]
  · rw [List.nil_append, List.cons_append, htail]
    exact iff_of_true (List.Lex.rel hsign) (by omega)
  · rw [List.nil_append, List.cons_append, htail]
    refine iff_of_false (fun h => ?_) (by omega)
    rcases List.cons_lt_cons_iff.mp h with h | ⟨h, -⟩ <;> revert h <;> decide
  · rw [List.cons_append, List.cons_append, List.cons_lt_cons_self, padded_append_lt_iff ha hb]
    simp

/-! ### The order of texts -/

def days : Nat :=
  Date.daysBefore 10000

theorem date_bounds {day : Nat} (h : day < days) :
    (Date.ofDay day).year < 10 ^ 4 ∧ (Date.ofDay day).month < 10 ^ 2 ∧
      (Date.ofDay day).day < 10 ^ 2 := by
  obtain ⟨hmonth, hday⟩ := (Date.ofDay_spec day).1.bounds
  have hyear := Date.year_ofDay_lt h
  omega

theorem textChars_lt {m n : Nat} (hmn : m < n) (hn : n / 86400000000 < days) :
    textChars m < textChars n := by
  have hm : m / 86400000000 < days :=
    Nat.lt_of_le_of_lt (Nat.div_le_div_right (Nat.le_of_lt hmn)) hn
  obtain ⟨hmy, hmm, hmd⟩ := date_bounds hm
  obtain ⟨hny, hnm, hnd⟩ := date_bounds hn
  simp only [textChars, List.append_assoc, List.cons_append]
  rw [padded_mark_lt_iff hmy hny, padded_mark_lt_iff hmm hnm, padded_mark_lt_iff hmd hnd,
    padded_mark_lt_iff (by omega) (by omega), padded_mark_lt_iff (by omega) (by omega),
    padded_append_lt_iff (by omega) (by omega), fractionText_lt_iff (by omega) (by omega)]
  by_cases hday : m / 86400000000 < n / 86400000000
  · have hdate := Date.ofDay_isBefore hday
    rw [Date.IsBefore] at hdate
    omega
  · have heq : m / 86400000000 = n / 86400000000 := by omega
    rw [heq]
    omega

/-! ### Reading texts back -/

theorem number?_succ (width n : Nat) (cs : List Char) :
    number? (width + 1) n cs = (number? width n cs).bind fun (n, cs) => number? 1 n cs := by
  induction width generalizing n cs with
  | zero => rfl
  | succ width ih =>
    cases cs with
    | nil => rfl
    | cons c cs =>
      rw [number?, number?]
      split_ifs
      · exact ih _ cs
      · rfl

theorem number?_padded {width a : Nat} (ha : a < 10 ^ width) (n : Nat) (rest : List Char) :
    number? width n (padded width a ++ rest) = some (n * 10 ^ width + a, rest) := by
  induction width generalizing a rest with
  | zero =>
    obtain rfl : a = 0 := by omega
    simp [padded, number?]
  | succ width ih =>
    rw [Nat.pow_succ] at ha
    obtain ⟨hdigit, hvalue⟩ := Decimal.digit_spec (a % 10) (Nat.mod_lt a (by decide))
    rw [number?_succ, padded, List.append_assoc, ih (by omega), List.singleton_append]
    simp only [Option.bind_some, number?, hdigit, ↓reduceIte, hvalue, Option.some.injEq,
      Prod.mk.injEq, and_true, Nat.pow_succ, ← Nat.mul_assoc]
    omega

theorem after?_padded {width a : Nat} (ha : a < 10 ^ width) (mark : Char) (rest : List Char) :
    after? mark width (mark :: (padded width a ++ rest)) = some (a, rest) := by
  rw [after?, if_pos rfl, number?_padded ha]
  simp

theorem fraction?_fractionText {a : Nat} (ha : a < 10 ^ 6) :
    fraction? (fractionText a ++ "+00:00".toList) = some (a, "+00:00".toList) := by
  unfold fractionText
  split_ifs with h
  · rw [h]
    rfl
  · rw [List.cons_append, fraction?, number?_padded ha]
    simp

theorem read?_textChars {n : Nat} (hn : n / 86400000000 < days) :
    read? (String.ofList (textChars n)) = some (n - epoch) := by
  obtain ⟨hy, hm, hd⟩ := date_bounds hn
  have hday : Date.toDay ⟨0 * 10 ^ 4 + (Date.ofDay (n / 86400000000)).year,
      (Date.ofDay (n / 86400000000)).month, (Date.ofDay (n / 86400000000)).day⟩ =
        n / 86400000000 := by
    rw [Nat.zero_mul, Nat.zero_add]
    exact (Date.ofDay_spec (n / 86400000000)).2
  have hsum : (n / 86400000000 * 86400 + n / 1000000 % 86400 / 3600 * 3600 +
      n / 1000000 % 86400 / 60 % 60 * 60 + n / 1000000 % 86400 % 60) * 1000000 + n % 1000000 = n := by
    omega
  have hhour : n / 1000000 % 86400 / 3600 < 10 ^ 2 := by omega
  have hminute : n / 1000000 % 86400 / 60 % 60 < 10 ^ 2 := by omega
  have hsecond : n / 1000000 % 86400 % 60 < 10 ^ 2 := by omega
  have hmicros : n % 1000000 < 10 ^ 6 := by omega
  simp only [read?, textChars, String.toList_ofList, List.append_assoc, List.cons_append,
    number?_padded hy, after?_padded hm, after?_padded hd, after?_padded hhour,
    after?_padded hminute, after?_padded hsecond, fraction?_fractionText hmicros,
    Option.bind_eq_bind, Option.bind_some, ↓reduceIte, hday, hsum]
  rfl

/-! ### Times of the calendar -/

/-- The time lies in the years 1 to 9999. -/
def InYears (time : Int) : Prop :=
  -epoch ≤ time ∧ time < days * 86400000000 - epoch

instance (time : Int) : Decidable (InYears time) :=
  inferInstanceAs (Decidable (_ ∧ _))

theorem text_lt {a b : Int} (ha : InYears a) (hb : InYears b) (h : a < b) : text a < text b := by
  obtain ⟨ha, -⟩ := ha
  obtain ⟨hb, hlt⟩ := hb
  have hchars : textChars (a + epoch).toNat < textChars (b + epoch).toNat :=
    textChars_lt (by omega) (by omega)
  simpa only [text, String.lt_iff, String.toList_ofList] using hchars

theorem read?_text {a : Int} (ha : InYears a) : read? (text a) = some a := by
  obtain ⟨hle, hlt⟩ := ha
  rw [text, read?_textChars (by omega)]
  refine congrArg some ?_
  omega

end Timestamp

end DualToolchain
