import DualToolchain.Proofs.Text.Utf8
import Mathlib.Algebra.Group.Nat.Defs

/-! ASCII passes through decoding. An ASCII byte ends what was read before it and gives its own
character; an ASCII character comes from its own byte and from no other, since a character that
takes several bytes is never ASCII. So bytes, well-formed or not, and their text can be cut at the
same ASCII places. -/

namespace DualToolchain.Utf8

/-! ### Pending characters -/

/-- The lowest character that may still come. -/
def Pending.least (p : Pending) : Nat :=
  (p.bits * 64 + (p.low - 0x80)) * 64 ^ (p.missing - 1)

/-- One more than the highest character that may still come. -/
def Pending.bound (p : Pending) : Nat :=
  (p.bits * 64 + (p.high - 0x80) + 1) * 64 ^ (p.missing - 1)

/-- Whatever still comes is a character that takes several bytes. -/
structure Pending.IsSound (p : Pending) : Prop where
  missing : p.missing = 1 ∨ p.missing = 2 ∨ p.missing = 3
  low : 0x80 ≤ p.low
  high : p.high ≤ 0xbf
  least : 0x80 ≤ p.least
  bound : p.bound ≤ 0xd800 ∨ 0xdfff < p.least ∧ p.bound ≤ 0x110000

theorem lead_isSound {b : UInt8} {p : Pending} (h : lead b = some p) : p.IsSound := by
  rw [lead] at h
  generalize b.toNat = n at h
  split_ifs at h
  all_goals
    obtain rfl := Option.some.inj h
    refine ⟨by simp, by simp, by simp, ?_, ?_⟩
    all_goals
      simp only [Pending.least, Pending.bound, Nat.reduceSub, Nat.reducePow]
      omega

/-- A pending character after a further byte that is not its last one. -/
def Pending.next (p : Pending) (n : Nat) : Pending :=
  ⟨p.bits * 64 + (n - 0x80), p.missing - 1, 0x80, 0xbf⟩

theorem Pending.next_range {p : Pending} {n : Nat} (hn : p.low ≤ n ∧ n ≤ p.high)
    (hm : p.missing = 2 ∨ p.missing = 3) :
    p.least ≤ (p.next n).least ∧ (p.next n).bound ≤ p.bound := by
  unfold least bound next
  have hl : p.low - 0x80 ≤ n - 0x80 := Nat.sub_le_sub_right hn.1 _
  have hh : n - 0x80 ≤ p.high - 0x80 := Nat.sub_le_sub_right hn.2 _
  -- Only the distances from the lowest continuation byte matter.
  generalize p.low - 0x80 = l, n - 0x80 = k, p.high - 0x80 = h at hl hh ⊢
  rcases hm with hm | hm <;> simp only [hm, Nat.reduceSub, Nat.reducePow] <;> omega

theorem Pending.IsSound.next {p : Pending} (hp : p.IsSound) {n : Nat}
    (hn : p.low ≤ n ∧ n ≤ p.high) (hm : ¬ p.missing ≤ 1) : (p.next n).IsSound := by
  obtain ⟨hmissing, -, -, hleast, hbound⟩ := hp
  obtain ⟨hl, hb⟩ := next_range hn (by omega)
  have hm' : (p.next n).missing = p.missing - 1 := rfl
  exact ⟨by omega, Nat.le_refl _, Nat.le_refl _, by omega, by omega⟩

theorem Pending.last_range {p : Pending} {n : Nat} (hn : p.low ≤ n ∧ n ≤ p.high)
    (hm : p.missing = 1) :
    p.least ≤ p.bits * 64 + (n - 0x80) ∧ p.bits * 64 + (n - 0x80) < p.bound := by
  simp only [least, bound, hm, Nat.sub_self, pow_zero, Nat.mul_one]
  omega

theorem Pending.IsSound.toNat_ofNat {p : Pending} (hp : p.IsSound) {n : Nat} (hleast : p.least ≤ n)
    (hbound : n < p.bound) : (Char.ofNat n).toNat = n := by
  have hvalid : n.isValidChar := by
    have hsound := hp.bound
    unfold Nat.isValidChar
    omega
  rw [Char.ofNat, dif_pos hvalid]
  rfl

/-- The last byte makes it a character that is not ASCII. -/
theorem Pending.IsSound.toNat_last {p : Pending} (hp : p.IsSound) {n : Nat}
    (hn : p.low ≤ n ∧ n ≤ p.high) (hm : p.missing = 1) :
    0x80 ≤ (Char.ofNat (p.bits * 64 + (n - 0x80))).toNat := by
  obtain ⟨hleast, hbound⟩ := last_range hn hm
  rw [hp.toNat_ofNat hleast hbound]
  exact Nat.le_trans hp.least hleast

theorem Pending.IsSound.missing_eq_one {p : Pending} (hp : p.IsSound) (hm : p.missing ≤ 1) :
    p.missing = 1 := by
  have hmissing := hp.missing
  omega

/-! ### Places between characters -/

/-- What a reader gives where the bytes end. -/
def flush : Option Pending → List Char
  | none => []
  | some _ => [replacement]

theorem decodeFrom_nil (s : Option Pending) : decodeFrom s [] = flush s := by
  cases s <;> rfl

theorem toNat_replacement : 0x80 ≤ replacement.toNat := by
  decide

def IsSoundState (s : Option Pending) : Prop :=
  ∀ p, s = some p → p.IsSound

theorem isSoundState_none : IsSoundState none := by
  intro p hp
  contradiction

theorem isSoundState_some {p : Pending} (hp : p.IsSound) : IsSoundState (some p) := by
  rintro _ ⟨⟩
  exact hp

theorem toNat_ofNat_ascii {b : UInt8} (hb : b.toNat < 0x80) :
    (Char.ofNat b.toNat).toNat = b.toNat := by
  rw [Char.ofNat, dif_pos (.inl (by omega))]
  rfl

/-- An ASCII byte ends what was read before and gives its own character. -/
theorem decodeFrom_ascii {s : Option Pending} (hs : IsSoundState s) {b : UInt8}
    (hb : b.toNat < 0x80) (rest : List UInt8) :
    decodeFrom s (b :: rest) = flush s ++ Char.ofNat b.toNat :: decodeFrom none rest := by
  cases s with
  | none => rw [decodeFrom, startWith, if_pos hb, flush, List.nil_append]
  | some p =>
    have hlow := (hs p rfl).low
    rw [decodeFrom, if_neg (by omega), startWith, if_pos hb, flush, List.singleton_append]

/-- Any other byte gives no ASCII, and if it leaves nothing pending it gives a character. -/
theorem decodeFrom_of_not_ascii {s : Option Pending} (hs : IsSoundState s) {b : UInt8}
    (hb : 0x80 ≤ b.toNat) :
    ∃ (out : List Char) (s' : Option Pending), IsSoundState s' ∧
      (∀ c ∈ out, 0x80 ≤ c.toNat) ∧ (s' = none → out ≠ []) ∧
      ∀ rest, decodeFrom s (b :: rest) = out ++ decodeFrom s' rest := by
  -- What it gives where a character starts.
  have hstart : ∃ (out : List Char) (s' : Option Pending), IsSoundState s' ∧
      (∀ c ∈ out, 0x80 ≤ c.toNat) ∧ (s' = none → out ≠ []) ∧
      ∀ next, startWith b next = out ++ next s' := by
    cases hl : lead b with
    | none =>
      refine ⟨[replacement], none, isSoundState_none, ?_, by simp, fun next => ?_⟩
      · simpa using toNat_replacement
      · rw [startWith, if_neg (by omega), hl, List.singleton_append]
    | some p =>
      refine ⟨[], some p, isSoundState_some (lead_isSound hl), by simp, by simp, fun next => ?_⟩
      rw [startWith, if_neg (by omega), hl, List.nil_append]
  cases s with
  | none =>
    obtain ⟨out, s', hs', hout, hne, h⟩ := hstart
    exact ⟨out, s', hs', hout, hne, fun rest => by rw [decodeFrom, h]⟩
  | some p =>
    have hp := hs p rfl
    by_cases hn : p.low ≤ b.toNat ∧ b.toNat ≤ p.high
    · by_cases hm : p.missing ≤ 1
      · refine ⟨[Char.ofNat (p.bits * 64 + (b.toNat - 0x80))], none, isSoundState_none, ?_, by simp,
          fun rest => ?_⟩
        · intro c hc
          rw [List.mem_singleton.mp hc]
          exact hp.toNat_last hn (hp.missing_eq_one hm)
        · rw [decodeFrom, if_pos hn, if_pos hm, List.singleton_append]
      · have hnext := isSoundState_some (hp.next hn hm)
        refine ⟨[], _, hnext, ?_, ?_, fun rest => ?_⟩
        · simp
        · simp
        · rw [List.nil_append, decodeFrom, if_pos hn, if_neg hm]
          rfl
    · obtain ⟨out, s', hs', hout, -, h⟩ := hstart
      refine ⟨replacement :: out, s', hs', ?_, by simp, fun rest => ?_⟩
      · simpa using ⟨toNat_replacement, hout⟩
      · rw [decodeFrom, if_neg hn, h, List.cons_append]

/-- Bytes before an ASCII byte are decoded as if they were alone. -/
theorem decodeFrom_append_ascii {s : Option Pending} (hs : IsSoundState s) (bs : List UInt8)
    {b : UInt8} (hb : b.toNat < 0x80) (rest : List UInt8) :
    decodeFrom s (bs ++ b :: rest) =
      decodeFrom s bs ++ Char.ofNat b.toNat :: decodeFrom none rest := by
  induction bs generalizing s with
  | nil => rw [List.nil_append, decodeFrom_ascii hs hb, decodeFrom_nil]
  | cons b' bs ih =>
    rw [List.cons_append]
    by_cases hb' : b'.toNat < 0x80
    · rw [decodeFrom_ascii hs hb', decodeFrom_ascii hs hb', ih isSoundState_none]
      simp
    · obtain ⟨out, s', hs', -, -, h⟩ := decodeFrom_of_not_ascii hs (Nat.le_of_not_lt hb')
      rw [h, h, ih hs', List.append_assoc]

/-- A list that begins with `out` is cut at an element that is not in `out`. -/
theorem cut_behind {α : Type} {out rest xs ys : List α} {c : α} (hc : c ∉ out)
    (h : out ++ rest = xs ++ c :: ys) : ∃ xs', xs = out ++ xs' ∧ rest = xs' ++ c :: ys := by
  rcases List.append_eq_append_iff.mp h with ⟨as, hxs, hrest⟩ | ⟨cs, hout, hcs⟩
  · exact ⟨as, hxs, hrest⟩
  · cases cs with
    | nil => exact ⟨[], by simpa using hout.symm, by simpa using hcs.symm⟩
    | cons c' cs =>
      obtain ⟨rfl, -⟩ := List.cons.inj hcs
      exact absurd (hout ▸ List.mem_append_right xs List.mem_cons_self) hc

/-- An ASCII character of a decoded text comes from its own byte; the characters before it come
from the bytes before, those behind it from the bytes behind. -/
theorem exists_of_decodeFrom_eq {s : Option Pending} (hs : IsSoundState s) {bytes : List UInt8}
    {xs ys : List Char} {c : Char} (hc : c.toNat < 0x80)
    (h : decodeFrom s bytes = xs ++ c :: ys) :
    ∃ bs rest, bytes = bs ++ UInt8.ofNat c.toNat :: rest ∧ decodeFrom s bs = xs ∧
      decodeFrom none rest = ys := by
  have hflush : ∀ s, c ∉ flush s := by
    rintro (_ | p) hm
    · simp [flush] at hm
    · obtain rfl : c = replacement := by simpa [flush] using hm
      exact absurd toNat_replacement (Nat.not_le_of_lt hc)
  induction bytes generalizing s xs with
  | nil =>
    have hm : c ∈ flush s := by
      rw [← decodeFrom_nil, h]
      simp
    exact absurd hm (hflush s)
  | cons b bytes ih =>
    by_cases hb : b.toNat < 0x80
    · rw [decodeFrom_ascii hs hb] at h
      obtain ⟨xs', rfl, hxs⟩ := cut_behind (hflush s) h
      cases xs' with
      | nil =>
        obtain ⟨rfl, rfl⟩ := List.cons.inj hxs
        refine ⟨[], bytes, ?_, by simp [decodeFrom_nil], rfl⟩
        rw [List.nil_append, toNat_ofNat_ascii hb, UInt8.ofNat_toNat]
      | cons c' xs' =>
        obtain ⟨rfl, hbytes⟩ := List.cons.inj hxs
        obtain ⟨bs, rest, rfl, hbs, hrest⟩ := ih isSoundState_none hbytes
        exact ⟨b :: bs, rest, rfl, by rw [decodeFrom_ascii hs hb, hbs], hrest⟩
    · obtain ⟨out, s', hs', hout, -, hdec⟩ := decodeFrom_of_not_ascii hs (Nat.le_of_not_lt hb)
      rw [hdec] at h
      have hnot : c ∉ out := fun hm => by
        have := hout c hm
        omega
      obtain ⟨xs', rfl, hxs⟩ := cut_behind hnot h
      obtain ⟨bs, rest, rfl, hbs, hrest⟩ := ih hs' hxs
      exact ⟨b :: bs, rest, rfl, by rw [hdec, hbs], hrest⟩

/-! ### ASCII texts within bytes -/

theorem decodeFrom_eq_nil {s : Option Pending} (hs : IsSoundState s) {bytes : List UInt8}
    (h : decodeFrom s bytes = []) : s = none ∧ bytes = [] := by
  induction bytes generalizing s with
  | nil =>
    cases s with
    | none => exact ⟨rfl, rfl⟩
    | some p => simp [decodeFrom] at h
  | cons b bytes ih =>
    by_cases hb : b.toNat < 0x80
    · simp [decodeFrom_ascii hs hb] at h
    · obtain ⟨out, s', hs', -, hne, hdec⟩ := decodeFrom_of_not_ascii hs (Nat.le_of_not_lt hb)
      rw [hdec, List.append_eq_nil_iff] at h
      exact absurd h.1 (hne (ih hs' h.2).1)

theorem decodeChars_eq_nil {bytes : List UInt8} (h : decodeChars bytes = []) : bytes = [] :=
  (decodeFrom_eq_nil isSoundState_none h).2

theorem decodeChars_encodeChars_append (cs : List Char) (rest : List UInt8) :
    decodeChars (encodeChars cs ++ rest) = cs ++ decodeChars rest := by
  unfold decodeChars encodeChars
  induction cs with
  | nil => rfl
  | cons c cs ih =>
    rw [List.flatMap_cons, List.append_assoc, decodeFrom_encodeChar, ih, List.cons_append]

theorem encodeChars_cons {c : Char} (hc : c.toNat < 0x80) (cs : List Char) :
    encodeChars (c :: cs) = UInt8.ofNat c.toNat :: encodeChars cs := by
  rw [encodeChars, List.flatMap_cons, encodeChar, if_pos hc]
  rfl

variable {text : List Char}

/-- The bytes of an ASCII text, between any others, are decoded as that text. -/
theorem decodeChars_append_append (hne : text ≠ []) (hascii : ∀ c ∈ text, c.toNat < 0x80)
    (before rest : List UInt8) :
    decodeChars (before ++ encodeChars text ++ rest) =
      decodeChars before ++ text ++ decodeChars rest := by
  obtain ⟨c, cs, rfl⟩ := List.exists_cons_of_ne_nil hne
  have hc := hascii c List.mem_cons_self
  have hbyte : (UInt8.ofNat c.toNat).toNat = c.toNat := toNat_byte (by omega)
  have hcut := decodeFrom_append_ascii isSoundState_none before (by rwa [hbyte])
    (encodeChars cs ++ rest)
  rw [hbyte, Char.ofNat_toNat] at hcut
  have hrest := decodeChars_encodeChars_append cs rest
  rw [decodeChars] at hrest
  rw [encodeChars_cons hc, List.append_assoc, List.cons_append, decodeChars, hcut, hrest]
  simp [decodeChars]

theorem exists_of_decodeChars_eq_append (hascii : ∀ c ∈ text, c.toNat < 0x80)
    {bytes : List UInt8} {ys : List Char} (h : decodeChars bytes = text ++ ys) :
    ∃ rest, bytes = encodeChars text ++ rest ∧ decodeChars rest = ys := by
  induction text generalizing bytes with
  | nil => exact ⟨bytes, rfl, h⟩
  | cons c cs ih =>
    have hc := hascii c List.mem_cons_self
    have hcut : decodeFrom none bytes = [] ++ c :: (cs ++ ys) := h
    obtain ⟨bs, rest, rfl, hbs, hrest⟩ := exists_of_decodeFrom_eq isSoundState_none hc hcut
    obtain rfl := decodeChars_eq_nil hbs
    obtain ⟨rest', rfl, hrest'⟩ := ih (fun c' hc' => hascii c' (List.mem_cons_of_mem c hc')) hrest
    exact ⟨rest', by rw [encodeChars_cons hc, List.nil_append, List.cons_append], hrest'⟩

/-- An ASCII text within a decoded text comes from its own bytes. -/
theorem exists_of_decodeChars_eq (hne : text ≠ []) (hascii : ∀ c ∈ text, c.toNat < 0x80)
    {bytes : List UInt8} {xs ys : List Char} (h : decodeChars bytes = xs ++ text ++ ys) :
    ∃ before rest, bytes = before ++ encodeChars text ++ rest ∧ decodeChars before = xs ∧
      decodeChars rest = ys := by
  obtain ⟨c, cs, rfl⟩ := List.exists_cons_of_ne_nil hne
  have hc := hascii c List.mem_cons_self
  rw [List.append_assoc] at h
  obtain ⟨before, rest, rfl, hbefore, hrest⟩ := exists_of_decodeFrom_eq isSoundState_none hc h
  obtain ⟨rest', rfl, hrest'⟩ := exists_of_decodeChars_eq_append
    (fun c' hc' => hascii c' (List.mem_cons_of_mem c hc')) hrest
  exact ⟨before, rest', by rw [encodeChars_cons hc]; simp, hbefore, hrest'⟩

/-- The byte of an ASCII character is there exactly if the character is. -/
theorem mem_decodeChars_iff {c : Char} (hc : c.toNat < 0x80) (bytes : List UInt8) :
    c ∈ decodeChars bytes ↔ UInt8.ofNat c.toNat ∈ bytes := by
  have hbyte : (UInt8.ofNat c.toNat).toNat = c.toNat := toNat_byte (by omega)
  constructor
  · intro h
    obtain ⟨xs, ys, hxs⟩ := List.append_of_mem h
    obtain ⟨bs, rest, rfl, -, -⟩ := exists_of_decodeFrom_eq isSoundState_none hc hxs
    simp
  · intro h
    obtain ⟨bs, rest, rfl⟩ := List.append_of_mem h
    rw [decodeChars, decodeFrom_append_ascii isSoundState_none bs (by rwa [hbyte]), hbyte,
      Char.ofNat_toNat]
    simp

end DualToolchain.Utf8
