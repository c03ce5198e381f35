import DualToolchain.Proofs.Text.Ascii

/-! Ill-formed bytes are repaired by decoding and encoding them: the encodings of characters are
kept in order, and each maximal ill-formed part gives one U+FFFD. Which part that is depends on the
bytes only: where no character is encoded, it is the longest beginning of the encoding of one. -/

namespace DualToolchain.Utf8

/-! ### Well-formed bytes -/

theorem encodeChar_eq (c : Char) : encodeChar c = String.utf8EncodeChar c := by
  have hvalid : c.toNat < 0xd800 ∨ 0xdfff < c.toNat ∧ c.toNat < 0x110000 := c.valid
  have hval : c.val.toNat = c.toNat := rfl
  simp only [encodeChar, String.utf8EncodeChar, hval]
  generalize c.toNat = n at hvalid ⊢
  by_cases h1 : n < 0x80
  · rw [if_pos h1, if_pos (by omega)]
  by_cases h2 : n < 0x800
  · have hfirst : n / 64 % 32 + 192 = 0xc0 + n / 64 := by omega
    rw [if_neg h1, if_pos h2, if_neg (by omega), if_pos (by omega), hfirst, Nat.add_comm (n % 64)]
  by_cases h3 : n < 0x10000
  · have hfirst : n / 4096 % 16 + 224 = 0xe0 + n / 4096 := by omega
    rw [if_neg h1, if_neg h2, if_pos h3, if_neg (by omega), if_neg (by omega), if_pos (by omega),
      hfirst, Nat.add_comm (n / 64 % 64), Nat.add_comm (n % 64)]
  · have hfirst : n / 262144 % 8 + 240 = 0xf0 + n / 262144 := by omega
    rw [if_neg h1, if_neg h2, if_neg h3, if_neg (by omega), if_neg (by omega), if_neg (by omega),
      hfirst, Nat.add_comm (n / 4096 % 64), Nat.add_comm (n / 64 % 64), Nat.add_comm (n % 64)]

theorem encodeChar_ne_nil (c : Char) : encodeChar c ≠ [] := by
  rw [encodeChar_eq]
  exact String.utf8EncodeChar_ne_nil

/-- The well-formed bytes are the encodings of texts. -/
theorem isValidUTF8_iff (bytes : List UInt8) :
    bytes.toByteArray.IsValidUTF8 ↔ ∃ cs, bytes = encodeChars cs := by
  have hutf8 (cs : List Char) : cs.utf8Encode = (encodeChars cs).toByteArray := by
    rw [List.utf8Encode, encodeChars, funext encodeChar_eq]
  constructor
  · rintro ⟨cs, hcs⟩
    rw [hutf8] at hcs
    refine ⟨cs, ?_⟩
    simpa using congrArg ByteArray.data hcs
  · rintro ⟨cs, rfl⟩
    exact ⟨cs, (hutf8 cs).symm⟩

/-! ### What a reader has read -/

/-- The last `k` bytes of a character that takes more than `k` of them. -/
def tailBytes (n : Nat) : Nat → List UInt8
  | 0 => []
  | k + 1 => UInt8.ofNat (0x80 + n / 64 ^ k % 64) :: tailBytes n k

theorem lead_cases {b : UInt8} {p : Pending} (h : lead b = some p) :
    p.low ≤ p.high ∧
    (p.missing = 1 ∧ b.toNat = 0xc0 + p.bits ∧ 0x80 ≤ p.least ∧ p.bound ≤ 0x800 ∨
      p.missing = 2 ∧ b.toNat = 0xe0 + p.bits ∧ 0x800 ≤ p.least ∧ p.bound ≤ 0x10000 ∨
      p.missing = 3 ∧ b.toNat = 0xf0 + p.bits ∧ 0x10000 ≤ p.least) := by
  rw [lead] at h
  generalize b.toNat = n at h ⊢
  split_ifs at h
  all_goals
    obtain rfl := Option.some.inj h
    simp only [Pending.least, Pending.bound, Nat.reduceSub, Nat.reducePow, Nat.reduceEqDiff,
      true_and, false_and, or_false, false_or]
    omega

/-- The reader has read `bs`, the beginning of the characters that may still come. -/
structure Pending.Begins (p : Pending) (bs : List UInt8) : Prop where
  isSound : p.IsSound
  low_le_high : p.low ≤ p.high
  decodeFrom_append : ∀ rest, decodeFrom none (bs ++ rest) = decodeFrom (some p) rest
  encodeChar_eq_append : ∀ c : Char, p.least ≤ c.toNat → c.toNat < p.bound →
    encodeChar c = bs ++ tailBytes c.toNat p.missing

theorem lead_begins {b : UInt8} {p : Pending} (h : lead b = some p) : p.Begins [b] := by
  have hsound := lead_isSound h
  have hb : 0x80 ≤ b.toNat := by
    by_contra hb
    rw [lead, if_pos (by omega)] at h
    contradiction
  obtain ⟨hlow, hcases⟩ := lead_cases h
  refine ⟨hsound, hlow, fun rest => ?_, fun c hleast hbound => ?_⟩
  · rw [List.singleton_append, decodeFrom, startWith, if_neg (by omega), h]
  · have hhigh := hsound.high
    have hbyte {m : Nat} (hm : b.toNat = m) : UInt8.ofNat m = b := by
      rw [← hm, UInt8.ofNat_toNat]
    unfold Pending.least at hleast hcases
    unfold Pending.bound at hbound hcases
    unfold encodeChar
    generalize c.toNat = n at hleast hbound ⊢
    -- The bounds fix the leading bits, and with them the first byte.
    rcases hcases with ⟨hm, hbits, h1, h2⟩ | ⟨hm, hbits, h1, h2⟩ | ⟨hm, hbits, h1⟩
    · simp only [hm, Nat.reduceSub, pow_zero, Nat.mul_one] at h1 h2 hleast hbound
      simp only
      rw [if_neg (by omega), if_pos (by omega), hm, hbyte (by omega)]
      simp [tailBytes]
    · simp only [hm, Nat.reduceSub, pow_one] at h1 h2 hleast hbound
      simp only
      rw [if_neg (by omega), if_neg (by omega), if_pos (by omega), hm, hbyte (by omega)]
      simp [tailBytes]
    · simp only [hm, Nat.reduceSub, Nat.reducePow] at h1 hleast hbound
      simp only
      rw [if_neg (by omega), if_neg (by omega), if_neg (by omega), hm, hbyte (by omega)]
      simp [tailBytes]

namespace Pending

variable {p : Pending} {bs : List UInt8} {b : UInt8}

/-- The bounds that a further byte leaves fix the leading bits. -/
theorem div_of_next {k n m : Nat} (hk : p.missing = k + 2) (hleast : (p.next n).least ≤ m)
    (hbound : m < (p.next n).bound) : m / 64 ^ (k + 1) = p.bits * 64 + (n - 0x80) := by
  unfold least next at hleast
  unfold bound next at hbound
  simp only [hk, Nat.reduceSubDiff, Nat.add_zero] at hleast hbound
  refine Nat.div_eq_of_lt_le ?_ ?_
  · rwa [pow_succ', ← Nat.mul_assoc]
  · rwa [pow_succ', ← Nat.mul_assoc, Nat.add_mul, Nat.one_mul]

theorem Begins.next (h : p.Begins bs) (hb : p.low ≤ b.toNat ∧ b.toNat ≤ p.high)
    (hm : ¬ p.missing ≤ 1) : (p.next b.toNat).Begins (bs ++ [b]) := by
  have hlow := h.isSound.low
  have hhigh := h.isSound.high
  have hmissing := h.isSound.missing
  obtain ⟨k, hk⟩ : ∃ k, p.missing = k + 2 := ⟨p.missing - 2, by omega⟩
  obtain ⟨hleast, hbound⟩ := next_range hb (by omega)
  refine ⟨h.isSound.next hb hm, (by decide : 0x80 ≤ 0xbf), fun rest => ?_, fun c hl hu => ?_⟩
  · rw [List.append_assoc, List.singleton_append, h.decodeFrom_append, decodeFrom, if_pos hb,
      if_neg hm]
    rfl
  · have hc := h.encodeChar_eq_append c (Nat.le_trans hleast hl) (Nat.lt_of_lt_of_le hu hbound)
    rw [hk, tailBytes] at hc
    have hmissing' : (p.next b.toNat).missing = k + 1 := by
      change p.missing - 1 = k + 1
      omega
    have hbyte : 0x80 + c.toNat / 64 ^ (k + 1) % 64 = b.toNat := by
      rw [div_of_next hk hl hu]
      omega
    rw [hc, hmissing', hbyte, UInt8.ofNat_toNat, List.append_assoc, List.singleton_append]

theorem Begins.last (h : p.Begins bs) (hb : p.low ≤ b.toNat ∧ b.toNat ≤ p.high)
    (hm : p.missing ≤ 1) :
    encodeChar (Char.ofNat (p.bits * 64 + (b.toNat - 0x80))) = bs ++ [b] := by
  have hlow := h.isSound.low
  have hhigh := h.isSound.high
  have h1 := h.isSound.missing_eq_one hm
  obtain ⟨hleast, hbound⟩ := last_range hb h1
  have hnum := h.isSound.toNat_ofNat hleast hbound
  have hbyte : 0x80 + (p.bits * 64 + (b.toNat - 0x80)) % 64 = b.toNat := by omega
  rw [h.encodeChar_eq_append _ (by rwa [hnum]) (by rwa [hnum]), hnum, h1, tailBytes, tailBytes,
    pow_zero, Nat.div_one, hbyte, UInt8.ofNat_toNat]

theorem least_lt_bound (h : p.low ≤ p.high) : p.least < p.bound := by
  unfold least bound
  exact Nat.mul_lt_mul_of_pos_right (by omega) (Nat.pow_pos (by decide))

theorem Begins.exists_prefix (h : p.Begins bs) : ∃ c, bs <+: encodeChar c := by
  have hlt := least_lt_bound h.low_le_high
  have hnum := h.isSound.toNat_ofNat (Nat.le_refl _) hlt
  refine ⟨Char.ofNat p.least, ?_⟩
  rw [h.encodeChar_eq_append _ (Nat.le_of_eq hnum.symm) (by rwa [hnum])]
  exact List.prefix_append ..

end Pending

theorem decodeFrom_none_cons (b : UInt8) (rest : List UInt8) :
    decodeFrom none (b :: rest) = startWith b fun s => decodeFrom s rest := by
  rw [decodeFrom]

theorem decodeFrom_encodeChar_self (c : Char) : decodeFrom none (encodeChar c) = [c] := by
  have h := decodeFrom_encodeChar c []
  rwa [List.append_nil] at h

/-- A byte out of bounds does not go on with any character. -/
theorem Pending.Begins.bounds {p : Pending} {bs : List UInt8} {b : UInt8} (h : p.Begins bs)
    {c : Char} (hc : bs ++ [b] <+: encodeChar c) : p.low ≤ b.toNat ∧ b.toNat ≤ p.high := by
  by_contra hb
  obtain ⟨rest, hrest⟩ := hc
  have hdecode := decodeFrom_encodeChar_self c
  rw [← hrest, List.append_assoc, h.decodeFrom_append, List.singleton_append, decodeFrom,
    if_neg hb, ← decodeFrom_none_cons, List.cons.injEq] at hdecode
  have hnil := decodeChars_eq_nil hdecode.2
  contradiction

theorem not_prefix_of_lead_eq_none {b : UInt8} (hb : 0x80 ≤ b.toNat) (h : lead b = none)
    (bs : List UInt8) (c : Char) : ¬ b :: bs <+: encodeChar c := by
  rintro ⟨rest, hrest⟩
  have hdecode := decodeFrom_encodeChar_self c
  rw [← hrest, List.cons_append, decodeFrom, startWith, if_neg (by omega), h,
    List.cons.injEq] at hdecode
  obtain ⟨rfl, hnil⟩ := hdecode
  have hlength : (encodeChar replacement).length = 3 := by decide
  rw [← hrest, List.cons_append, decodeChars_eq_nil hnil, List.length_singleton] at hlength
  contradiction

/-! ### Ill-formed parts -/

/-- A maximal ill-formed part with the bytes behind it: there the encoding of no character is, and
the part is the longest beginning of one that is there, or a single byte if there is none. -/
structure IsIllFormedPart (part rest : List UInt8) : Prop where
  not_character : ∀ c, ¬ encodeChar c <+: part ++ rest
  ne_nil : part ≠ []
  begins : (∃ c, part <+: encodeChar c) ∨ part.length = 1
  longest : ∀ c longer, longer <+: encodeChar c → longer <+: part ++ rest →
    longer.length ≤ part.length

/-- Of the same bytes there is one such part. -/
theorem IsIllFormedPart.unique {part rest part' rest' : List UInt8} (h : IsIllFormedPart part rest)
    (h' : IsIllFormedPart part' rest') (heq : part ++ rest = part' ++ rest') :
    part = part' ∧ rest = rest' := by
  have hle {part rest part' rest' : List UInt8} (h : IsIllFormedPart part rest)
      (h' : IsIllFormedPart part' rest') (heq : part ++ rest = part' ++ rest') :
      part.length ≤ part'.length := by
    rcases h.begins with ⟨c, hc⟩ | hone
    · exact h'.longest c part hc (heq ▸ List.prefix_append ..)
    · rw [hone]
      exact List.length_pos_iff.mpr h'.ne_nil
  exact List.append_inj heq (Nat.le_antisymm (hle h h' heq) (hle h' h heq.symm))

/-- Where no character is to come, the reader goes on to the end of a maximal ill-formed part. -/
theorem Pending.Begins.exists_isIllFormedPart {p : Pending} {bs : List UInt8} (h : p.Begins bs)
    (hne : bs ≠ []) {rest : List UInt8} (hno : ∀ c, ¬ encodeChar c <+: bs ++ rest) :
    ∃ more tail, rest = more ++ tail ∧ IsIllFormedPart (bs ++ more) tail ∧
      decodeFrom (some p) rest = replacement :: decodeFrom none tail := by
  induction rest generalizing p bs with
  | nil =>
    refine ⟨[], [], rfl, ⟨by simpa using hno, by simpa using hne, ?_, fun c longer _ hl => ?_⟩, rfl⟩
    · simpa using Or.inl h.exists_prefix
    · simpa using hl.length_le
  | cons b rest ih =>
    by_cases hb : p.low ≤ b.toNat ∧ b.toNat ≤ p.high
    · by_cases hm : p.missing ≤ 1
      · refine absurd ?_ (hno (Char.ofNat (p.bits * 64 + (b.toNat - 0x80))))
        rw [h.last hb hm, List.append_cons bs b rest]
        exact List.prefix_append ..
      · rw [List.append_cons] at hno
        obtain ⟨more, tail, rfl, hpart, hdecode⟩ := ih (h.next hb hm) (by simp) hno
        refine ⟨b :: more, tail, rfl, by rwa [List.append_cons], ?_⟩
        rw [decodeFrom, if_pos hb, if_neg hm]
        exact hdecode
    · -- The byte goes on with no character, so what was read is the part.
      refine ⟨[], b :: rest, rfl, ?_, ?_⟩
      · rw [List.append_nil]
        refine ⟨hno, hne, .inl h.exists_prefix, fun c longer hlonger hl => ?_⟩
        by_contra hlt
        have hnext : bs ++ [b] <+: longer := by
          rw [List.append_cons] at hl
          refine List.prefix_of_prefix_length_le (List.prefix_append ..) hl ?_
          rw [List.length_append, List.length_singleton]
          omega
        exact hb (h.bounds (hnext.trans hlonger))
      · rw [decodeFrom_none_cons, decodeFrom, if_neg hb]

/-- Where no character is, there is a maximal ill-formed part, and it is read as one U+FFFD. -/
theorem exists_isIllFormedPart {bytes : List UInt8} (hne : bytes ≠ [])
    (hno : ∀ c, ¬ encodeChar c <+: bytes) :
    ∃ part rest, bytes = part ++ rest ∧ IsIllFormedPart part rest ∧
      decodeChars bytes = replacement :: decodeChars rest := by
  obtain ⟨b, bytes, rfl⟩ := List.exists_cons_of_ne_nil hne
  have hb : 0x80 ≤ b.toNat := by
    by_contra hb
    have hascii : b.toNat < 0x80 := Nat.lt_of_not_le hb
    refine hno (Char.ofNat b.toNat) ⟨bytes, ?_⟩
    rw [encodeChar, toNat_ofNat_ascii hascii, if_pos (by omega), UInt8.ofNat_toNat, List.singleton_append]
  cases hlead : lead b with
  | none =>
    refine ⟨[b], bytes, rfl, ⟨hno, by simp, .inr rfl, fun c longer hlonger hl => ?_⟩, ?_⟩
    · cases longer with
      | nil => simp
      | cons b' longer =>
        obtain rfl := (List.cons_prefix_cons.mp hl).1
        exact absurd hlonger (not_prefix_of_lead_eq_none hb hlead longer c)
    · rw [decodeChars, decodeFrom, startWith, if_neg (by omega), hlead, decodeChars]
  | some p =>
    obtain ⟨more, tail, rfl, hpart, hdecode⟩ :=
      (lead_begins hlead).exists_isIllFormedPart (by simp) hno
    refine ⟨b :: more, tail, rfl, hpart, ?_⟩
    rw [decodeChars, decodeFrom, startWith, if_neg (by omega), hlead]
    exact hdecode

theorem decodeChars_of_isIllFormedPart {part rest : List UInt8} (h : IsIllFormedPart part rest) :
    decodeChars (part ++ rest) = replacement :: decodeChars rest := by
  obtain ⟨part', rest', heq, h', hdecode⟩ :=
    exists_isIllFormedPart (List.append_ne_nil_of_left_ne_nil h.ne_nil rest) h.not_character
  obtain ⟨-, rfl⟩ := h.unique h' heq
  exact hdecode

/-! ### Repair -/

/-- The second bytes are the first ones repaired: the encodings of characters are kept, and in the
place of each maximal ill-formed part is the encoding of U+FFFD. -/
inductive Repairs : List UInt8 → List UInt8 → Prop where
  | nil : Repairs [] []
  | keep (c : Char) {bytes repaired : List UInt8} (h : Repairs bytes repaired) :
    Repairs (encodeChar c ++ bytes) (encodeChar c ++ repaired)
  | replace {part bytes repaired : List UInt8} (hpart : IsIllFormedPart part bytes)
    (h : Repairs bytes repaired) : Repairs (part ++ bytes) (encodeChar replacement ++ repaired)

theorem encodeChars_cons_append (c : Char) (cs : List Char) :
    encodeChars (c :: cs) = encodeChar c ++ encodeChars cs :=
  List.flatMap_cons

theorem decodeChars_encodeChar_append (c : Char) (rest : List UInt8) :
    decodeChars (encodeChar c ++ rest) = c :: decodeChars rest :=
  decodeFrom_encodeChar c rest

theorem repairs_encodeChars_decodeChars (bytes : List UInt8) :
    Repairs bytes (encodeChars (decodeChars bytes)) := by
  by_cases hchar : ∃ c, encodeChar c <+: bytes
  · obtain ⟨c, rest, heq⟩ := hchar
    have hpos := List.length_pos_iff.mpr (encodeChar_ne_nil c)
    rw [← heq, decodeChars_encodeChar_append, encodeChars_cons_append]
    exact .keep c (repairs_encodeChars_decodeChars rest)
  · by_cases hne : bytes = []
    · rw [hne]
      exact .nil
    · obtain ⟨part, rest, heq, hpart, hdecode⟩ := exists_isIllFormedPart hne (not_exists.mp hchar)
      have hpos := List.length_pos_iff.mpr hpart.ne_nil
      rw [hdecode, encodeChars_cons_append, heq]
      exact .replace hpart (repairs_encodeChars_decodeChars rest)
termination_by bytes.length
decreasing_by
  · rw [← heq, List.length_append]
    omega
  · rw [heq, List.length_append]
    omega

/-- There is one way to repair bytes: to decode and encode them. -/
theorem repairs_iff (bytes repaired : List UInt8) :
    Repairs bytes repaired ↔ repaired = encode (decode bytes) := by
  rw [encode, decode, String.toList_ofList]
  constructor
  · intro h
    induction h with
    | nil => rfl
    | keep c _ ih => rw [ih, decodeChars_encodeChar_append, encodeChars_cons_append]
    | replace hpart _ ih =>
      rw [ih, decodeChars_of_isIllFormedPart hpart, encodeChars_cons_append]
  · rintro rfl
    exact repairs_encodeChars_decodeChars bytes

/-- A character that breaks off is one part; of a surrogate every byte is one. -/
example :
    encode (decode [0x61, 0xf0, 0x9f, 0x98, 0x62, 0xed, 0xa0, 0x80]) =
      encode "a\uFFFDb\uFFFD\uFFFD\uFFFD" := by
  decide

theorem isValidUTF8_encode (s : String) : (encode s).toByteArray.IsValidUTF8 :=
  (isValidUTF8_iff _).mpr ⟨s.toList, rfl⟩

theorem encode_decode_eq_iff (bytes : List UInt8) :
    encode (decode bytes) = bytes ↔ bytes.toByteArray.IsValidUTF8 := by
  rw [isValidUTF8_iff]
  constructor
  · intro h
    exact ⟨_, h.symm⟩
  · rintro ⟨cs, rfl⟩
    rw [encode, decode, decodeChars_encodeChars, String.toList_ofList]

theorem decode_eq_empty_iff (bytes : List UInt8) : decode bytes = "" ↔ bytes = [] := by
  constructor
  · intro h
    refine decodeChars_eq_nil ?_
    rw [← String.toList_ofList (l := decodeChars bytes), ← decode, h, String.toList_empty]
  · rintro rfl
    rfl

end DualToolchain.Utf8
