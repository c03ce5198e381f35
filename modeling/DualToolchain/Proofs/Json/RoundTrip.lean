import DualToolchain.Proofs.Json.Number
import DualToolchain.Proofs.Json.Text

/-! Every value is read back from its written form, in each layout that breaks lines with white
space only. The length of the text bounds the steps of the reader. -/

namespace DualToolchain.Json

/-! ### White space -/

def IsBlankText (cs : List Char) : Prop :=
  ∀ c ∈ cs, c = ' ' ∨ c = '\t' ∨ c = '\n' ∨ c = '\r'

structure Layout.IsBlank (l : Layout) : Prop where
  lineBreak_blank : ∀ depth, IsBlankText (l.lineBreak depth)
  colon_eq : ∃ blank, IsBlankText blank ∧ l.colon = ':' :: blank

theorem Layout.indented_isBlank : Layout.indented.IsBlank where
  lineBreak_blank depth c hc := by
    rcases List.mem_cons.mp hc with rfl | hc
    · exact .inr (.inr (.inl rfl))
    · exact .inl (List.eq_of_mem_replicate hc)
  colon_eq := ⟨[' '], by simp [IsBlankText], rfl⟩

theorem skip_append {blank : List Char} (h : IsBlankText blank) (cs : List Char) :
    skip (blank ++ cs) = skip cs := by
  apply List.dropWhile_append_of_pos
  intro c hc
  rcases h c hc with rfl | rfl | rfl | rfl <;> rfl

theorem skip_cons {c : Char} (h : (c == ' ' || c == '\t' || c == '\n' || c == '\r') = false)
    (cs : List Char) : skip (c :: cs) = c :: cs := by
  simp [skip, h]

theorem skip_skip (cs : List Char) : skip (skip cs) = skip cs := by
  induction cs with
  | nil => rfl
  | cons c cs ih =>
    unfold skip at ih ⊢
    rw [List.dropWhile_cons]
    split_ifs with h
    · exact ih
    · rw [List.dropWhile_cons, if_neg h]

theorem EndsNumber.append {blank cs : List Char} (hb : IsBlankText blank) (h : EndsNumber cs) :
    EndsNumber (blank ++ cs) := by
  cases blank with
  | nil => exact h
  | cons c blank =>
    apply EndsNumber.cons
    rcases hb c (by simp) with rfl | rfl | rfl | rfl <;> decide

/-! ### Readers skip white space -/

theorem readValue_skip (n : Nat) (cs : List Char) : readValue n (skip cs) = readValue n cs := by
  cases n with
  | zero => rfl
  | succ n => rw [readValue, readValue, skip_skip]

theorem readValue_append {blank : List Char} (h : IsBlankText blank) (n : Nat) (cs : List Char) :
    readValue n (blank ++ cs) = readValue n cs := by
  rw [← readValue_skip, skip_append h, readValue_skip]

theorem readItems_skip (n : Nat) (cs : List Char) : readItems n (skip cs) = readItems n cs := by
  cases n with
  | zero => rfl
  | succ n => rw [readItems, readItems, readValue_skip]

theorem readItems_append {blank : List Char} (h : IsBlankText blank) (n : Nat) (cs : List Char) :
    readItems n (blank ++ cs) = readItems n cs := by
  rw [← readItems_skip, skip_append h, readItems_skip]

theorem readMembers_skip (n : Nat) (cs : List Char) :
    readMembers n (skip cs) = readMembers n cs := by
  cases n with
  | zero => rfl
  | succ n => rw [readMembers, readMembers, skip_skip]

theorem readMembers_append {blank : List Char} (h : IsBlankText blank) (n : Nat)
    (cs : List Char) : readMembers n (blank ++ cs) = readMembers n cs := by
  rw [← readMembers_skip, skip_append h, readMembers_skip]

/-! ### Numbers and words for numbers -/

/-- The text begins as a number or a word for one does. -/
def StartsNumber (cs : List Char) : Prop :=
  ∃ c ∈ cs.head?, c.isDigit = true ∨ c = '-' ∨ c = 'N' ∨ c = 'I'

theorem startsNumber_ofInt (n : Int) (rest : List Char) :
    StartsNumber (Decimal.ofInt n ++ rest) := by
  obtain ⟨c, cs, hcs, hc⟩ := Decimal.toDigits_eq_cons n.natAbs
  unfold Decimal.ofInt
  split_ifs
  · exact ⟨'-', rfl, .inr (.inl rfl)⟩
  · rw [hcs]
    exact ⟨c, rfl, .inl hc⟩

theorem startsNumber_word (x : Binary64.NonFinite) (rest : List Char) :
    StartsNumber (x.word ++ rest) := by
  rcases x with (_ | _) | _
  · exact ⟨'I', rfl, .inr (.inr (.inr rfl))⟩
  · exact ⟨'-', rfl, .inr (.inl rfl)⟩
  · exact ⟨'N', rfl, .inr (.inr (.inl rfl))⟩

theorem StartsNumber.ne {cs : List Char} {c : Char} (h : StartsNumber (c :: cs)) :
    ∀ x ∈ [' ', '\t', '\n', '\r', '"', '[', ']', '\x7b', 'n', 't', 'f'], c ≠ x := by
  obtain ⟨d, hd, hc⟩ := h
  obtain rfl : c = d := by simpa using hd
  rintro x hx rfl
  simp only [List.mem_cons, List.not_mem_nil, or_false] at hx
  rcases hx with rfl | rfl | rfl | rfl | rfl | rfl | rfl | rfl | rfl | rfl | rfl <;>
    revert hc <;> decide

theorem StartsNumber.head {cs : List Char} (h : StartsNumber cs) :
    ∃ c cs', cs = c :: cs' ∧ c ≠ ']' ∧ skip (c :: cs') = c :: cs' := by
  obtain ⟨c, cs, rfl⟩ : ∃ c cs', cs = c :: cs' := by
    obtain ⟨c, hc, -⟩ := h
    exact ⟨c, List.head?_eq_some_iff.mp hc⟩
  have hne := h.ne
  refine ⟨c, cs, rfl, hne _ (by simp), ?_⟩
  rw [skip, List.dropWhile_cons, if_neg]
  simp_all

theorem readValue_of_startsNumber {cs : List Char} (h : StartsNumber cs) (n : Nat) :
    readValue (n + 1) cs = readNumber cs := by
  obtain ⟨c, cs, rfl, -, hs⟩ := h.head
  have hne := h.ne
  rw [readValue, hs]
  split <;> simp_all

/-! ### Reading back -/

/-- The written form of a value is read back in front of everything that ends a number, with a
step more than it has characters. -/
def ReadsBack (l : Layout) (depth : Nat) (v : Json) : Prop :=
  ∀ n rest, EndsNumber rest → (write l depth v).length ≤ n →
    readValue (n + 1) (write l depth v ++ rest) = some (v, rest)

/-- A written value begins with a character that is no white space and closes no list. -/
theorem write_head (l : Layout) (depth : Nat) (v : Json) (rest : List Char) :
    ∃ c cs, write l depth v ++ rest = c :: cs ∧ c ≠ ']' ∧ skip (c :: cs) = c :: cs := by
  cases v with
  | null => exact ⟨'n', _, rfl, by decide, rfl⟩
  | bool b => cases b <;> exact ⟨_, _, rfl, by decide, rfl⟩
  | int n =>
    rw [write]
    exact (startsNumber_ofInt n rest).head
  | decimal m e =>
    rw [write, List.append_assoc]
    exact (startsNumber_ofInt m _).head
  | nonFinite x =>
    rw [write]
    exact (startsNumber_word x rest).head
  | str s => exact ⟨'"', _, rfl, by decide, rfl⟩
  | arr vs => cases vs <;> exact ⟨'[', _, rfl, by decide, rfl⟩
  | obj ms => rcases ms with _ | ⟨⟨k, v⟩, ms⟩ <;> exact ⟨'\x7b', _, rfl, by decide, rfl⟩

variable {l : Layout}

theorem readsBack_str (depth : Nat) (s : String) : ReadsBack l depth (.str s) := by
  intro n rest _ _
  have hq : write l depth (.str s) ++ rest = '"' :: (s.toList.flatMap escape ++ '"' :: rest) := by
    simp [write, quote]
  rw [hq, readValue, skip_cons (by decide)]
  simp [readText_flatMap_escape]

theorem readItems_write (hl : l.IsBlank) (depth : Nat) {close : List Char}
    (hc : IsBlankText close) (rest : List Char) (vs : List Json)
    (hvs : ∀ v ∈ vs, ReadsBack l depth v) (v : Json) (hv : ReadsBack l depth v) (n : Nat)
    (hn : (write l depth v).length + (writeItems l depth vs).length < n) :
    readItems (n + 1) (write l depth v ++ (writeItems l depth vs ++ (close ++ ']' :: rest))) =
      some (v :: vs, rest) := by
  -- Induction on the items after `v`: a comma and a line break make up for the step they take.
  induction vs generalizing v n with
  | nil =>
    obtain ⟨n, rfl⟩ : ∃ m, n = m + 1 := ⟨n - 1, by omega⟩
    have hr := hv n (close ++ ']' :: rest) (.append hc (.cons (by decide))) (by omega)
    rw [writeItems, List.nil_append, readItems, hr]
    simp only
    rw [skip_append hc]
    rfl
  | cons v' vs ih =>
    obtain ⟨n, rfl⟩ : ∃ m, n = m + 1 := ⟨n - 1, by omega⟩
    simp only [writeItems, List.length_cons, List.length_append, List.cons_append,
      List.append_assoc] at hn ⊢
    have hi := ih (fun w hw => hvs w (List.mem_cons_of_mem _ hw)) v' (hvs v' List.mem_cons_self) n
      (by omega)
    rw [readItems, hv n _ (.cons (by decide)) (by omega)]
    simp only
    rw [skip_cons (by decide)]
    simp only
    rw [readItems_append (hl.lineBreak_blank depth), hi]
    rfl

theorem readsBack_arr (hl : l.IsBlank) {depth : Nat} {v : Json} {vs : List Json}
    (hv : ReadsBack l (depth + 1) v) (hvs : ∀ w ∈ vs, ReadsBack l (depth + 1) w) :
    ReadsBack l depth (.arr (v :: vs)) := by
  intro n rest _ hn
  simp only [write, List.cons_append, List.append_assoc, List.length_cons, List.length_append,
    List.nil_append] at hn ⊢
  obtain ⟨n, rfl⟩ : ∃ m, n = m + 1 := ⟨n - 1, by omega⟩
  have hi := readItems_write hl (depth + 1) (hl.lineBreak_blank depth) rest vs hvs v hv n
    (by omega)
  obtain ⟨c, cs, hcs, hne, hskip⟩ := write_head l (depth + 1) v
    (writeItems l (depth + 1) vs ++ (l.lineBreak depth ++ ']' :: rest))
  rw [hcs] at hi ⊢
  rw [readValue, skip_cons (by decide)]
  -- The first item is no closing bracket, so the list is not read as empty.
  simp only [skip_append (hl.lineBreak_blank (depth + 1)), hskip]
  split
  · simp_all
  · rw [hi]
    rfl

theorem readMembers_key (hl : l.IsBlank) (n : Nat) (k : String) (cs : List Char) :
    readMembers (n + 1) (quote k ++ (l.colon ++ cs)) =
      (readValue n cs).bind fun (v, rest) =>
        match skip rest with
        | ',' :: rest => (readMembers n rest).map fun (ms, rest) => ((k, v) :: ms, rest)
        | '\x7d' :: rest => some ([(k, v)], rest)
        | _ => none := by
  obtain ⟨blank, hb, hcolon⟩ := hl.colon_eq
  have hq : quote k ++ (l.colon ++ cs) =
      '"' :: (k.toList.flatMap escape ++ '"' :: ':' :: (blank ++ cs)) := by
    simp [quote, hcolon]
  rw [hq, readMembers, skip_cons (by decide)]
  simp only [readText_flatMap_escape]
  rw [skip_cons (by decide)]
  simp only [readValue_append hb, String.ofList_toList]
  cases readValue n cs <;> rfl

theorem readMembers_write (hl : l.IsBlank) (depth : Nat) {close : List Char}
    (hc : IsBlankText close) (rest : List Char) (ms : List (String × Json))
    (hms : ∀ m ∈ ms, ReadsBack l depth m.2) (k : String) (v : Json) (hv : ReadsBack l depth v)
    (n : Nat) (hn : (write l depth v).length + (writeMembers l depth ms).length < n) :
    readMembers (n + 1) (quote k ++ (l.colon ++ (write l depth v ++
      (writeMembers l depth ms ++ (close ++ '\x7d' :: rest))))) = some ((k, v) :: ms, rest) := by
  induction ms generalizing k v n with
  | nil =>
    obtain ⟨n, rfl⟩ : ∃ m, n = m + 1 := ⟨n - 1, by omega⟩
    have hr := hv n (close ++ '\x7d' :: rest) (.append hc (.cons (by decide))) (by omega)
    rw [writeMembers, List.nil_append, readMembers_key hl, hr, Option.bind_some]
    simp only
    rw [skip_append hc]
    rfl
  | cons m ms ih =>
    obtain ⟨n, rfl⟩ : ∃ m, n = m + 1 := ⟨n - 1, by omega⟩
    obtain ⟨k', v'⟩ := m
    simp only [writeMembers, List.length_cons, List.length_append, List.cons_append,
      List.append_assoc] at hn ⊢
    have hi := ih (fun m hm => hms m (List.mem_cons_of_mem _ hm)) k' v'
      (hms (k', v') List.mem_cons_self) n (by omega)
    rw [readMembers_key hl, hv n _ (.cons (by decide)) (by omega), Option.bind_some]
    simp only
    rw [skip_cons (by decide)]
    simp only
    rw [readMembers_append (hl.lineBreak_blank depth), hi]
    rfl

theorem readsBack_obj (hl : l.IsBlank) {depth : Nat} {k : String} {v : Json}
    {ms : List (String × Json)} (hv : ReadsBack l (depth + 1) v)
    (hms : ∀ m ∈ ms, ReadsBack l (depth + 1) m.2) :
    ReadsBack l depth (.obj ((k, v) :: ms)) := by
  intro n rest _ hn
  simp only [write, List.cons_append, List.append_assoc, List.length_cons, List.length_append,
    List.nil_append] at hn ⊢
  obtain ⟨n, rfl⟩ : ∃ m, n = m + 1 := ⟨n - 1, by omega⟩
  have hi := readMembers_write hl (depth + 1) (hl.lineBreak_blank depth) rest ms hms k v hv n
    (by omega)
  have hq : ∀ cs, skip (quote k ++ cs) = quote k ++ cs := fun _ => rfl
  rw [readValue, skip_cons (by decide)]
  simp only [skip_append (hl.lineBreak_blank (depth + 1)), hq]
  split
  · simp_all [quote]
  · rw [hi]
    rfl

theorem sizeOf_snd_lt {m : String × Json} {ms : List (String × Json)} (h : m ∈ ms) :
    sizeOf m.2 < sizeOf ms := by
  obtain ⟨k, v⟩ := m
  have hlt := List.sizeOf_lt_of_mem h
  simp only [Prod.mk.sizeOf_spec] at hlt ⊢
  omega

/-- Every value is read back, at every depth. -/
theorem readsBack (hl : l.IsBlank) : (depth : Nat) → (v : Json) → ReadsBack l depth v
  | _, .null => by
    intro n rest _ _
    rfl
  | _, .bool true => by
    intro n rest _ _
    rfl
  | _, .bool false => by
    intro n rest _ _
    rfl
  | depth, .int m => by
    intro n rest hrest _
    rw [write, readValue_of_startsNumber (startsNumber_ofInt m rest), readNumber_int m hrest]
  | depth, .decimal m e => by
    intro n rest hrest _
    rw [write, readValue_of_startsNumber, readNumber_decimal m e hrest]
    rw [List.append_assoc]
    exact startsNumber_ofInt m _
  | depth, .nonFinite x => by
    intro n rest _ _
    rw [write, readValue_of_startsNumber (startsNumber_word x rest), readNumber_nonFinite]
  | depth, .str s => readsBack_str depth s
  | _, .arr [] => by
    intro n rest _ _
    rfl
  | depth, .arr (v :: vs) =>
    readsBack_arr hl (readsBack hl (depth + 1) v) fun w _ => readsBack hl (depth + 1) w
  | _, .obj [] => by
    intro n rest _ _
    rfl
  | depth, .obj ((_, v) :: ms) =>
    readsBack_obj hl (readsBack hl (depth + 1) v) fun m hm =>
      have := sizeOf_snd_lt hm
      readsBack hl (depth + 1) m.2
termination_by _ v => sizeOf v

/-! ### Whole texts -/

/-- A text that holds a written value and white space after it is read as that value. -/
theorem parse?_write (hl : l.IsBlank) (v : Json) {blank : List Char} (hb : IsBlankText blank) :
    parse? (String.ofList (write l 0 v ++ blank)) = some v := by
  have hends : EndsNumber blank := by
    rw [← List.append_nil blank]
    exact EndsNumber.nil.append hb
  have hlen : (String.ofList (write l 0 v ++ blank)).length =
      (write l 0 v).length + blank.length := by
    rw [String.length_ofList, List.length_append]
  have hskip : skip blank = [] := by
    rw [← List.append_nil blank, skip_append hb]
    rfl
  rw [parse?, String.toList_ofList, readsBack hl 0 v _ blank hends (by omega)]
  simp [hskip]

/-! ### Written values are ASCII -/

structure Layout.IsAscii (l : Layout) : Prop where
  lineBreak_lt : ∀ depth, ∀ c ∈ l.lineBreak depth, c.toNat < 0x80
  colon_lt : ∀ c ∈ l.colon, c.toNat < 0x80

theorem Layout.indented_isAscii : Layout.indented.IsAscii where
  lineBreak_lt depth c hc := by
    rcases List.mem_cons.mp hc with rfl | hc
    · decide
    · obtain rfl := List.eq_of_mem_replicate hc
      decide
  colon_lt := by simp [Layout.indented]

theorem word_isAscii (x : Binary64.NonFinite) : ∀ c ∈ x.word, c.toNat < 0x80 := by
  have h : x.word.all (·.toNat < 0x80) = true := by
    rcases x with (_ | _) | _ <;> rfl
  intro c hc
  exact of_decide_eq_true (List.all_eq_true.mp h c hc)

mutual

theorem write_isAscii (hl : l.IsAscii) (depth : Nat) :
    ∀ v : Json, ∀ c ∈ write l depth v, c.toNat < 0x80
  | .null => by simp [write]
  | .bool true => by simp [write]
  | .bool false => by simp [write]
  | .int n => by
    rw [write]
    exact Decimal.ofInt_isAscii n
  | .decimal m e => by
    rw [write, List.forall_mem_append, List.forall_mem_cons]
    exact ⟨Decimal.ofInt_isAscii m, by decide, Decimal.ofInt_isAscii e⟩
  | .nonFinite x => by
    rw [write]
    exact word_isAscii x
  | .str s => by
    rw [write]
    exact quote_isAscii s
  | .arr [] => by simp [write]
  | .arr (v :: vs) => by
    have hv := write_isAscii hl (depth + 1) v
    have hvs := writeItems_isAscii hl (depth + 1) vs
    simp only [write, List.forall_mem_append, List.forall_mem_cons]
    exact ⟨⟨⟨⟨⟨by simp, hl.lineBreak_lt _⟩, hv⟩, hvs⟩, hl.lineBreak_lt _⟩, by simp⟩
  | .obj [] => by simp [write]
  | .obj ((k, v) :: ms) => by
    have hv := write_isAscii hl (depth + 1) v
    have hms := writeMembers_isAscii hl (depth + 1) ms
    simp only [write, List.forall_mem_append, List.forall_mem_cons]
    exact ⟨⟨⟨⟨⟨⟨⟨by simp, hl.lineBreak_lt _⟩, quote_isAscii k⟩, hl.colon_lt⟩, hv⟩, hms⟩,
      hl.lineBreak_lt _⟩, by simp⟩

theorem writeItems_isAscii (hl : l.IsAscii) (depth : Nat) :
    ∀ vs : List Json, ∀ c ∈ writeItems l depth vs, c.toNat < 0x80
  | [] => by simp [writeItems]
  | v :: vs => by
    have hv := write_isAscii hl depth v
    have hvs := writeItems_isAscii hl depth vs
    simp only [writeItems, List.forall_mem_append, List.forall_mem_cons]
    exact ⟨⟨⟨by simp, hl.lineBreak_lt _⟩, hv⟩, hvs⟩

theorem writeMembers_isAscii (hl : l.IsAscii) (depth : Nat) :
    ∀ ms : List (String × Json), ∀ c ∈ writeMembers l depth ms, c.toNat < 0x80
  | [] => by simp [writeMembers]
  | (k, v) :: ms => by
    have hv := write_isAscii hl depth v
    have hms := writeMembers_isAscii hl depth ms
    simp only [writeMembers, List.forall_mem_append, List.forall_mem_cons]
    exact ⟨⟨⟨⟨⟨by simp, hl.lineBreak_lt _⟩, quote_isAscii k⟩, hl.colon_lt⟩, hv⟩, hms⟩

end

theorem pretty_isAscii (v : Json) : ∀ c ∈ v.pretty.toList, c.toNat < 0x80 := by
  rw [pretty, String.toList_ofList]
  exact write_isAscii Layout.indented_isAscii 0 v

end DualToolchain.Json
