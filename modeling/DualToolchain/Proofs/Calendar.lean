import DualToolchain.Calendar
import Mathlib.Algebra.Ring.Nat
import Mathlib.Tactic.Common

/-! The calendar counts right. The date of a day is one that the calendar has, the days before it
are as many as the day says, and dates come in the order of their days. -/

namespace DualToolchain.Date

/-! ### Years -/

theorem isLeap_iff (year : Nat) :
    isLeap year = true ↔ year % 4 = 0 ∧ (year % 100 ≠ 0 ∨ year % 400 = 0) := by
  simp [isLeap]

def yearLength (year : Nat) : Nat :=
  if isLeap year then 366 else 365

theorem daysBefore_succ {year : Nat} (h : 1 ≤ year) :
    daysBefore (year + 1) = daysBefore year + yearLength year := by
  obtain ⟨y, rfl⟩ : ∃ y, year = y + 1 := ⟨year - 1, by omega⟩
  -- A quotient grows exactly where the remainder comes back to zero.
  have h4 : (y + 1) / 4 = y / 4 + if (y + 1) % 4 = 0 then 1 else 0 := by split_ifs <;> omega
  have h100 : (y + 1) / 100 = y / 100 + if (y + 1) % 100 = 0 then 1 else 0 := by
    split_ifs <;> omega
  have h400 : (y + 1) / 400 = y / 400 + if (y + 1) % 400 = 0 then 1 else 0 := by
    split_ifs <;> omega
  have hleap := isLeap_iff (y + 1)
  simp only [daysBefore, yearLength, Nat.add_sub_cancel, hleap]
  split_ifs at h4 h100 h400 ⊢ <;> omega

theorem daysBefore_mono {year year' : Nat} (h : 1 ≤ year) (hle : year ≤ year') :
    daysBefore year ≤ daysBefore year' := by
  induction hle with
  | refl => exact Nat.le_refl _
  | step hle ih =>
    rw [daysBefore_succ (Nat.le_trans h hle)]
    exact Nat.le_add_right_of_le ih

/-- A day by cycles of four centuries, centuries, cycles of four years and years, and the days of
its year before it. -/
theorem yearOf_eq (n : Nat) :
    ∃ cycle century four one rest, century ≤ 3 ∧ four ≤ 24 ∧ one ≤ 3 ∧
      yearOf n = (cycle * 400 + century * 100 + four * 4 + one + 1, rest) ∧
      n = cycle * 146097 + century * 36524 + four * 1461 + one * 365 + rest ∧
      (rest < 365 ∨ rest = 365 ∧ one = 3 ∧ (four < 24 ∨ century = 3)) := by
  refine ⟨_, _, _, _, _, ?_, ?_, ?_, rfl, ?_, ?_⟩ <;> omega

/-- The day lies in its year: behind the days before the year, and before its end. -/
theorem yearOf_spec (n : Nat) :
    1 ≤ (yearOf n).1 ∧ daysBefore (yearOf n).1 + (yearOf n).2 = n ∧
      (yearOf n).2 < yearLength (yearOf n).1 := by
  obtain ⟨cycle, century, four, one, rest, hcentury, hfour, hone, hyear, hn, hrest⟩ := yearOf_eq n
  have hleap := isLeap_iff (yearOf n).1
  simp only [hyear, daysBefore, yearLength] at hleap ⊢
  split_ifs with hl
  · have := hleap.mp hl
    omega
  · have := mt hleap.mpr hl
    omega

theorem daysBefore_add_yearLength_le {year year' : Nat} (h : 1 ≤ year) (hlt : year < year') :
    daysBefore year + yearLength year ≤ daysBefore year' := by
  rw [← daysBefore_succ h]
  exact daysBefore_mono (Nat.le_add_left 1 year) hlt

/-! ### Months -/

theorem sum_monthLengths (year : Nat) : (monthLengths (isLeap year)).sum = yearLength year := by
  unfold yearLength
  cases isLeap year <;> rfl

/-- A day among some months lies in one of them: behind the days of the months before it, and before
its end. -/
theorem locate_spec {lengths : List Nat} {n : Nat} (h : n < lengths.sum) (month : Nat) :
    ∃ i length day, locate month lengths n = (month + i, day + 1) ∧ lengths[i]? = some length ∧
      day < length ∧ (lengths.take i).sum + day = n := by
  induction lengths generalizing month n with
  | nil => simp at h
  | cons length rest ih =>
    rw [locate]
    split_ifs with hn
    · exact ⟨0, length, n, rfl, rfl, hn, by simp⟩
    · rw [List.sum_cons] at h
      obtain ⟨i, length', day, hl, hi, hday, hsum⟩ := ih (n := n - length) (by omega) (month + 1)
      refine ⟨i + 1, length', day, ?_, by simpa using hi, hday, ?_⟩
      · rw [hl, Nat.add_assoc, Nat.add_comm 1 i]
      · rw [List.take_succ_cons, List.sum_cons]
        omega

theorem sum_take_add_le {lengths : List Nat} {i j length : Nat} (hi : lengths[i]? = some length)
    (hij : i < j) : (lengths.take i).sum + length ≤ (lengths.take j).sum := by
  induction lengths generalizing i j with
  | nil => simp at hi
  | cons length' rest ih =>
    obtain ⟨j, rfl⟩ : ∃ k, j = k + 1 := ⟨j - 1, by omega⟩
    cases i with
    | zero =>
      obtain rfl : length' = length := by simpa using hi
      simp
    | succ i =>
      have hle := ih (by simpa using hi) (Nat.lt_of_succ_lt_succ hij)
      simp only [List.take_succ_cons, List.sum_cons]
      omega

/-! ### Dates -/

/-- The calendar has the date: a year from 1 on, one of twelve months and one of its days. -/
structure IsValid (d : Date) : Prop where
  year_pos : 1 ≤ d.year
  month_pos : 1 ≤ d.month
  day_pos : 1 ≤ d.day
  day_le : ∃ length, (monthLengths (isLeap d.year))[d.month - 1]? = some length ∧ d.day ≤ length

theorem IsValid.bounds {d : Date} (h : d.IsValid) : d.month ≤ 12 ∧ d.day ≤ 31 := by
  obtain ⟨length, hlength, hday⟩ := h.day_le
  have hmonth := (List.getElem?_eq_some_iff.mp hlength).1
  have hle : ∀ length ∈ monthLengths (isLeap d.year), length ≤ 31 := by
    cases isLeap d.year <;> decide
  have hmax := hle length (List.mem_of_getElem? hlength)
  simp only [monthLengths, List.length_cons, List.length_nil] at hmonth
  omega

theorem toDay_eq (d : Date) :
    d.toDay = daysBefore d.year + ((monthLengths (isLeap d.year)).take (d.month - 1)).sum +
      (d.day - 1) := by
  rw [toDay, List.sum_eq_foldl]

theorem ofDay_of_locate {n month day : Nat}
    (h : locate 1 (monthLengths (isLeap (yearOf n).1)) (yearOf n).2 = (month, day)) :
    ofDay n = ⟨(yearOf n).1, month, day⟩ := by
  simp only [ofDay, h]

/-- The date of a day is in the calendar, and its day is the one it was made of. -/
theorem ofDay_spec (n : Nat) : (ofDay n).IsValid ∧ (ofDay n).toDay = n := by
  obtain ⟨hpos, hyear, hlt⟩ := yearOf_spec n
  rw [← sum_monthLengths] at hlt
  obtain ⟨i, length, day, hl, hi, hday, hsum⟩ := locate_spec hlt 1
  rw [toDay_eq, ofDay_of_locate hl]
  refine ⟨⟨hpos, Nat.le_add_right 1 i, Nat.le_add_left 1 day, length, ?_, hday⟩, ?_⟩
  · simpa using hi
  · simp only [Nat.add_sub_cancel_left, Nat.add_sub_cancel]
    omega

/-- The date is earlier: in its year, else in its month, else in its day. -/
def IsBefore (d d' : Date) : Prop :=
  d.year < d'.year ∨
    d.year = d'.year ∧ (d.month < d'.month ∨ d.month = d'.month ∧ d.day < d'.day)

theorem isBefore_trichotomy (d d' : Date) : d.IsBefore d' ∨ d'.IsBefore d ∨ d = d' := by
  obtain ⟨year, month, day⟩ := d
  obtain ⟨year', month', day'⟩ := d'
  simp only [IsBefore, mk.injEq]
  omega

theorem IsValid.toDay_lt_next {d : Date} (h : d.IsValid) :
    d.toDay < daysBefore d.year + yearLength d.year := by
  obtain ⟨length, hlength, hday⟩ := h.day_le
  have hsum := sum_take_add_le hlength (List.getElem?_eq_some_iff.mp hlength).1
  rw [List.take_length, sum_monthLengths] at hsum
  have hpos := h.day_pos
  rw [toDay_eq]
  omega

theorem IsBefore.toDay_lt {d d' : Date} (h : d.IsBefore d') (hd : d.IsValid) :
    d.toDay < d'.toDay := by
  have hpos := hd.day_pos
  rcases h with hyear | ⟨hyear, hmonth | ⟨hmonth, hday⟩⟩
  · have hle := daysBefore_add_yearLength_le hd.year_pos hyear
    have hlt := hd.toDay_lt_next
    rw [toDay_eq d']
    omega
  · obtain ⟨length, hlength, hday⟩ := hd.day_le
    have hlt : d.month - 1 < d'.month - 1 := by
      have := hd.month_pos
      omega
    have hsum := sum_take_add_le hlength hlt
    rw [toDay_eq, toDay_eq, ← hyear]
    omega
  · rw [toDay_eq, toDay_eq, ← hyear, ← hmonth]
    omega

theorem ofDay_isBefore {m n : Nat} (h : m < n) : (ofDay m).IsBefore (ofDay n) := by
  obtain ⟨-, hdm⟩ := ofDay_spec m
  obtain ⟨hn, hdn⟩ := ofDay_spec n
  rcases isBefore_trichotomy (ofDay m) (ofDay n) with hbefore | hback | heq
  · exact hbefore
  · have hlt := hback.toDay_lt hn
    omega
  · rw [heq] at hdm
    omega

theorem year_ofDay_lt {n year : Nat} (h : n < daysBefore year) : (ofDay n).year < year := by
  by_contra hle
  obtain ⟨hvalid, hday⟩ := ofDay_spec n
  have hpos := hvalid.year_pos
  rcases Nat.eq_zero_or_pos year with rfl | hyear
  · simp [daysBefore] at h
  · have hmono := daysBefore_mono hyear (Nat.le_of_not_lt hle)
    rw [toDay_eq] at hday
    omega

end DualToolchain.Date
