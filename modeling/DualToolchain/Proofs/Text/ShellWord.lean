import DualToolchain.Text.ShellWord
import Mathlib.Tactic.Common

/-! A joined command line is split into the words that it was made of, whatever they hold: a bare
word holds nothing that could end it or mean something else, and in a quoted one only a single quote
could, which is left to double quotes. -/

namespace DualToolchain.ShellWord

theorem contains_eq_false {c : Char} (h : isBare c = true) {cs : List Char}
    (hcs : cs.all (fun c' => !isBare c') = true) : cs.contains c = false := by
  rw [List.contains_eq_mem, decide_eq_false_iff_not]
  intro hc
  have hnot := List.all_eq_true.mp hcs c hc
  rw [h] at hnot
  contradiction

/-- A bare character neither ends a word nor opens a quotation, and stands for itself. -/
theorem ne_of_isBare {c : Char} (h : isBare c = true) :
    isSeparator c = false ∧ c ≠ '\'' ∧ c ≠ '"' ∧ (isExpansion c || isOperator c) = false := by
  refine ⟨contains_eq_false h (by decide), ?_, ?_, ?_⟩
  · rintro rfl
    exact absurd h (by decide)
  · rintro rfl
    exact absurd h (by decide)
  · rw [Bool.or_eq_false_iff]
    exact ⟨contains_eq_false h (by decide), contains_eq_false h (by decide)⟩

/-! ### One word -/

theorem splitFrom_bare {cs : List Char} (h : ∀ c ∈ cs, isBare c = true) (word rest : List Char) :
    splitFrom (.bare word) (cs ++ rest) = splitFrom (.bare (word ++ cs)) rest := by
  induction cs generalizing word with
  | nil => rw [List.nil_append, List.append_nil]
  | cons c cs ih =>
    obtain ⟨hc, hcs⟩ := List.forall_mem_cons.mp h
    obtain ⟨hsep, hsingle, hdouble, hactive⟩ := ne_of_isBare hc
    rw [List.cons_append, splitFrom, hsep, if_neg (by decide), if_neg hsingle, if_neg hdouble,
      hactive, if_neg (by decide), ih hcs, List.append_assoc, List.singleton_append]

theorem splitFrom_escape (c : Char) (word rest : List Char) :
    splitFrom (.single word) (escape c ++ rest) = splitFrom (.single (word ++ [c])) rest := by
  unfold escape
  split_ifs with h
  · -- The single quotes are left, and in double quotes the character is literal.
    subst h
    simp [splitFrom, isSeparator, isExpansion]
  · rw [List.singleton_append, splitFrom, if_neg h]

theorem splitFrom_flatMap_escape (cs word rest : List Char) :
    splitFrom (.single word) (cs.flatMap escape ++ rest) =
      splitFrom (.single (word ++ cs)) rest := by
  induction cs generalizing word with
  | nil => rw [List.flatMap_nil, List.nil_append, List.append_nil]
  | cons c cs ih =>
    rw [List.flatMap_cons, List.append_assoc, splitFrom_escape, ih, List.append_assoc,
      List.singleton_append]

/-- A quoted word is read as that word, and what follows may still go on with it. -/
theorem splitFrom_quoteChars (cs rest : List Char) :
    splitFrom .between (quoteChars cs ++ rest) = splitFrom (.bare cs) rest := by
  unfold quoteChars
  split_ifs with h
  · rw [Bool.and_eq_true, List.all_eq_true] at h
    obtain ⟨hne, hbare⟩ := h
    obtain ⟨c, cs, rfl⟩ := List.exists_cons_of_ne_nil (by simpa using hne)
    obtain ⟨hc, hcs⟩ := List.forall_mem_cons.mp hbare
    obtain ⟨hsep, hsingle, hdouble, hactive⟩ := ne_of_isBare hc
    rw [List.cons_append, splitFrom, hsep, if_neg (by decide), if_neg hsingle, if_neg hdouble,
      hactive, if_neg (by decide), splitFrom_bare hcs, List.singleton_append]
  · have hopen : isSeparator '\'' = false := by decide
    rw [List.cons_append, List.cons_append, List.append_assoc, splitFrom, hopen,
      if_neg (by decide), if_pos rfl, splitFrom_flatMap_escape, List.nil_append,
      List.singleton_append, splitFrom, if_pos rfl]

/-! ### Command lines -/

theorem joinChars_cons (word : List Char) {words : List (List Char)} (h : words ≠ []) :
    joinChars (word :: words) = quoteChars word ++ ' ' :: joinChars words := by
  obtain ⟨word', words, rfl⟩ := List.exists_cons_of_ne_nil h
  simp [joinChars, List.intercalate]

theorem splitFrom_joinChars (words : List (List Char)) :
    splitFrom .between (joinChars words) = some words := by
  induction words with
  | nil => rfl
  | cons word words ih =>
    by_cases hnil : words = []
    · subst hnil
      have hsingle : joinChars [word] = quoteChars word ++ [] := by
        simp [joinChars, List.intercalate]
      rw [hsingle, splitFrom_quoteChars]
      rfl
    · have hblank : isSeparator ' ' = true := by decide
      rw [joinChars_cons word hnil, splitFrom_quoteChars, splitFrom, hblank, if_pos rfl, ih,
        Option.map_some]

/-- Whatever the words are, they are read back from their line. -/
theorem split?_join (words : List String) : split? (join words) = some words := by
  have hwords : (words.map String.toList).map String.ofList = words := by
    simp [Function.comp_def]
  rw [split?, join, String.toList_ofList, splitFrom_joinChars, Option.map_some, hwords]

example : join ["cargo", "+it's", "", "ä"] = "cargo '+it'\"'\"'s' '' 'ä'" := by
  decide

end DualToolchain.ShellWord
